import SuiteEngine.Decimal.Shortest
import SuiteEngine.Document.Value
import SuiteEngine.Text.Quoted

/-!
# Values in messages

`inspect` shows a value so that its kind can be told: texts are quoted, a tuple has round brackets and
absence has a name of its own. `text` is the value as plain text, which for a string is the string.
-/

namespace SuiteEngine.Value

mutual
/-- The value as messages show it. -/
def inspect : Value → String
  | missing => "MISSING"
  | null => "None"
  | bool b => if b then "True" else "False"
  | int n => toString n
  | float x => floatText x
  | str s => Text.quoted s
  | bytes b => Text.quotedBytes b
  | list xs => "[" ++ ", ".intercalate (inspectItems xs) ++ "]"
  | tuple [x] => "(" ++ inspect x ++ ",)"
  | tuple xs => "(" ++ ", ".intercalate (inspectItems xs) ++ ")"
  | obj fs => "\x7b" ++ ", ".intercalate (inspectFields fs) ++ "\x7d"
/-- The items as messages show them. -/
def inspectItems : List Value → List String
  | [] => []
  | x :: xs => inspect x :: inspectItems xs
/-- The fields as messages show them. -/
def inspectFields : List (String × Value) → List String
  | [] => []
  | (k, v) :: fs => (Text.quoted k ++ ": " ++ inspect v) :: inspectFields fs
end

/-- The value as plain text. -/
def text : Value → String
  | str s => s
  | v => inspect v

end SuiteEngine.Value
