import SuiteEngine.Document.Inspect
import SuiteEngine.Failure
import SuiteEngine.Text.Numeral

/-!
# Values as JSON text

`Json.render` writes a value as JSON text, on one line or indented, with the keys in their own order or
sorted. A value that JSON has no form for is written as the text that messages show for it. `writable`
says whether its integers are not too long for that. `dump` is strict: it fails at the first part that
JSON has no form for. `ascii` puts a text that is written into ASCII.
-/

namespace SuiteEngine.Json

/-- How JSON text is laid out. -/
structure Layout where
  /-- Whether the keys of every object are sorted. -/
  sortKeys : Bool
  /-- The blanks that each level is indented by; one line in all when there is none. -/
  indent : Option Nat

/-- One line, keys in their own order. -/
def Layout.line : Layout := ⟨false, none⟩

/-- One line, keys sorted. -/
def Layout.sortedLine : Layout := ⟨true, none⟩

/-- One line a value, each level two blanks further in. -/
def Layout.indented : Layout := ⟨false, some 2⟩

/-- How one character is written inside a JSON string. -/
def stringChar (c : Char) : String :=
  if c == '"' then "\\\""
  else if c == '\\' then "\\\\"
  else if c == '\n' then "\\n"
  else if c == '\r' then "\\r"
  else if c == '\t' then "\\t"
  else if c == '\x08' then "\\b"
  else if c == '\x0c' then "\\f"
  else if c.toNat < 32 then "\\u" ++ Text.hex 4 c.toNat
  else String.ofList [c]

/-- The text as a JSON string. -/
def string (s : String) : String := "\"" ++ String.join (s.toList.map stringChar) ++ "\""

/-- The float as a JSON number; the values JSON has no number for go by their names. -/
def number (x : Float) : String :=
  if x.isNaN then "NaN"
  else if x.isInf then (if floatIsNegative x then "-Infinity" else "Infinity")
  else floatText x

/-- Fields sorted by key. -/
def sortFields (fs : List (String × Value)) : List (String × Value) :=
  fs.mergeSort fun a b => decide (a.1 ≤ b.1)

/-- The line break before an entry at this depth, if the layout has lines. -/
def Layout.break (layout : Layout) (depth : Nat) : String :=
  match layout.indent with
  | none => ""
  | some width => "\n" ++ "".pushn ' ' (width * depth)

/-- The entries of an array or object between its brackets, `depth` being that of the entries. -/
def Layout.enclose (layout : Layout) (depth : Nat) (opening closing : String)
    (entries : List String) : String :=
  if entries.isEmpty then opening ++ closing
  else
    let separator := if layout.indent.isSome then "," ++ layout.break depth else ", "
    opening ++ layout.break depth ++ separator.intercalate entries
      ++ layout.break (depth - 1) ++ closing

mutual
/-- The value as JSON text, `depth` levels in. -/
def renderAt (layout : Layout) (depth : Nat) : Value → String
  | .null => "null"
  | .bool b => if b then "true" else "false"
  | .int n => toString n
  | .float x => number x
  | .str s => string s
  | .list xs => layout.enclose (depth + 1) "[" "]" (renderItems layout (depth + 1) xs)
  | .tuple xs => layout.enclose (depth + 1) "[" "]" (renderItems layout (depth + 1) xs)
  | .obj fs =>
    let entries := renderFields layout (depth + 1) fs
    let entries := if layout.sortKeys then
        entries.mergeSort (fun a b => decide (a.1 ≤ b.1))
      else entries
    layout.enclose (depth + 1) "\x7b" "\x7d" (entries.map fun (k, t) => string k ++ ": " ++ t)
  | v => string v.inspect
/-- The items as JSON texts. -/
def renderItems (layout : Layout) (depth : Nat) : List Value → List String
  | [] => []
  | x :: xs => renderAt layout depth x :: renderItems layout depth xs
/-- The keys with the JSON texts of their values. -/
def renderFields (layout : Layout) (depth : Nat) : List (String × Value) → List (String × String)
  | [] => []
  | (k, v) :: fs => (k, renderAt layout depth v) :: renderFields layout depth fs
end

/-- Whether an integer has no more digits than a whole number may be written with. -/
def intFits (n : Int) : Bool := (Nat.toDigits 10 n.natAbs).length ≤ Text.digitLimit

/-- Whether all integers in the value can be written. -/
def writable (v : Value) : Bool :=
  v.holdsEverywhere fun part =>
    match part with
    | .int n => intFits n
    | _ => true

/-- The value as JSON text. -/
def render (layout : Layout) (v : Value) : String := renderAt layout 0 v

/-! ## Writing strictly -/

/-- Why a part of a value cannot be written. -/
inductive Unwritable where
  | longInteger
  /-- A float that JSON has no number for. -/
  | notFinite (x : Float)
  /-- A part of this kind. -/
  | noForm (kind : String)

mutual
/-- Why the value cannot be written, if it cannot: what is wrong with its first part that cannot be. -/
def fault? : Value → Option Unwritable
  | .missing => some (.noForm Value.missing.kindName)
  | .bytes b => some (.noForm (Value.bytes b).kindName)
  | .int n => if intFits n then none else some .longInteger
  | .float x => if x.isNaN || x.isInf then some (.notFinite x) else none
  | .list xs => faultOfItems? xs
  | .tuple xs => faultOfItems? xs
  | .obj fs => faultOfFields? fs
  | _ => none
/-- Why the first item that cannot be written cannot. -/
def faultOfItems? : List Value → Option Unwritable
  | [] => none
  | x :: xs => (fault? x).or (faultOfItems? xs)
/-- Why the first field that cannot be written cannot. -/
def faultOfFields? : List (String × Value) → Option Unwritable
  | [] => none
  | (_, v) :: fs => (fault? v).or (faultOfFields? fs)
end

/-- The failure that a part is which cannot be written; a float is named where there are lines. -/
def Unwritable.failure (indent : Option Nat) : Unwritable → Failure
  | longInteger => ⟨.other "ValueError", Text.tooLongToWrite⟩
  | notFinite x =>
    ⟨.other "ValueError", "Out of range float values are not JSON compliant" ++
      (if indent.isSome then ": " ++ (Value.float x).inspect else "")⟩
  | noForm kind => ⟨.other "TypeError", "Object of type " ++ kind ++ " is not JSON serializable"⟩

/-- The value as JSON text, keys in their own order, if JSON has a form for all of it. -/
def dump (indent : Option Nat) (v : Value) : Except Failure String :=
  match fault? v with
  | none => .ok (render ⟨false, indent⟩ v)
  | some u => .error (u.failure indent)

/-! ## ASCII -/

/-- The escape of a code point or of one half of a character. -/
def unicodeEscapeOf (n : Nat) : List Char := '\\' :: 'u' :: (Text.hex 4 n).toList

/-- A character of a JSON text as ASCII: itself, or one escape, or two for its halves. -/
def asciiChar (c : Char) : List Char :=
  let n := c.toNat
  if n < 127 then [c]
  else if n < 0x10000 then unicodeEscapeOf n
  else
    unicodeEscapeOf (0xD800 + (n - 0x10000) / 0x400) ++
      unicodeEscapeOf (0xDC00 + (n - 0x10000) % 0x400)

/-- The JSON text in nothing but ASCII. -/
def ascii (text : String) : String := String.ofList (text.toList.flatMap asciiChar)

end SuiteEngine.Json
