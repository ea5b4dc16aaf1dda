import SuiteEngine.Document.Inspect
import SuiteEngine.Document.Value
import SuiteEngine.Json.Print
import SuiteEngine.Yaml.Timestamp

/-!
# What a YAML document denotes

A `Datum` is a document value, or one of the kinds that only YAML knows: timestamps, mappings with keys
of any kind, sets, and a collection that contains itself.
-/

namespace SuiteEngine.Yaml

/-- What a node denotes. The value in `plain` is no collection. -/
inductive Datum where
  | plain (v : Value)
  | timestamp (t : Timestamp)
  | list (items : List Datum)
  | tuple (items : List Datum)
  | map (entries : List (Datum × Datum))
  | set (members : List Datum)
  | loop (ofMap : Bool)

namespace Datum

instance : Inhabited Datum := ⟨.plain .null⟩

/-- The datum that is the string. -/
def str (s : String) : Datum := .plain (.str s)

mutual
/-- The document value as a datum. -/
def ofValue : Value → Datum
  | .list xs => .list (ofItems xs)
  | .tuple xs => .tuple (ofItems xs)
  | .obj fs => .map (ofFields fs)
  | .missing => .plain .missing
  | .null => .plain .null
  | .bool b => .plain (.bool b)
  | .int n => .plain (.int n)
  | .float x => .plain (.float x)
  | .str s => .plain (.str s)
  | .bytes b => .plain (.bytes b)
/-- The items as data. -/
def ofItems : List Value → List Datum
  | [] => []
  | x :: xs => ofValue x :: ofItems xs
/-- The fields as entries. -/
def ofFields : List (String × Value) → List (Datum × Datum)
  | [] => []
  | (k, v) :: fs => (str k, ofValue v) :: ofFields fs
end

/-- Whether the datum may be the key of a mapping. -/
def isKey : Datum → Bool
  | plain _ => true
  | timestamp _ => true
  | _ => false

/-- The moment on the universal clock, in millionths of a second from the start of the calendar. -/
def instant (m : Moment) (offset : Int) : Int :=
  let days := Calendar.dayNumber m.date.year m.date.month m.date.day
  let seconds : Int := (days * 86400 + m.hour * 3600 + m.minute * 60 + m.second : Nat)
  (seconds - offset) * 1000000 + m.microsecond

/-- Whether two keys are one: numbers are compared by what they denote, times by their moment. -/
def sameKey : Datum → Datum → Bool
  | plain a, plain b =>
    match a, b with
    | .str s, .str t => s == t
    | .bytes s, .bytes t => s == t
    | .null, .null => true
    | .missing, .missing => true
    | a, b => match a.asNumber?, b.asNumber? with
      | some m, some n => m == n
      | _, _ => false
  | timestamp (.moment a), timestamp (.moment b) =>
    match a.offset, b.offset with
    | some i, some j => instant a i == instant b j
    | i, j => i == j && a == b
  | timestamp a, timestamp b => a == b
  | _, _ => false

/-- Binds a key: in place when it is there already, else at the end. -/
def bind (key value : Datum) : List (Datum × Datum) → List (Datum × Datum)
  | [] => [(key, value)]
  | (k, v) :: rest =>
    if sameKey k key then (k, value) :: rest else (k, v) :: bind key value rest

/-- The entries of a mapping. -/
def entries? : Datum → Option (List (Datum × Datum))
  | map es => some es
  | loop true => some []
  | _ => none

/-- What a mapping has under a string. -/
def get? (d : Datum) (key : String) : Option Datum :=
  (d.entries?.getD []).find? (fun e => sameKey e.1 (str key)) |>.map Prod.snd

/-- The text of a string. -/
def str? : Datum → Option String
  | plain (.str s) => some s
  | _ => none

/-- Whether the datum is the explicit null. -/
def isNull : Datum → Bool
  | plain .null => true
  | _ => false

/-- Whether a condition on the datum holds: empty and zero ones and null do not. -/
def truthy : Datum → Bool
  | plain v => v.truthy
  | timestamp _ => true
  | list xs => !xs.isEmpty
  | tuple xs => !xs.isEmpty
  | map es => !es.isEmpty
  | set ms => !ms.isEmpty
  | loop _ => true

mutual
/-- The datum as messages show it. -/
def inspect : Datum → String
  | plain v => v.inspect
  | timestamp t => t.inspect
  | list xs => "[" ++ ", ".intercalate (inspectItems xs) ++ "]"
  | tuple [x] => "(" ++ inspect x ++ ",)"
  | tuple xs => "(" ++ ", ".intercalate (inspectItems xs) ++ ")"
  | map es => "\x7b" ++ ", ".intercalate (inspectEntries es) ++ "\x7d"
  | set [] => "set()"
  | set ms => "\x7b" ++ ", ".intercalate (inspectItems ms) ++ "\x7d"
  | loop ofMap => if ofMap then "\x7b...\x7d" else "[...]"
/-- The items as messages show them. -/
def inspectItems : List Datum → List String
  | [] => []
  | x :: xs => inspect x :: inspectItems xs
/-- The entries as messages show them. -/
def inspectEntries : List (Datum × Datum) → List String
  | [] => []
  | (k, v) :: es => (inspect k ++ ": " ++ inspect v) :: inspectEntries es
end

mutual
/-- Whether all integers in the datum can be written. -/
def writable : Datum → Bool
  | plain v => Json.writable v
  | timestamp _ => true
  | list xs => writableItems xs
  | tuple xs => writableItems xs
  | map es => writableEntries es
  | set ms => writableItems ms
  | loop _ => true
/-- Whether all integers in the items can be written. -/
def writableItems : List Datum → Bool
  | [] => true
  | x :: xs => writable x && writableItems xs
/-- Whether all integers in the entries can be written. -/
def writableEntries : List (Datum × Datum) → Bool
  | [] => true
  | (k, v) :: es => writable k && writable v && writableEntries es
end

/-- The datum as plain text. -/
def text : Datum → String
  | plain v => v.text
  | timestamp t => t.write " "
  | d => d.inspect

end Datum

end SuiteEngine.Yaml
