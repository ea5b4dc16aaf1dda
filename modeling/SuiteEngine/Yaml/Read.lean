import SuiteEngine.Text.Base64
import SuiteEngine.Text.Case
import SuiteEngine.Text.Numeral
import SuiteEngine.Yaml.Datum
import SuiteEngine.Yaml.Node

/-!
# Reading YAML

`Yaml.read` gives what the one document of a text denotes. A merge key puts the entries of other
mappings before those of its own mapping, which win. When several nodes denote nothing, the fault is
that of the shallowest, and of those the first.
-/

namespace SuiteEngine.Yaml

/-! ## Scalars -/

/-- The value of a digit in any base. -/
def anyDigit? (c : Char) : Option Nat :=
  (Text.digitValue? c).or <|
    if 'a' ≤ c && c ≤ 'z' then some (c.toNat - 87)
    else if 'A' ≤ c && c ≤ 'Z' then some (c.toNat - 55)
    else none

/-- The digits without the mark of their base, if they have it. -/
def withoutBaseMark (base : Nat) : List Char → List Char
  | '0' :: m :: rest =>
    let marks := match base with
      | 2 => "bB"
      | 8 => "oO"
      | 16 => "xX"
      | _ => ""
    if marks.toList.contains m then rest else '0' :: m :: rest
  | cs => cs

/-- How many digits of the base stand at the start of a text. -/
def leadingDigits (base : Nat) (cs : List Char) : Nat :=
  (cs.takeWhile fun c => (anyDigit? c).any (· < base)).length

/-- The integer that a text denotes in a base. In base ten it has a limit on its digits. -/
def integerIn (base : Nat) (text : String) : Except Fault Int :=
  let (neg, cs) := Text.splitSign (Text.trimList Text.isNumberBlank text.toList)
  let digits := do
    let ds ← (withoutBaseMark base cs).mapM anyDigit?
    guard (!ds.isEmpty && ds.all (· < base))
    return ds
  if base = 10 ∧ leadingDigits base cs > Text.digitLimit then
    .error (.ofKind .value (Text.tooManyDigits (leadingDigits base cs)))
  else match digits with
  | some ds =>
    let n : Nat := ds.foldl (fun n d => n * base + d) 0
    .ok (if neg then -(n : Int) else n)
  | none =>
    .error (.ofKind .value
      ("invalid literal for int() with base " ++ toString base ++ ": " ++ Text.quoted text))

/-- The number with these digits in base sixty, the first digit being the highest. -/
def inBaseSixty (digits : List Int) : Int := digits.foldl (fun n d => n * 60 + d) 0

/-- Splits off the sign of a number; there has to be a character. -/
def signed (text : String) : Except Fault (Bool × List Char) :=
  match text.toList.filter (· != '_') with
  | [] => .error (.ofKind .index "string index out of range")
  | cs => .ok (Text.splitSign cs)

/-- The integer that a scalar denotes. -/
def readInteger (text : String) : Except Fault Int := do
  let (neg, cs) ← signed text
  let rest := String.ofList cs
  let n ←
    if rest == "0" then pure 0
    else match cs with
      | [] => throw (.ofKind .index "string index out of range")
      | '0' :: 'b' :: ds => integerIn 2 (String.ofList ds)
      | '0' :: 'x' :: ds => integerIn 16 (String.ofList ds)
      | '0' :: _ => integerIn 8 rest
      | _ =>
        if cs.contains ':' then inBaseSixty <$> (rest.splitOn ":").mapM (integerIn 10)
        else integerIn 10 rest
  return if neg then -n else n

/-- The decimal that a text denotes. -/
def decimal (text : String) : Except Fault Float :=
  match Text.parseFloat? text with
  | some x => .ok x
  | none =>
    .error (.ofKind .value ("could not convert string to float: " ++ Text.quoted text))

/-- The sum of digits of base sixty, the lowest digit being the first. The powers of the base are
exact, and one that is beyond all floats ends the sum. -/
def sumOfSixties (digits : List Float) : Except Fault Float := do
  let step (acc : Float × Nat) (d : Float) : Except Fault (Float × Nat) :=
    let power := Float.ofNat acc.2
    if power.isInf then .error (.ofKind .overflow "int too large to convert to float")
    else .ok (acc.1 + d * power, acc.2 * 60)
  return (← digits.foldlM step (0.0, 1)).1

/-- The float that a scalar denotes. -/
def readFloat (text : String) : Except Fault Float := do
  let (neg, cs) ← signed (Text.lower text)
  let rest := String.ofList cs
  let x ←
    if rest == ".inf" then pure (1.0 / 0.0)
    else if rest == ".nan" then pure (0.0 / 0.0)
    else if cs.contains ':' then
      do sumOfSixties (← (rest.splitOn ":").mapM decimal).reverse
    else decimal rest
  return if neg then -x else x

/-- The truth value that a scalar denotes. -/
def readBool (text : String) : Except Fault Bool :=
  let word := Text.lower text
  if ["yes", "true", "on"].contains word then .ok true
  else if ["no", "false", "off"].contains word then .ok false
  else .error (.ofKind .key (Text.quoted word))

/-- The bytes that a scalar denotes. -/
def readBytes (text : String) : Except Fault (List UInt8) :=
  if text.toList.any fun c => c.toNat ≥ 128 then .error .malformed
  else match Text.fromBase64? text.toList with
    | some bytes => .ok bytes
    | none => .error .malformed

/-- The timestamp that a scalar denotes. -/
def readTimestamp (text : String) : Except Fault Timestamp :=
  match Timestamp.read? true text with
  | none => .error (.ofKind .noAttribute "'NoneType' object has no attribute 'groupdict'")
  | some t =>
    match t.check with
    | .ok () => .ok t
    | .error f => .error (.scalar f)

/-- What a scalar of a kind denotes. -/
def readScalar (tag : Tag) (text : String) : Except Fault Datum :=
  match tag with
  | .null => .ok (.plain .null)
  | .bool => (fun b => .plain (.bool b)) <$> readBool text
  | .int => (fun n => .plain (.int n)) <$> readInteger text
  | .float => (fun x => .plain (.float x)) <$> readFloat text
  | .binary => (fun b => .plain (.bytes b)) <$> readBytes text
  | .timestamp => .timestamp <$> readTimestamp text
  | .str => .ok (.str text)
  | _ => .error .malformed

/-! ## Nodes -/

/-- Data under construction, with the depth of every fault found so far, the latest first. -/
abbrev Build := StateM (List (Nat × Fault))

namespace Build

/-- The datum, or null and its fault noted. -/
def orFault (depth : Nat) (d : Except Fault Datum) : Build Datum :=
  match d with
  | .ok d => return d
  | .error f => do
    modify ((depth, f) :: ·)
    return .plain .null

/-- Notes that there is no datum here. -/
def malformed (depth : Nat) : Build Datum := orFault depth (.error .malformed)

/-- Whether the kind is that of a scalar. -/
def isScalarTag (tag : Tag) : Bool :=
  match tag with
  | .null | .bool | .int | .float | .binary | .timestamp | .str => true
  | _ => false

/-- Whether the node is the key that merges mappings. -/
def isMergeKey : Node → Bool
  | .scalar .merge _ => true
  | _ => false

/-- Whether the node is the key whose value stands for its whole mapping. -/
def isValueKey : Node → Bool
  | .scalar .value _ => true
  | _ => false

mutual
/-- The text of a node where a scalar is wanted; a mapping may have one under its value key. -/
def scalarText? : Node → Option String
  | .scalar _ text => some text
  | .map _ entries => valueText? entries
  | _ => none
/-- The text under the first value key. -/
def valueText? : List (Node × Node) → Option String
  | [] => none
  | (k, v) :: rest => if isValueKey k then scalarText? v else valueText? rest
end

/-- A mapping of these entries, later ones winning. -/
def mapOf (entries : List (Datum × Datum)) : List (Datum × Datum) :=
  entries.foldl (fun es e => Datum.bind e.1 e.2 es) []

mutual
/-- What a node denotes. -/
def datum (depth : Nat) : Node → Build Datum
  | .scalar tag text => orFault depth (readScalar tag text)
  | .loop ofMap => return .loop ofMap
  | .seq tag items => do
    match tag with
    | .seq => return .list (← data (depth + 1) items)
    | .omap => return .list (← couples (depth + 1) items)
    | .pairs => return .list (← couples (depth + 1) items)
    | _ => malformed depth
  | .map tag entries => do
    match tag with
    | .map =>
      let (merged, own) ← pairs (depth + 1) entries
      return .map (mapOf (merged ++ own))
    | .set =>
      let (merged, own) ← pairs (depth + 1) entries
      return .set ((mapOf (merged ++ own)).map Prod.fst)
    | _ =>
      match isScalarTag tag, valueText? entries with
      | true, some text => orFault depth (readScalar tag text)
      | _, _ => malformed depth
/-- What some nodes denote. -/
def data (depth : Nat) : List Node → Build (List Datum)
  | [] => return []
  | n :: ns => do
    let d ← datum depth n
    return d :: (← data depth ns)
/-- What mappings of one entry denote as couples. -/
def couples (depth : Nat) : List Node → Build (List Datum)
  | [] => return []
  | .map _ [(k, v)] :: ns => do
    let key ← datum depth k
    let value ← datum depth v
    return .tuple [key, value] :: (← couples depth ns)
  | _ :: _ => return [← malformed depth]
/-- The entries that a mapping gets from others, and its own. -/
def pairs (depth : Nat) : List (Node × Node) → Build (List (Datum × Datum) × List (Datum × Datum))
  | [] => return ([], [])
  | (k, v) :: rest => do
    if isMergeKey k then
      let here ← mergedFrom depth v
      let (merged, own) ← pairs depth rest
      return (here ++ merged, own)
    else
      let key ← if isValueKey k then pure (Datum.str ((scalarText? k).getD "")) else datum depth k
      if !key.isKey then
        let _ ← malformed depth
      let value ← datum depth v
      let (merged, own) ← pairs depth rest
      return (merged, (key, value) :: own)
/-- The entries that the value of a merge key gives. -/
def mergedFrom (depth : Nat) : Node → Build (List (Datum × Datum))
  | .map _ entries => do
    let (merged, own) ← pairs depth entries
    return merged ++ own
  | .seq _ items => mergedFromAll depth items
  | .loop true => return []
  | _ => do
    let _ ← malformed depth
    return []
/-- The entries that the mappings in a sequence give; those of earlier mappings win. -/
def mergedFromAll (depth : Nat) : List Node → Build (List (Datum × Datum))
  | [] => return []
  | .map _ entries :: ns => do
    let (merged, own) ← pairs depth entries
    return (← mergedFromAll depth ns) ++ merged ++ own
  | .loop true :: ns => mergedFromAll depth ns
  | _ :: _ => do
    let _ ← malformed depth
    return []
end

end Build

/-- The shallowest fault and of those the first, the latest standing first in the list. -/
def shallowest? : List (Nat × Fault) → Option (Nat × Fault)
  | [] => none
  | f :: earlier =>
    match shallowest? earlier with
    | some g => some (if f.1 < g.1 then f else g)
    | none => some f

/-- What a node denotes. -/
def Node.datum (n : Node) : Except Fault Datum :=
  let (d, faults) := (Build.datum 0 n).run []
  match shallowest? faults with
  | some (_, fault) => .error fault
  | none => .ok d

/-- What the one document of a text denotes; null when there is none. -/
def read (text : String) : Except Fault Datum := do
  let tokens ← Token.scan text.toList
  match ← Node.ofTokens tokens with
  | some n => n.datum
  | none => return .plain .null

end SuiteEngine.Yaml
