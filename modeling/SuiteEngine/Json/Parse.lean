import SuiteEngine.Document.Value
import SuiteEngine.Text.Numeral

/-!
# Reading JSON text

`Json.parse` reads a whole text as one value or says what was expected where. Beside the numbers of the
standard the names of the infinities and of the value that is no number are accepted; a whole number
has a limit on its digits. Of two fields with one key the later value stays, at the earlier place.
-/

namespace SuiteEngine.Json

/-- What is wrong with a JSON text. -/
inductive Fault where
  | byteOrderMark
  | expectingValue
  | expectingPropertyName
  | expectingColon
  | expectingComma
  | unterminatedString
  | controlCharacter
  | invalidEscape
  | invalidUnicodeEscape
  | extraData
  | tooManyDigits (count : Nat)
deriving DecidableEq, Repr

/-- The wording of a fault. -/
def Fault.message : Fault → String
  | .byteOrderMark => "Unexpected UTF-8 BOM (decode using utf-8-sig)"
  | .expectingValue => "Expecting value"
  | .expectingPropertyName => "Expecting property name enclosed in double quotes"
  | .expectingColon => "Expecting ':' delimiter"
  | .expectingComma => "Expecting ',' delimiter"
  | .unterminatedString => "Unterminated string starting at"
  | .controlCharacter => "Invalid control character at"
  | .invalidEscape => "Invalid \\escape"
  | .invalidUnicodeEscape => "Invalid \\uXXXX escape"
  | .extraData => "Extra data"
  | .tooManyDigits count => Text.tooManyDigits count

/-- A fault and the number of characters before it. -/
structure ParseError where
  fault : Fault
  position : Nat
deriving DecidableEq, Repr

/-- Whether the text itself is at fault; a number with too many digits is well formed. -/
def ParseError.isSyntax (e : ParseError) : Bool :=
  match e.fault with
  | .tooManyDigits _ => false
  | _ => true

/-- The line of a position, from one. -/
def lineOf (s : String) (position : Nat) : Nat :=
  ((s.toList.take position).filter (· == '\n')).length + 1

/-- The column of a position, from one. -/
def columnOf (s : String) (position : Nat) : Nat :=
  ((s.toList.take position).reverse.takeWhile (· != '\n')).length + 1

/-- The fault with its place in the text. -/
def ParseError.message (e : ParseError) (s : String) : String :=
  if e.isSyntax then
    e.fault.message ++ ": line " ++ toString (lineOf s e.position) ++ " column "
      ++ toString (columnOf s e.position) ++ " (char " ++ toString e.position ++ ")"
  else e.fault.message

/-- What is still to be read, and how many characters were read before it. -/
structure Cursor where
  rest : List Char
  position : Nat

/-- So many characters further. -/
def Cursor.forward (c : Cursor) (n : Nat) : Cursor := ⟨c.rest.drop n, c.position + n⟩

/-- One character further. -/
def Cursor.advance (c : Cursor) : Cursor := c.forward 1

/-- Past the blanks that may stand between tokens. -/
def skipBlanks : List Char → Nat → Cursor
  | c :: cs, position =>
    if c == ' ' || c == '\t' || c == '\n' || c == '\r' then skipBlanks cs (position + 1)
    else ⟨c :: cs, position⟩
  | [], position => ⟨[], position⟩

/-- Past the blanks from the cursor on. -/
def Cursor.skip (c : Cursor) : Cursor := skipBlanks c.rest c.position

/-- An error at the cursor. -/
def Cursor.fail {α : Type} (c : Cursor) (fault : Fault) : Except ParseError α :=
  .error ⟨fault, c.position⟩

/-- The number that four hexadecimal digits stand for. -/
def hexValue? (cs : List Char) : Option Nat :=
  cs.foldl (fun acc c => do
    let n ← acc
    let d ← if c.isDigit then some (c.toNat - 48)
      else if 'a' ≤ c && c ≤ 'f' then some (c.toNat - 87)
      else if 'A' ≤ c && c ≤ 'F' then some (c.toNat - 55)
      else none
    return n * 16 + d) (some 0)

/-- The character that a backslash and `c` stand for. -/
def escapeChar? (c : Char) : Option Char :=
  if c == '"' || c == '\\' || c == '/' then some c
  else if c == 'n' then some '\n'
  else if c == 't' then some '\t'
  else if c == 'r' then some '\r'
  else if c == 'b' then some '\x08'
  else if c == 'f' then some '\x0c'
  else none

/-- The character of a code point, the replacement character for one that stands for none. -/
def charOf (n : Nat) : Char := if n.isValidChar then Char.ofNat n else '\uFFFD'

/-- Four hexadecimal digits after `u`, with at least one more character behind them. -/
def unicodeEscape (u : Cursor) : Except ParseError Nat :=
  let digits := (u.rest.drop 1).take 4
  if u.rest.length < 6 then u.fail .invalidUnicodeEscape
  else match hexValue? digits with
    | some n => .ok n
    | none => u.fail .invalidUnicodeEscape

/-- A unicode escape that begins at `u`: its character and the length after the backslash. A pair of
escapes for the two halves of a character is one character. -/
def unicodeChar (u : Cursor) : Except ParseError (Char × Nat) := do
  let high ← unicodeEscape u
  if 0xD800 ≤ high && high < 0xDC00 then
    match u.rest.drop 5 with
    | '\\' :: 'u' :: _ =>
      if u.rest.length < 12 then return ('\uFFFD', 5)
      else
        let low ← unicodeEscape (u.forward 6)
        if 0xDC00 ≤ low && low < 0xE000 then
          return (charOf (0x10000 + (high - 0xD800) * 1024 + (low - 0xDC00)), 11)
        else return ('\uFFFD', 5)
    | _ => return ('\uFFFD', 5)
  else return (charOf high, 5)

/-- Reads a string whose opening quote stood at `start`; the next `skip` characters are read. -/
def stringFrom (start : Nat) (seen : List Char) (position : Nat) :
    (skip : Nat) → List Char → Except ParseError (String × Cursor)
  | _, [] => .error ⟨.unterminatedString, start⟩
  | skip + 1, _ :: cs => stringFrom start seen (position + 1) skip cs
  | 0, c :: cs =>
    if c == '"' then .ok (String.ofList seen.reverse, ⟨cs, position + 1⟩)
    else if c == '\\' then
      match cs with
      | [] => .error ⟨.unterminatedString, start⟩
      | 'u' :: _ =>
        match unicodeChar ⟨cs, position + 1⟩ with
        | .ok (ch, length) => stringFrom start (ch :: seen) (position + 1) length cs
        | .error e => .error e
      | e :: _ =>
        match escapeChar? e with
        | some ch => stringFrom start (ch :: seen) (position + 1) 1 cs
        | none => .error ⟨.invalidEscape, position⟩
    else if c.toNat < 32 then .error ⟨.controlCharacter, position⟩
    else stringFrom start (c :: seen) (position + 1) 0 cs

/-- The digits at the start of `cs` and what follows them. -/
def spanDigits (cs : List Char) : List Char × List Char :=
  (cs.takeWhile Char.isDigit, cs.dropWhile Char.isDigit)

/-- The whole part of a number: a zero, or digits that do not start with one. -/
def wholePart? : List Char → Option (List Char × List Char)
  | '0' :: cs => some (['0'], cs)
  | c :: cs => if c.isDigit then some (spanDigits (c :: cs)) else none
  | [] => none

/-- The fraction of a number, if one stands here: a point and at least one digit. -/
def fractionPart : List Char → List Char × List Char
  | '.' :: cs =>
    match spanDigits cs with
    | ([], _) => ([], '.' :: cs)
    | found => found
  | cs => ([], cs)

/-- The exponent of a number, if one stands here, with its sign. -/
def exponentPart (cs : List Char) : Option (Bool × List Char) × List Char :=
  match cs with
  | e :: tail =>
    if e == 'e' || e == 'E' then
      let (neg, tail) := Text.splitSign tail
      match spanDigits tail with
      | ([], _) => (none, cs)
      | (ds, tail) => (some (neg, ds), tail)
    else (none, cs)
  | [] => (none, cs)

/-- The number with these decimal digits. -/
def digitsValue (ds : List Char) : Nat := Text.ofDigits (ds.map fun c => c.toNat - 48)

/-- A number, after its sign; `none` when none stands here. -/
def number? (neg : Bool) (cs : List Char) (position : Nat) :
    Option (Except ParseError (Value × Cursor)) :=
  match wholePart? cs with
  | none => none
  | some (whole, tail) =>
    let (frac, tail) := fractionPart tail
    let (exponent, tail) := exponentPart tail
    let cursor : Cursor := ⟨tail, position + (cs.length - tail.length)⟩
    if frac.isEmpty && exponent.isNone then
      if whole.length > Text.digitLimit then
        some (.error ⟨.tooManyDigits whole.length, position⟩)
      else
        let n : Int := digitsValue whole
        some (.ok (.int (if neg then -n else n), cursor))
    else
      let power : Int := match exponent with
        | none => 0
        | some (negative, ds) => if negative then -(digitsValue ds : Int) else digitsValue ds
      some (.ok (.float (Decimal.toFloat neg (digitsValue (whole ++ frac)) (power - frac.length)),
        cursor))

/-- The words that stand for a value. -/
def words : List (String × Value) :=
  [("null", .null), ("true", .bool true), ("false", .bool false), ("NaN", .float (0.0 / 0.0)),
   ("Infinity", .float (1.0 / 0.0)), ("-Infinity", .float (-1.0 / 0.0))]

/-- A value that is neither text nor an array nor an object. -/
def atom (c : Cursor) : Except ParseError (Value × Cursor) :=
  match words.find? fun (w, _) => w.toList.isPrefixOf c.rest with
  | some (w, v) => .ok (v, c.forward w.length)
  | none =>
    let read := match c.rest with
      | '-' :: cs => number? true cs (c.position + 1)
      | cs => number? false cs c.position
    match read with
    | some result => result
    | none => c.fail .expectingValue

mutual
/-- One value at the cursor. Every step uses up a character, so the text's length bounds the steps. -/
def value : (fuel : Nat) → Cursor → Except ParseError (Value × Cursor)
  | 0, c => c.fail .expectingValue
  | fuel + 1, c =>
    match c.rest with
    | '"' :: cs =>
      match stringFrom c.position [] (c.position + 1) 0 cs with
      | .ok (s, c) => .ok (.str s, c)
      | .error e => .error e
    | '[' :: _ =>
      let c := c.advance.skip
      match c.rest with
      | ']' :: _ => .ok (.list [], c.advance)
      | _ => items fuel [] c
    | '\x7b' :: _ =>
      let c := c.advance.skip
      match c.rest with
      | '\x7d' :: _ => .ok (.obj [], c.advance)
      | _ => members fuel [] c
    | _ => atom c
/-- The items of an array from the cursor on, those before it being `seen`, last first. -/
def items : (fuel : Nat) → List Value → Cursor → Except ParseError (Value × Cursor)
  | 0, _, c => c.fail .expectingValue
  | fuel + 1, seen, c =>
    match value fuel c with
    | .error e => .error e
    | .ok (v, c) =>
      let c := c.skip
      match c.rest with
      | ']' :: _ => .ok (.list (v :: seen).reverse, c.advance)
      | ',' :: _ => items fuel (v :: seen) c.advance.skip
      | _ => c.fail .expectingComma
/-- The fields of an object from the cursor on, those before it being `seen`. -/
def members : (fuel : Nat) → List (String × Value) → Cursor → Except ParseError (Value × Cursor)
  | 0, _, c => c.fail .expectingValue
  | fuel + 1, seen, c =>
    match c.rest with
    | '"' :: cs =>
      match stringFrom c.position [] (c.position + 1) 0 cs with
      | .error e => .error e
      | .ok (key, c) =>
        let c := c.skip
        match c.rest with
        | ':' :: _ =>
          match value fuel c.advance.skip with
          | .error e => .error e
          | .ok (v, c) =>
            let seen := Value.insert key v seen
            let c := c.skip
            match c.rest with
            | '\x7d' :: _ => .ok (.obj seen, c.advance)
            | ',' :: _ => members fuel seen c.advance.skip
            | _ => c.fail .expectingComma
        | _ => c.fail .expectingColon
    | _ => c.fail .expectingPropertyName
end

/-- Reads the whole text as one value. -/
def parse (s : String) : Except ParseError Value :=
  let cs := s.toList
  match cs with
  | '\uFEFF' :: _ => .error ⟨.byteOrderMark, 0⟩
  | _ =>
    match value (2 * cs.length + 2) (skipBlanks cs 0) with
    | .error e => .error e
    | .ok (v, c) =>
      let c := c.skip
      if c.rest.isEmpty then .ok v else c.fail .extraData

end SuiteEngine.Json
