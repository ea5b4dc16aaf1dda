import SuiteEngine.Failure
import SuiteEngine.Text.Blank
import SuiteEngine.Text.Case
import SuiteEngine.Text.Utf8

/-!
# Texts of responses

The bytes of a response are read as text in the character set that its kind of content names; in UTF-8
if it names none or one that is not known. JSON says by its first bytes how it is written.

* `charsetOf`: the character set of a content.
* `jsonText?`: the text that the bytes of JSON are.
-/

/-!
## Text in units of two and four bytes

Each unit is a code point; in units of two bytes, a code point above the first 65536 is a high and a low
half. Ill-formed stretches are read as `none`.

* `ofUnits2`, `ofUnits4`: the characters that bytes are in units of two and of four.
-/

namespace SuiteEngine.Text

/-- Which byte of a unit comes first. -/
inductive ByteOrder where
  | big
  | little
deriving DecidableEq, Repr

/-- The number that two bytes are. -/
def ByteOrder.unit (o : ByteOrder) (a b : UInt8) : Nat :=
  match o with
  | .big => a.toNat * 256 + b.toNat
  | .little => b.toNat * 256 + a.toNat

/-- Whether a unit is the first half of a code point. -/
def isHighHalf (n : Nat) : Bool := 0xD800 ≤ n && n < 0xDC00

/-- Whether a unit is the second half of a code point. -/
def isLowHalf (n : Nat) : Bool := 0xDC00 ≤ n && n < 0xE000

/-- The character with these halves. -/
def ofHalves (high low : Nat) : Char := Char.ofNat (0x10000 + (high - 0xD800) * 1024 + (low - 0xDC00))

/-- The characters that bytes are in units of two, after a high half that still stands alone. -/
def afterHalf (o : ByteOrder) (half : Option Nat) : List UInt8 → List (Option Char)
  | [] => if half.isSome then [none] else []
  | [_] => [none]
  | a :: b :: rest =>
    let n := o.unit a b
    match half, isLowHalf n with
    | some h, true => some (ofHalves h n) :: afterHalf o none rest
    | none, true => none :: afterHalf o none rest
    | _, false =>
      (if half.isSome then [none] else []) ++
        (if isHighHalf n then afterHalf o (some n) rest
         else some (Char.ofNat n) :: afterHalf o none rest)

/-- The characters that bytes are in units of two. -/
def ofUnits2 (o : ByteOrder) (bytes : List UInt8) : List (Option Char) := afterHalf o none bytes

/-- The characters that bytes are in units of four. -/
def ofUnits4 (o : ByteOrder) : List UInt8 → List (Option Char)
  | [] => []
  | a :: b :: c :: d :: rest =>
    let n := match o with
      | .big => o.unit a b * 65536 + o.unit c d
      | .little => o.unit c d * 65536 + o.unit a b
    (if n.isValidChar then some (Char.ofNat n) else none) :: ofUnits4 o rest
  | _ => [none]

end SuiteEngine.Text

namespace SuiteEngine.Http

open Text (ByteOrder)

/-- A character set. -/
inductive Charset where
  | utf8
  /-- UTF-8 after a mark of the byte order, which does not count. -/
  | markedUtf8
  /-- Units of two bytes; if no order is given, a mark in front gives it. -/
  | utf16 (order : Option ByteOrder)
  /-- Units of four bytes; if no order is given, a mark in front gives it. -/
  | utf32 (order : Option ByteOrder)
  /-- The first 256 code points, a byte each. -/
  | latin1
  /-- Latin letters, a byte each, with marks of print where `latin1` has controls. -/
  | western
  | ascii
deriving DecidableEq, Repr

namespace Charset

/-- The character sets with their names, in small letters with dashes. -/
def named : List (Charset × List String) := [
  (utf8, ["utf-8", "utf8", "u8", "utf", "cp65001"]),
  (markedUtf8, ["utf-8-sig"]),
  (utf16 none, ["utf-16", "utf16", "u16"]),
  (utf16 (some .little), ["utf-16-le", "utf-16le", "unicodelittleunmarked"]),
  (utf16 (some .big), ["utf-16-be", "utf-16be", "unicodebigunmarked"]),
  (utf32 none, ["utf-32", "utf32", "u32"]),
  (utf32 (some .little), ["utf-32-le", "utf-32le"]),
  (utf32 (some .big), ["utf-32-be", "utf-32be"]),
  (latin1, ["iso-8859-1", "iso8859-1", "8859", "cp819", "latin", "latin-1", "latin1", "l1",
    "iso8859", "iso-ir-100", "ibm819", "csisolatin1", "iso-8859-1-1987"]),
  (western, ["windows-1252", "cp1252", "1252"]),
  (ascii, ["ascii", "us-ascii", "646", "ansi-x3.4-1968", "iso646-us", "iso-646.irv-1991", "us",
    "cp367", "ibm367", "csascii", "iso-ir-6"])]

/-- A name in small letters, with one dash for every run of other marks than letters, digits and points
inside it. -/
def plainName (name : String) : String :=
  let isMark (c : Char) : Bool := !(c.isAlphanum || c == '.')
  let words := (Text.trimBy isMark (Text.lower name)).toList.map fun c => if isMark c then '-' else c
  "-".intercalate (((String.ofList words).splitOn "-").filter (· != ""))

/-- The character set of this name. -/
def ofName? (name : String) : Option Charset :=
  (named.find? fun (_, names) => names.contains (plainName name)).map (·.1)

/-- The character for bytes that a character set has no character for. -/
def replacement : Char := '\uFFFD'

/-- The code points of the bytes from 128 to 159 in `western`; zero where there is none. -/
def westernMarks : List Nat := [
  0x20AC, 0, 0x201A, 0x192, 0x201E, 0x2026, 0x2020, 0x2021, 0x2C6, 0x2030, 0x160, 0x2039, 0x152, 0,
  0x17D, 0, 0, 0x2018, 0x2019, 0x201C, 0x201D, 0x2022, 0x2013, 0x2014, 0x2DC, 0x2122, 0x161, 0x203A,
  0x153, 0, 0x17E, 0x178]

/-- The character of a byte in `western`. -/
def westernChar? (b : UInt8) : Option Char :=
  if b < 128 || 160 ≤ b then some (Char.ofNat b.toNat)
  else ((westernMarks[b.toNat - 128]?).filter (· != 0)).map Char.ofNat

/-- The order that the mark in front gives. -/
def markedOrder? (read : ByteOrder → List UInt8 → List (Option Char)) (bytes : List UInt8) :
    Option ByteOrder :=
  [ByteOrder.little, .big].find? fun o => (read o (bytes.take 4)).head? == some (some '\uFEFF')

/-- The characters of bytes in units, in the order that is given, or that the mark in front gives, which
does not count then; nothing if there is a unit but neither. -/
def inOrder? (read : ByteOrder → List UInt8 → List (Option Char)) (unit : Nat)
    (order : Option ByteOrder) (bytes : List UInt8) : Option (List (Option Char)) :=
  match order, markedOrder? read bytes with
  | some o, _ => some (read o bytes)
  | none, some o => some ((read o bytes).drop 1)
  | none, none => if bytes.length < unit then some (read .little bytes) else none

/-- The bytes without the mark of UTF-8 in front, of which the rest may be wanting at their end. -/
def dropMark : List UInt8 → List UInt8
  | 0xEF :: 0xBB :: 0xBF :: rest => rest
  | [0xEF, 0xBB] => []
  | [0xEF] => []
  | bytes => bytes

/-- The failure that units without an order are. -/
def unordered (name : String) : Failure :=
  ⟨.other "UnicodeError", name ++ " stream does not start with BOM"⟩

/-- The text of these characters, with the replacement for bytes that have none. -/
def mended (cs : List (Option Char)) : String := String.ofList (cs.map (·.getD replacement))

/-- The text of some bytes, with the replacement for those that have no character. -/
def decode (bytes : List UInt8) : Charset → Except Failure String
  | utf8 => .ok (Text.decodeLossy bytes)
  | markedUtf8 => .ok (Text.decodeLossy (dropMark bytes))
  | utf16 order =>
    ((inOrder? Text.ofUnits2 2 order bytes).map mended).elim (.error (unordered "UTF-16")) .ok
  | utf32 order =>
    ((inOrder? Text.ofUnits4 4 order bytes).map mended).elim (.error (unordered "UTF-32")) .ok
  | latin1 => .ok (String.ofList (bytes.map fun b => Char.ofNat b.toNat))
  | western => .ok (mended (bytes.map westernChar?))
  | ascii => .ok (mended (bytes.map fun b => if b < 128 then some (Char.ofNat b.toNat) else none))

/-- The text of some bytes in Unicode, if all of them have characters. -/
def decode? (bytes : List UInt8) : Charset → Option String
  | utf16 order => ((inOrder? Text.ofUnits2 2 order bytes).bind (·.mapM id)).map String.ofList
  | utf32 order => ((inOrder? Text.ofUnits4 4 order bytes).bind (·.mapM id)).map String.ofList
  | markedUtf8 => (Text.decode (dropMark bytes)).toOption
  | _ => (Text.decode bytes).toOption

/-- The marks that may stand before JSON, with the character sets that they stand for. -/
def jsonMarks : List (List UInt8 × Charset) := [
  ([0x00, 0x00, 0xFE, 0xFF], utf32 none), ([0xFF, 0xFE, 0x00, 0x00], utf32 none),
  ([0xFE, 0xFF], utf16 none), ([0xFF, 0xFE], utf16 none), ([0xEF, 0xBB, 0xBF], markedUtf8)]

/-- The character set that shows in where the zeros stand in the units of the first characters, which
are of ASCII. -/
def ofZeros : List UInt8 → Charset
  | a :: b :: c :: d :: _ =>
    if a == 0 then (if b == 0 then utf32 (some .big) else utf16 (some .big))
    else if b == 0 then (if c == 0 && d == 0 then utf32 (some .little) else utf16 (some .little))
    else utf8
  | [a, b] =>
    if a == 0 then utf16 (some .big) else if b == 0 then utf16 (some .little) else utf8
  | _ => utf8

/-- The character set that the first bytes of JSON show, by the mark in front or by the zeros. -/
def ofJson (bytes : List UInt8) : Charset :=
  ((jsonMarks.find? fun m => m.1.isPrefixOf bytes).map Prod.snd).getD (ofZeros bytes)

end Charset

/-- The text that the bytes of JSON are, if they are any. -/
def jsonText? (bytes : List UInt8) : Option String := (Charset.ofJson bytes).decode? bytes

/-- Cuts at semicolons that are not between quotes. -/
def splitParameters (quoted : Bool) (piece : List Char) : List Char → List (List Char)
  | [] => [piece.reverse]
  | c :: rest =>
    if c == '"' then splitParameters (!quoted) (c :: piece) rest
    else if c == ';' && !quoted then piece.reverse :: splitParameters quoted [] rest
    else splitParameters quoted (c :: piece) rest

/-- A text without the quotes or angle brackets around it. -/
def unwrap (cs : List Char) : List Char :=
  match cs.head?, cs.getLast? with
  | some '"', some '"' => if 2 ≤ cs.length then (cs.drop 1).dropLast else cs
  | some '<', some '>' => (cs.drop 1).dropLast
  | _, _ => cs

/-- The character set that a kind of content names. -/
def charsetName? (contentType : String) : Option String :=
  ((splitParameters false [] contentType.toList).drop 1).findSome? fun piece =>
    match piece.span (· != '=') with
    | (name, '=' :: value) =>
      if Text.lower (String.ofList (Text.trimList Text.isBlank name)) == "charset" then
        some (Text.lower (String.ofList (unwrap (Text.trimList Text.isBlank value))))
      else none
    | _ => none

/-- The character set of a content. -/
def charsetOf (contentType : Option String) : Charset :=
  ((contentType.bind charsetName?).bind Charset.ofName?).getD .utf8

end SuiteEngine.Http
