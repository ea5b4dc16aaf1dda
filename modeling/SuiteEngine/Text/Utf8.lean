import SuiteEngine.Text.Quoted

/-!
# Text as UTF-8 bytes

`decode` reads bytes as text and says where and why it cannot; `decodeLossy` puts the replacement
character in place of every ill-formed stretch. A stretch is as long as the bytes that could have
begun a character.
-/

namespace SuiteEngine.Text

/-- Why bytes are no UTF-8 text. -/
inductive Utf8Fault where
  | invalidStart
  | invalidContinuation
  | unexpectedEnd
deriving DecidableEq, Repr

/-- The wording of the reason. -/
def Utf8Fault.reason : Utf8Fault → String
  | .invalidStart => "invalid start byte"
  | .invalidContinuation => "invalid continuation byte"
  | .unexpectedEnd => "unexpected end of data"

/-- An ill-formed stretch: its place, its first byte and its length. -/
structure Utf8Error where
  position : Nat
  byte : UInt8
  length : Nat
  fault : Utf8Fault
deriving DecidableEq, Repr

/-- The message for an ill-formed stretch. -/
def Utf8Error.message (e : Utf8Error) : String :=
  "'utf-8' codec can't decode " ++
    (if e.length ≤ 1 then "byte 0x" ++ hex 2 e.byte.toNat ++ " in position " ++ toString e.position
     else "bytes in position " ++ toString e.position ++ "-" ++ toString (e.position + e.length - 1))
    ++ ": " ++ e.fault.reason

/-- One step of reading: a character and its length, or the fault and the length of the stretch. -/
inductive Utf8Step where
  | char (c : Char) (length : Nat)
  | bad (fault : Utf8Fault) (length : Nat)

/-- Whether the byte continues a character. -/
def isContinuation (b : UInt8) : Bool := b &&& 0xC0 == 0x80

/-- Whether `second` may follow `first`: neither too long a form, nor a surrogate, nor too large. -/
def mayFollow (first second : UInt8) : Bool :=
  isContinuation second &&
    (if first == 0xE0 then 0xA0 ≤ second
     else if first == 0xED then second < 0xA0
     else if first == 0xF0 then 0x90 ≤ second
     else if first == 0xF4 then second < 0x90
     else true)

/-- The character put together from the low bits of the first byte and the continuations. -/
def assemble (first : Nat) (more : List UInt8) : Char :=
  Char.ofNat (more.foldl (fun n b => n * 64 + (b &&& 0x3F).toNat) first)

/-- Reads the continuations that are still missing, `have_` bytes being read already. -/
def continuations (first : Nat) (seen : List UInt8) : (missing : Nat) → List UInt8 → Utf8Step
  | 0, _ => .char (assemble first seen.reverse) (seen.length + 1)
  | _ + 1, [] => .bad .unexpectedEnd (seen.length + 1)
  | missing + 1, b :: rest =>
    if isContinuation b then continuations first (b :: seen) missing rest
    else .bad .invalidContinuation (seen.length + 1)

/-- Reads a character of `missing + 2` bytes whose first byte is `lead`. -/
def multibyte (lead : UInt8) (first missing : Nat) : List UInt8 → Utf8Step
  | [] => .bad .unexpectedEnd 1
  | b :: rest =>
    if mayFollow lead b then continuations first [b] missing rest
    else .bad .invalidContinuation 1

/-- Reads the character that starts with `lead`. -/
def utf8Step (lead : UInt8) (rest : List UInt8) : Utf8Step :=
  if lead < 0x80 then .char (Char.ofNat lead.toNat) 1
  else if lead < 0xC2 then .bad .invalidStart 1
  else if lead < 0xE0 then multibyte lead (lead &&& 0x1F).toNat 0 rest
  else if lead < 0xF0 then multibyte lead (lead &&& 0x0F).toNat 1 rest
  else if lead < 0xF5 then multibyte lead (lead &&& 0x07).toNat 2 rest
  else .bad .invalidStart 1

/-- Reads the rest of a text, the characters before it being `seen`, nearest first. -/
def decodeFrom (seen : List Char) (position : Nat) : (skip : Nat) → List UInt8 → Except Utf8Error String
  | _, [] => .ok (String.ofList seen.reverse)
  | skip + 1, _ :: rest => decodeFrom seen (position + 1) skip rest
  | 0, lead :: rest =>
    match utf8Step lead rest with
    | .char c length => decodeFrom (c :: seen) (position + 1) (length - 1) rest
    | .bad fault length => .error { position, byte := lead, length, fault }

/-- The text these bytes stand for. -/
def decode (bytes : List UInt8) : Except Utf8Error String := decodeFrom [] 0 0 bytes

/-- As `decodeFrom`, with the replacement character in place of every ill-formed stretch. -/
def decodeLossyFrom (seen : List Char) : (skip : Nat) → List UInt8 → String
  | _, [] => String.ofList seen.reverse
  | skip + 1, _ :: rest => decodeLossyFrom seen skip rest
  | 0, lead :: rest =>
    match utf8Step lead rest with
    | .char c length => decodeLossyFrom (c :: seen) (length - 1) rest
    | .bad _ length => decodeLossyFrom ('\uFFFD' :: seen) (length - 1) rest

/-- The text these bytes stand for, as far as they are well formed. -/
def decodeLossy (bytes : List UInt8) : String := decodeLossyFrom [] 0 bytes

/-- As `decodeFrom`, with an escape in place of every byte that is part of an ill-formed stretch. -/
def decodeEscapedFrom (seen : List Char) : (skip : Nat) → List UInt8 → String
  | _, [] => String.ofList seen.reverse
  | skip + 1, _ :: rest => decodeEscapedFrom seen skip rest
  | 0, lead :: rest =>
    match utf8Step lead rest with
    | .char c length => decodeEscapedFrom (c :: seen) (length - 1) rest
    | .bad _ length =>
      let escapes := ((lead :: rest).take length).map fun b => "\\x" ++ hex 2 b.toNat
      decodeEscapedFrom ((String.join escapes).toList.reverse ++ seen) (length - 1) rest

/-- The text these bytes stand for, all other bytes being escaped. -/
def decodeEscaped (bytes : List UInt8) : String := decodeEscapedFrom [] 0 bytes

/-- The bytes of a text. -/
def encode (s : String) : List UInt8 := s.toUTF8.toList

/-- A text with every line end, of whatever kind, as a line feed. -/
def unifyLineEnds : List Char → List Char
  | [] => []
  | '\r' :: '\n' :: rest => '\n' :: unifyLineEnds rest
  | c :: rest => (if c == '\r' then '\n' else c) :: unifyLineEnds rest

/-!
## Escaped bytes

In an address a byte may be written as a percent sign and two hexadecimal digits. `unescape` puts such
bytes back; a percent sign without two digits stands for itself.
-/

/-- The value of a hexadecimal digit. -/
def hexValue? (c : Char) : Option Nat :=
  if c.isDigit then some (c.toNat - 48)
  else if 'a' ≤ c && c ≤ 'f' then some (c.toNat - 87)
  else if 'A' ≤ c && c ≤ 'F' then some (c.toNat - 55)
  else none

/-- The bytes of the text, an escaped byte standing for itself. -/
def unescapeBytes : List Char → List UInt8
  | [] => []
  | '%' :: a :: b :: rest =>
    match hexValue? a, hexValue? b with
    | some x, some y => UInt8.ofNat (x * 16 + y) :: unescapeBytes rest
    | _, _ => UInt8.ofNat 37 :: unescapeBytes (a :: b :: rest)
  | c :: rest => encode (String.ofList [c]) ++ unescapeBytes rest

/-- The text with its escaped bytes put back. -/
def unescape (s : String) : String := decodeLossy (unescapeBytes s.toList)

/-!
## Texts in ASCII

Names and texts of headers are written in ASCII. `asciiFault?` tells where a text cannot be written.
-/

/-- Whether a character belongs to ASCII. -/
def isAscii (c : Char) : Bool := c.toNat < 128

/-- A character that is not ASCII, as an escape. -/
def escapeWide (c : Char) : String :=
  let n := c.toNat
  if n < 256 then "\\x" ++ hex 2 n
  else if n < 65536 then "\\u" ++ hex 4 n
  else "\\U" ++ hex 8 n

/-- What is wrong with a text that is not ASCII: the first characters in a row that are not. -/
def asciiFault? (s : String) : Option String :=
  let (before, rest) := s.toList.span isAscii
  match rest.takeWhile (!isAscii ·) with
  | [] => none
  | [c] =>
    some ("'ascii' codec can't encode character '" ++ escapeWide c ++ "' in position " ++
      toString before.length ++ ": ordinal not in range(128)")
  | wide =>
    some ("'ascii' codec can't encode characters in position " ++ toString before.length ++ "-" ++
      toString (before.length + wide.length - 1) ++ ": ordinal not in range(128)")

end SuiteEngine.Text
