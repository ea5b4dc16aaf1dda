import SuiteEngine.Text.Printable

/-!
# Quoted text

A message shows a text between quotes: single ones, or double ones when the text holds a single
quote and no double one. A character without a visible form is written by its code point in
hexadecimal, a quote of the chosen kind and the backslash after a backslash.
-/

namespace SuiteEngine.Text

/-- The hexadecimal digits of `n` in lower case, padded with zeros to `width`. -/
def hex (width n : Nat) : String :=
  let ds := Nat.toDigits 16 n
  String.ofList (List.replicate (width - ds.length) '0' ++ ds)

/-- The quote around a text with these characters. -/
def quoteFor (cs : List Char) : Char :=
  if cs.contains '\'' && !cs.contains '"' then '"' else '\''

/-- How one character is written between quotes `q`. -/
def quotedChar (q c : Char) : String :=
  if c == q || c == '\\' then String.ofList ['\\', c]
  else if c == '\n' then "\\n"
  else if c == '\r' then "\\r"
  else if c == '\t' then "\\t"
  else if isPrintable c then String.ofList [c]
  else
    let n := c.toNat
    if n < 0x100 then "\\x" ++ hex 2 n
    else if n < 0x10000 then "\\u" ++ hex 4 n
    else "\\U" ++ hex 8 n

/-- The text between quotes. -/
def quoted (s : String) : String :=
  let cs := s.toList
  let q := quoteFor cs
  let mark := String.ofList [q]
  mark ++ String.join (cs.map (quotedChar q)) ++ mark

/-- How one byte is written between quotes `q`. -/
def quotedByte (q : Char) (b : UInt8) : String :=
  if b < 127 then quotedChar q (Char.ofNat b.toNat) else "\\x" ++ hex 2 b.toNat

/-- Bytes between quotes, marked by a leading `b`. -/
def quotedBytes (bytes : List UInt8) : String :=
  let q := quoteFor (bytes.map fun b => Char.ofNat b.toNat)
  let mark := String.ofList [q]
  "b" ++ mark ++ String.join (bytes.map (quotedByte q)) ++ mark

end SuiteEngine.Text
