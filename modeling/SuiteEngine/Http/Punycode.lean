import SuiteEngine.Text.Case

/-!
# Host names with letters beyond ASCII

Labels with such letters are written with the letters of ASCII: first the ASCII characters of the label,
then a number for each of the others that says which it is and where it stands (RFC 3492).
-/

namespace SuiteEngine.Http.Punycode

/-- The digit with this value. -/
def digit (n : Nat) : Char := Char.ofNat (if n < 26 then 97 + n else 22 + n)

/-- How far the bias moves after a number. -/
def adapt (delta points : Nat) (first : Bool) : Nat :=
  let delta := if first then delta / 700 else delta / 2
  shrink delta.log2.succ (delta + delta / points) 0
where
  /-- Divides until the rest is small. -/
  shrink : (fuel delta k : Nat) → Nat
    | 0, delta, k => k + 36 * delta / (delta + 38)
    | fuel + 1, delta, k =>
      if delta > 455 then shrink fuel (delta / 35) (k + 36) else k + 36 * delta / (delta + 38)

/-- The threshold of the digit at `k`. -/
def threshold (k bias : Nat) : Nat :=
  if k ≤ bias + 1 then 1 else if k ≥ bias + 26 then 26 else k - bias

/-- The digits of a number, the least first. -/
def digits (bias : Nat) : (fuel q k : Nat) → List Char
  | 0, _, _ => []
  | fuel + 1, q, k =>
    let t := threshold k bias
    if q < t then [digit q]
    else digit (t + (q - t) % (36 - t)) :: digits bias fuel ((q - t) / (36 - t)) (k + 36)

/-- Where the encoding of a label stands. -/
structure State where
  delta : Nat
  bias : Nat
  handled : Nat
  /-- What has been written, the last first. -/
  written : List Char

/-- Passes one character of the label while the characters `n` are being inserted. -/
def pass (n ascii : Nat) (s : State) (c : Char) : State :=
  if c.toNat < n then { s with delta := s.delta + 1 }
  else if c.toNat == n then
    { delta := 0, bias := adapt s.delta (s.handled + 1) (s.handled == ascii)
      handled := s.handled + 1
      written := (digits s.bias (s.delta.log2 + 2) s.delta 36).reverse ++ s.written }
  else s

/-- Inserts the characters with code point `n` of a label, coming from those with smaller ones. -/
def insert (label : List Char) (ascii : Nat) (s : State × Nat) (n : Nat) : State × Nat :=
  let start := { s.1 with delta := s.1.delta + (n - s.2) * (s.1.handled + 1) }
  let done := label.foldl (pass n ascii) start
  ({ done with delta := done.delta + 1 }, n + 1)

/-- The label in ASCII letters, without the mark in front of it. -/
def encode (label : List Char) : List Char :=
  let ascii := label.filter (·.toNat < 128)
  let others := ((label.filter (128 ≤ ·.toNat)).map Char.toNat).mergeSort.eraseDups
  let start : State := { delta := 0, bias := 72, handled := ascii.length, written := [] }
  let (s, _) := others.foldl (insert label ascii.length) (start, 128)
  (if ascii.isEmpty then [] else ascii ++ ['-']) ++ s.written.reverse

/-- Whether a character separates the labels of a host name. -/
def isPoint (c : Char) : Bool := c == '.' || c == '。' || c == '．' || c == '｡'

/-- A label as host names write it. -/
def label (cs : List Char) : List Char :=
  if cs.all (·.toNat < 128) then cs else "xn--".toList ++ encode cs

/-- A host name in ASCII letters. -/
def host (s : String) : String :=
  let labels := (s.toList.splitOnP isPoint).map label
  String.ofList (['.'].intercalate labels)

end SuiteEngine.Http.Punycode
