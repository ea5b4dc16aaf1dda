/-!
# Bytes as letters

`base64` writes three bytes as four letters, with equals signs for bytes that are wanting at the end.
`fromBase64?` reads letters and skips all other characters.
-/

namespace SuiteEngine.Text

/-- The letters, by their values. -/
def base64Letters : Array Char :=
  "ABCDEFGHIJKLMNOPQRSTUVWXYZabcdefghijklmnopqrstuvwxyz0123456789+/".toList.toArray

/-- The letter with the low six bits of `n` for its value. -/
def base64Letter (n : Nat) : Char := base64Letters.getD (n % 64) '='

/-- The bytes as letters. -/
def base64 : List UInt8 → List Char
  | [] => []
  | [a] =>
    let n := a.toNat * 16
    [base64Letter (n / 64), base64Letter n, '=', '=']
  | [a, b] =>
    let n := (a.toNat * 256 + b.toNat) * 4
    [base64Letter (n / 4096), base64Letter (n / 64), base64Letter n, '=']
  | a :: b :: c :: rest =>
    let n := (a.toNat * 256 + b.toNat) * 256 + c.toNat
    base64Letter (n / 262144) :: base64Letter (n / 4096) :: base64Letter (n / 64) ::
      base64Letter n :: base64 rest

/-- The value of a letter. -/
def base64Value? (c : Char) : Option Nat := base64Letters.findIdx? (· == c)

/-- Reads on after `seen` letters of a group of four, whose bits not yet given are `left`, and after
`pads` equals signs. -/
def fromBase64From (seen left pads : Nat) : List Char → Option (List UInt8)
  | [] => if seen == 0 then some [] else none
  | c :: rest =>
    if c == '=' then
      if seen ≥ 2 && seen + pads + 1 ≥ 4 then some []
      else fromBase64From seen left (if seen ≥ 2 then pads + 1 else pads) rest
    else match base64Value? c with
      | none => fromBase64From seen left pads rest
      | some v =>
        match seen with
        | 0 => fromBase64From 1 v 0 rest
        | 1 => (fromBase64From 2 (v % 16) 0 rest).map (UInt8.ofNat (left * 4 + v / 16) :: ·)
        | 2 => (fromBase64From 3 (v % 4) 0 rest).map (UInt8.ofNat (left * 16 + v / 4) :: ·)
        | _ => (fromBase64From 0 0 0 rest).map (UInt8.ofNat (left * 64 + v) :: ·)

/-- The bytes that letters stand for; `none` when the last group is incomplete. -/
def fromBase64? (cs : List Char) : Option (List UInt8) := fromBase64From 0 0 0 cs

end SuiteEngine.Text
