/-!
# Compressing the bytes of a picture

Bytes are compressed as a sequence of tokens: a byte, or a match, which repeats bytes that stand some
distance before. A match is taken only where it is longer than five bytes and the next position has no
longer one. Tokens are written with the fixed code, in one block (RFC 1951), between the marks of the
format and a check of the sum (RFC 1950).
-/

namespace SuiteEngine.Picture.Compress

/-- A byte, or a repetition of bytes that stand some distance before. -/
inductive Token where
  | byte (b : UInt8)
  | repeated (length distance : Nat)
deriving DecidableEq, Repr

/-- The longest repetition. -/
def longestMatch : Nat := 258

/-- The shortest repetition that is worth its place. -/
def shortestMatch : Nat := 6

/-- A match of this length is taken without a look at the next position. -/
def goodMatch : Nat := 16

/-- The largest distance. -/
def farthest : Nat := 32506

/-- How many bytes from `p` on are those from `q` on, with `fuel` for the length. -/
def matchLength (data : Array UInt8) (p q : Nat) : (fuel : Nat) → Nat
  | 0 => 0
  | fuel + 1 =>
    if p < data.size && data[p]? == data[q]? then matchLength data (p + 1) (q + 1) fuel + 1 else 0

/-- The longest match at `p`, the nearest of equally long ones; the first byte of all is in no match. -/
def matchAt (data : Array UInt8) (p : Nat) : Nat × Nat :=
  let distances := (List.range (min (p - 1) farthest)).map (· + 1)
  distances.foldl (fun best d =>
    let n := matchLength data p (p - d) longestMatch
    if best.1 < n then (n, d) else best) (0, 0)

/-- The tokens from `p` on; `earlier` is the match at the position before, whose byte is still to be
written if `pending`. -/
def tokensFrom (data : Array UInt8) (p : Nat) (pending : Bool) (earlier : Nat × Nat) :
    (fuel : Nat) → List Token
  | 0 => []
  | fuel + 1 =>
    let last : List Token :=
      if pending then (data[p - 1]?).toList.map .byte else []
    if data.size ≤ p then last
    else
      let here := if earlier.1 < goodMatch then matchAt data p else (0, 0)
      let here := if here.1 < shortestMatch then (0, 0) else here
      if 0 < earlier.1 && here.1 ≤ earlier.1 then
        .repeated earlier.1 earlier.2 ::
          tokensFrom data (p + earlier.1 - 1) false (0, 0) fuel
      else last ++ tokensFrom data (p + 1) true here fuel

/-- The tokens of some bytes. -/
def tokens (data : List UInt8) : List Token :=
  tokensFrom data.toArray 0 false (0, 0) (data.length + 2)

/-- A number in bits, the lowest first. -/
def lowFirst (count n : Nat) : List Bool := (List.range count).map fun i => n / Nat.pow 2 i % 2 == 1

/-- A number in bits, the highest first. -/
def highFirst (count n : Nat) : List Bool := (lowFirst count n).reverse

/-- The fixed code of a symbol. -/
def symbolBits (s : Nat) : List Bool :=
  if s < 144 then highFirst 8 (48 + s)
  else if s < 256 then highFirst 9 (256 + s)
  else if s < 280 then highFirst 7 (s - 256)
  else highFirst 8 (s - 88)

/-- A number in a class of numbers that differ in their lowest bits alone; a class that has `steps`
classes to each power of two is given with the count of those bits. -/
def classOf (steps n : Nat) : Nat × Nat :=
  if n < 2 * steps then (n, 0)
  else
    let free := n.log2 - steps.log2
    (free * steps + n / Nat.pow 2 free, free)

/-- The bits of a length. -/
def lengthBits (length : Nat) : List Bool :=
  if length = longestMatch then symbolBits 285
  else
    let (symbol, free) := classOf 4 (length - 3)
    symbolBits (257 + symbol) ++ lowFirst free (length - 3)

/-- The bits of a distance. -/
def distanceBits (distance : Nat) : List Bool :=
  let (symbol, free) := classOf 2 (distance - 1)
  highFirst 5 symbol ++ lowFirst free (distance - 1)

/-- The bits of a token. -/
def Token.bits : Token → List Bool
  | byte b => symbolBits b.toNat
  | repeated length distance => lengthBits length ++ distanceBits distance

/-- Bits in whole bytes, the lowest bit of each first. -/
def packed (bits : List Bool) : List UInt8 :=
  (List.range ((bits.length + 7) / 8)).map fun i =>
    UInt8.ofNat (((bits.drop (8 * i)).take 8).foldr (fun b n => n * 2 + b.toNat) 0)

/-- The one block of some tokens. -/
def block (ts : List Token) : List UInt8 :=
  packed ([true, true, false] ++ ts.flatMap Token.bits ++ symbolBits 256)

/-- A number in four bytes, the highest first. -/
def fourBytes (n : Nat) : List UInt8 :=
  [n / 16777216, n / 65536, n / 256, n].map fun k => UInt8.ofNat (k % 256)

/-- The sum of the bytes, and the sum of the sums up to each byte, as one number. -/
def checksum (data : List UInt8) : Nat :=
  let (a, b) := data.foldl (fun (a, b) x =>
    let a := (a + x.toNat) % 65521
    (a, (b + a) % 65521)) (1, 0)
  b * 65536 + a

/-- Compressed bytes. -/
def compress (data : List UInt8) : List UInt8 :=
  [0x78, 0x9C] ++ block (tokens data) ++ fourBytes (checksum data)

end SuiteEngine.Picture.Compress
