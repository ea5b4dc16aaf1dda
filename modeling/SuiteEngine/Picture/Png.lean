import SuiteEngine.Picture.Basic
import SuiteEngine.Picture.Compress

/-!
# Pictures as files

A picture is written as a portable network graphic. Each row is written as it is, or as the differences
to the row above, to the pixel on the left, or to the one of its neighbours that is nearest to what the
others lead to expect: whichever comes nearest to nothing.
-/

namespace SuiteEngine.Picture.Png

open Compress (compress fourBytes)

/-- The remainder of a byte in the check of a chunk. -/
def crcByte (n : UInt32) : (steps : Nat) → UInt32
  | 0 => n
  | steps + 1 => crcByte (if n &&& 1 == 1 then (n >>> 1) ^^^ 0xEDB88320 else n >>> 1) steps

/-- The check of a chunk. -/
def crc (data : List UInt8) : UInt32 :=
  data.foldl (fun c b => crcByte ((c ^^^ b.toUInt32) &&& 0xFF) 8 ^^^ (c >>> 8)) 0xFFFFFFFF ^^^
    0xFFFFFFFF

/-- A chunk: its length, its name, its content and its check. -/
def chunk (name : String) (content : List UInt8) : List UInt8 :=
  let checked := name.toUTF8.toList ++ content
  fourBytes content.length ++ checked ++ fourBytes (crc checked).toNat

/-- How far a difference is from nothing, in either direction. -/
def weight (b : UInt8) : Nat := if b < 128 then b.toNat else 256 - b.toNat

/-- How far a row of differences is from nothing. -/
def rowWeight (row : List UInt8) : Nat := (row.map weight).foldl (· + ·) 0

/-- The one of three neighbours, to the left, above and between them, that is nearest to left and above
less between. -/
def expected (left above between : UInt8) : UInt8 :=
  let distance (m n : Int) : Nat := (m - n).natAbs
  let a : Int := left.toNat
  let b : Int := above.toNat
  let c : Int := between.toNat
  let pa := distance b c
  let pb := distance a c
  let pc := distance (a + b) (2 * c)
  if pa ≤ pb && pa ≤ pc then left else if pb ≤ pc then above else between

/-- A row moved to the right by the bytes of a pixel. -/
def shifted (pixel : Nat) (row : List UInt8) : List UInt8 :=
  (List.replicate pixel 0 ++ row).take row.length

/-- The differences of a row to the row above. -/
def upRow (above row : List UInt8) : List UInt8 := row.zipWith (· - ·) above

/-- The differences of a row to the pixels on the left. -/
def leftRow (pixel : Nat) (row : List UInt8) : List UInt8 := row.zipWith (· - ·) (shifted pixel row)

/-- The differences of a row to what its neighbours lead to expect. -/
def expectedRow (pixel : Nat) (above row : List UInt8) : List UInt8 :=
  let neighbours := (shifted pixel row).zip (above.zip (shifted pixel above))
  row.zipWith (fun v n => v - expected n.1 n.2.1 n.2.2) neighbours

/-- The better of two ways to write a row; the first if they are equally good. -/
def better (a b : UInt8 × List UInt8) : UInt8 × List UInt8 :=
  if rowWeight b.2 < rowWeight a.2 then b else a

/-- A row as it is written, after the number of the way. -/
def filtered (pixel : Nat) (above row : List UInt8) : List UInt8 :=
  let (way, written) := [(2, upRow above row), (1, leftRow pixel row),
    (4, expectedRow pixel above row)].foldl better (0, row)
  way :: written

/-- Rows as they are written, below a row. -/
def filteredRows (pixel : Nat) (above : List UInt8) : List (List UInt8) → List UInt8
  | [] => []
  | row :: rest => filtered pixel above row ++ filteredRows pixel row rest

/-- The bits of a channel, and the number for the kind of pixel. -/
def kindOf : Mode → UInt8 × UInt8
  | .rgb => (8, 2)
  | .rgba => (8, 6)
  | .grey => (8, 0)
  | .greyAlpha => (8, 4)
  | .bit => (1, 0)

/-- The bytes of a row. -/
def stride (p : Picture) : Nat :=
  match p.mode with
  | .bit => (p.width + 7) / 8
  | mode => p.width * mode.channels

/-- The rows of a picture. -/
def rows (p : Picture) : List (List UInt8) :=
  (List.range p.height).map fun y => (p.data.drop (y * stride p)).take (stride p)

/-- The picture as a file holds it. -/
def encode (p : Picture) : List UInt8 :=
  let (depth, kind) := kindOf p.mode
  let above := List.replicate (stride p) 0
  [0x89, 0x50, 0x4E, 0x47, 0x0D, 0x0A, 0x1A, 0x0A] ++
    chunk "IHDR" (fourBytes p.width ++ fourBytes p.height ++ [depth, kind, 0, 0, 0]) ++
    chunk "IDAT" (compress (filteredRows p.mode.channels above (rows p))) ++ chunk "IEND" []

end SuiteEngine.Picture.Png
