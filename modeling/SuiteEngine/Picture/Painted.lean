import SuiteEngine.Picture.Basic

/-!
# Painting pictures

A picture is painted on a ground of one colour, pixel by pixel; a later pixel covers an earlier one at
the same place. A colour is the list of its channels.
-/

namespace SuiteEngine.Picture

/-- A byte with these bits, the highest first; bits that are wanting are zero. -/
def byteOfBits (bits : List Bool) : UInt8 :=
  UInt8.ofNat ((List.range 8).foldl (fun n i => n * 2 + (bits.getD i false).toNat) 0)

/-- Some bits in whole bytes. -/
def packedBits (bits : List Bool) : List UInt8 :=
  (List.range ((bits.length + 7) / 8)).map fun i => byteOfBits (bits.drop (8 * i))

/-- A pixel to be painted. -/
structure Dot where
  x : Nat
  y : Nat
  color : List UInt8

/-- The channels of a colour, which has the same amount in each if it has only one. -/
def channelsOf (mode : Mode) (color : List UInt8) : List UInt8 :=
  if color.length = mode.channels then color
  else List.replicate mode.channels (color.headD 0)

/-- A row of pixels as it is stored. -/
def storedRow (mode : Mode) (row : List (List UInt8)) : List UInt8 :=
  match mode with
  | .bit => packedBits (row.map fun c => c.headD 0 != 0)
  | _ => row.flatten

/-- A picture with some pixels on a ground. -/
def painted (mode : Mode) (width height : Nat) (ground : List UInt8) (dots : List Dot) : Picture :=
  let blank := Array.replicate (width * height) (channelsOf mode ground)
  let pixels := dots.foldl (fun a d => a.setIfInBounds (d.y * width + d.x) d.color) blank
  let rows := (List.range height).map fun y =>
    storedRow mode (pixels.extract (y * width) ((y + 1) * width)).toList
  { mode, width, height, data := rows.flatten }

end SuiteEngine.Picture
