/-!
# Pictures

A picture is stored row by row. Its mode says what one pixel is: red, green and blue, or grey, either
with or without an opacity, or a single bit; the bits of a row fill whole bytes, the highest first.
-/

namespace SuiteEngine

/-- What a pixel of a picture is. -/
inductive Picture.Mode where
  | rgb
  | rgba
  | grey
  | greyAlpha
  | bit
deriving DecidableEq, Repr

/-- A picture. -/
structure Picture where
  mode : Picture.Mode
  width : Nat
  height : Nat
  data : List UInt8
deriving DecidableEq

namespace Picture

/-- A colour: the amounts of red, green and blue. -/
structure Color where
  red : UInt8
  green : UInt8
  blue : UInt8
deriving DecidableEq, Repr

/-- The colour that is a shade of grey. -/
def Color.grey (v : UInt8) : Color := ⟨v, v, v⟩

/-- How many bytes a pixel takes, where it takes whole bytes. -/
def Mode.channels : Mode → Nat
  | .rgb => 3
  | .rgba => 4
  | .grey => 1
  | .greyAlpha => 2
  | .bit => 1

/-- The bits of a byte, the highest first. -/
def bits (b : UInt8) : List Bool :=
  [7, 6, 5, 4, 3, 2, 1, 0].map fun i => b.toNat / Nat.pow 2 i % 2 == 1

/-- The colours of pixels of three bytes. -/
def rgbColors : List UInt8 → List Color
  | r :: g :: b :: rest => ⟨r, g, b⟩ :: rgbColors rest
  | _ => []

/-- The colours of pixels of four bytes, their opacity being left out. -/
def rgbaColors : List UInt8 → List Color
  | r :: g :: b :: _ :: rest => ⟨r, g, b⟩ :: rgbaColors rest
  | _ => []

/-- The colours of pixels of two bytes, their opacity being left out. -/
def greyAlphaColors : List UInt8 → List Color
  | v :: _ :: rest => Color.grey v :: greyAlphaColors rest
  | _ => []

/-- The colours of `rows` rows of bits, each row being `width` pixels wide. -/
def bitColors (width : Nat) : (rows : Nat) → List UInt8 → List Color
  | 0, _ => []
  | rows + 1, data =>
    let stride := (width + 7) / 8
    let row := ((data.take stride).flatMap bits).take width
    row.map (fun b => Color.grey (if b then 255 else 0)) ++ bitColors width rows (data.drop stride)

/-- The colours of the pixels, row by row; opacity is left out. -/
def colors (p : Picture) : List Color :=
  match p.mode with
  | .rgb => rgbColors p.data
  | .rgba => rgbaColors p.data
  | .grey => p.data.map Color.grey
  | .greyAlpha => greyAlphaColors p.data
  | .bit => bitColors p.width p.height p.data

/-- The bytes of a colour. -/
def Color.bytes (c : Color) : List UInt8 := [c.red, c.green, c.blue]

/-- The picture of these colours. -/
def ofColors (width height : Nat) (colors : List Color) : Picture :=
  { mode := .rgb, width, height, data := colors.flatMap Color.bytes }

/-- The picture in red, green and blue. -/
def toRgb (p : Picture) : Picture := ofColors p.width p.height p.colors

/-- The picture of one colour. -/
def filled (width height : Nat) (c : Color) : Picture :=
  ofColors width height (List.replicate (width * height) c)

/-!
## Pictures made of pictures

Each of these goes over the pixels of one or two pictures. The pictures that a shade is asked of or that
are masks are in shades of grey, so that a pixel is a byte.
-/

/-- How far two amounts are apart. -/
def apart (a b : UInt8) : Nat := max a.toNat b.toNat - min a.toNat b.toNat

/-- How far two colours are apart, in each of the three amounts. -/
def Color.apart (a b : Color) : Color :=
  ⟨.ofNat (Picture.apart a.red b.red), .ofNat (Picture.apart a.green b.green),
    .ofNat (Picture.apart a.blue b.blue)⟩

/-- How far two pictures are apart. -/
def difference (a b : Picture) : Picture :=
  ofColors a.width a.height (List.zipWith Color.apart a.colors b.colors)

/-- The brightness of amounts of red, green and blue, rounded to the nearest shade. -/
def brightness (red green blue : Nat) : Nat :=
  (red * 19595 + green * 38470 + blue * 7471 + 32768) / 65536

/-- The shade that a colour has. -/
def Color.shade (c : Color) : UInt8 := .ofNat (brightness c.red.toNat c.green.toNat c.blue.toNat)

/-- The picture in shades of grey. -/
def toGrey (p : Picture) : Picture := { p with mode := .grey, data := p.colors.map Color.shade }

/-- The picture with each shade replaced by another one. -/
def reshaded (p : Picture) (f : UInt8 → UInt8) : Picture := { p with data := p.data.map f }

/-- How many pixels have each shade. -/
def histogram (p : Picture) : Array Nat :=
  p.data.foldl (fun counts v => counts.modify v.toNat (· + 1)) (Array.replicate 256 0)

/-- An amount between two amounts: the first where the mask is white, the second where it is black. -/
def mixed (mask top ground : UInt8) : UInt8 :=
  let n := top.toNat * mask.toNat + ground.toNat * (255 - mask.toNat) + 128
  .ofNat ((n / 256 + n) / 256)

/-- A colour between two colours. -/
def Color.mixed (mask : UInt8) (top ground : Color) : Color :=
  ⟨Picture.mixed mask top.red ground.red, Picture.mixed mask top.green ground.green,
    Picture.mixed mask top.blue ground.blue⟩

/-- A picture laid over another one, to be seen where the mask is white. -/
def composite (top ground mask : Picture) : Picture :=
  ofColors ground.width ground.height
    (List.zipWith (fun (m : UInt8) (c : Color × Color) => Color.mixed m c.1 c.2) mask.data
      (top.colors.zip ground.colors))

/-!
## Differences between pictures

Two colours differ by the shade of how far they are apart. A pixel is changed when that is above a
tolerance.
-/

/-- The difference above which a pixel counts as changed. -/
def tolerance : Nat := 10

/-- White for a shade above the tolerance, black for any other. -/
def flag (v : UInt8) : UInt8 := if v.toNat > tolerance then 255 else 0

/-- White where the pixels of two pictures are changed, and black elsewhere. -/
def changeMask (actual baseline : Picture) : Picture :=
  (actual.toRgb.difference baseline.toRgb).toGrey.reshaded flag

/-- The colour that marks a changed pixel. -/
def markColor : Color := ⟨255, 0, 0⟩

/-- The picture with the pixels marked where the mask is white. -/
def marked (p mask : Picture) : Picture :=
  composite (filled p.width p.height markColor) p.toRgb mask

/-- Width and height as messages show them. -/
def sizeText (p : Picture) : String := "(" ++ toString p.width ++ ", " ++ toString p.height ++ ")"

/-- Whether two pictures have one size. -/
def sameSize (a b : Picture) : Bool := a.width == b.width && a.height == b.height

end Picture

end SuiteEngine
