import SuiteEngine.Decimal.Rounded
import SuiteEngine.Files.Tree
import SuiteEngine.Picture.Basic

/-!
# Snapshots

A screenshot is compared with the baseline that is stored for it. The first screenshot becomes the
baseline and passes; later ones pass when they have its size and few enough changed pixels.
-/

namespace SuiteEngine.Ui

open Files (Content Path Tree)

/-- How the comparison of a screenshot with its baseline ended. -/
structure Comparison where
  passed : Bool
  ratio : Float
  created : Bool
  /-- The screenshot with the changed pixels marked. -/
  marked : Option Picture
  message : String

/-- The failure that a content which is no picture is. -/
def notAPicture (shown : String) : Failure :=
  ⟨.other "UnidentifiedImageError", "cannot identify image file " ++ shown⟩

/-- The part of all that some are; nothing of nothing. -/
def ratioOf (part all : Nat) : Float := floatQuotient part all

/-- Compares a picture with a baseline picture; `name` is that of the baseline's file. -/
def comparePictures (actual baseline : Picture) (name : String) (limit : Float) : Comparison :=
  if !actual.sameSize baseline then
    { passed := false, ratio := 1.0, created := false, marked := none
      message := "Screenshot size " ++ actual.sizeText ++ " differs from baseline size " ++
        baseline.sizeText ++ " (" ++ name ++ ")" }
  else
    let mask := actual.changeMask baseline
    let count := mask.histogram.getD 255 0
    let all := actual.width * actual.height
    let ratio := ratioOf count all
    if ratio ≤ limit then
      { passed := true, ratio, created := false, marked := none
        message := toString count ++ " of " ++ toString all ++ " pixels differ (" ++
          floatPercent ratio 4 ++ ")" }
    else
      { passed := false, ratio, created := false, marked := some (actual.marked mask)
        message := "Screenshot differs from baseline " ++ name ++ ": " ++ floatPercent ratio 4 ++
          " of pixels changed (max " ++ floatPercent limit 4 ++ ")" }

/-- Stores a screenshot as the baseline. -/
def createBaseline (files : Tree) (actual : Content) (baseline : Path) :
    Except Failure (Comparison × Tree) := do
  let made ← (files.makeDirectories baseline.parent).mapError Files.Fault.failure
  let written ← (made.write baseline actual).mapError Files.Fault.failure
  return ({ passed := true, ratio := 0.0, created := true, marked := none
            message := "Baseline written to " ++ baseline.text }, written)

/-- Compares a screenshot with the baseline that is stored for it. -/
def compareWithBaseline (files : Tree) (actual : Content) (baseline : Path) (limit : Float) :
    Except Failure (Comparison × Tree) :=
  if !files.holds baseline then createBaseline files actual baseline
  else do
    let some shot := actual.picture? | throw (notAPicture "<image>")
    let stored ← (files.read baseline).mapError Files.Fault.failure
    let some base := stored.picture? | throw (notAPicture (Text.quoted baseline.text))
    return (comparePictures shot base baseline.name limit, files)

/-- The warning that a comparison gives rise to, if it does. -/
def Comparison.warning? (c : Comparison) (baseline : Path) : Option String :=
  c.marked.map fun _ =>
    "Visual difference for " ++ baseline.name ++ ": " ++ floatFixed (c.ratio * 100.0) 2 ++ "%"

end SuiteEngine.Ui
