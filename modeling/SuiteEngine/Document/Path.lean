import SuiteEngine.Document.Value
import SuiteEngine.Text.Numeral

/-!
# Dotted paths

A path such as `data.items.0.id` leads from a value to one of its parts: through an object by a key,
through an array by an index. A path that leads nowhere gives `missing`.
-/

namespace SuiteEngine

namespace Text

/-- The pieces of `cs` between the places where `sep` stands. -/
def splitList (sep : Char) : List Char → List (List Char)
  | [] => [[]]
  | c :: cs =>
    match splitList sep cs with
    | [] => [[c]]
    | piece :: pieces => if c = sep then [] :: piece :: pieces else (c :: piece) :: pieces

/-- The pieces of `s` between the places where `sep` stands. -/
def split (sep : Char) (s : String) : List String := (splitList sep s.toList).map String.ofList

end Text

namespace Value

/-- The item with this index, if the array has it. -/
def itemAt (xs : List Value) (key : String) : Value :=
  match Text.parseInt? key with
  | some (Int.ofNat i) => xs.getD i missing
  | _ => missing

/-- One step from a value to its part under `key`. -/
def step (v : Value) (key : String) : Value :=
  match v with
  | list xs => itemAt xs key
  | tuple xs => itemAt xs key
  | obj fs => (lookup key fs).getD missing
  | _ => missing

/-- The part of the value that the path leads to. -/
def deepGet (v : Value) (path : String) : Value :=
  (Text.split '.' path).foldl step v

end Value

end SuiteEngine
