import SuiteEngine.Document.Inspect
import SuiteEngine.Text.Word

/-!
# Placeholders

A placeholder is a name between doubled braces. `interpolate` replaces each placeholder of a bound
name in every string of a value, in one pass from left to right; what is put in is not read again. A
placeholder of an unbound name stays as it is.
-/

namespace SuiteEngine

/-- Variables and their values, in the order they were bound. -/
abbrev Variables := List (String × Value)

/-- The text that stands for a variable; `none` when it is unbound or bound to null. -/
def Variables.text? (vars : Variables) (name : String) : Option String :=
  match Value.lookup name vars with
  | none => none
  | some .null => none
  | some v => some v.text

/-- Overlays the data of one case on the variables of its suite. -/
def Variables.merge (vars : Variables) (injection : Variables) : Variables :=
  injection.foldl (fun acc (k, v) => Value.insert k v acc) vars

/-- A placeholder at the start of `cs`: its name and what follows it. -/
def placeholder? : List Char → Option (List Char × List Char)
  | '\x7b' :: '\x7b' :: rest =>
    let name := rest.takeWhile Text.isWord
    match name, rest.dropWhile Text.isWord with
    | [], _ => none
    | _, '\x7d' :: '\x7d' :: tail => some (name, tail)
    | _, _ => none
  | _ => none

/-- Replaces the placeholders of `cs`, where the next `skip` characters belong to the last one. -/
def interpolateFrom (vars : Variables) : (skip : Nat) → List Char → List Char
  | _, [] => []
  | skip + 1, _ :: cs => interpolateFrom vars skip cs
  | 0, c :: cs =>
    match placeholder? (c :: cs) with
    | some (name, _) =>
      let length := name.length + 4
      let shown := match vars.text? (String.ofList name) with
        | some s => s.toList
        | none => (c :: cs).take length
      shown ++ interpolateFrom vars (length - 1) cs
    | none => c :: interpolateFrom vars 0 cs

/-- The text with its placeholders replaced. -/
def interpolateText (vars : Variables) (s : String) : String :=
  String.ofList (interpolateFrom vars 0 s.toList)

namespace Value

mutual
/-- The value with the placeholders of its strings replaced; every array becomes a list. -/
def interpolate (vars : Variables) : Value → Value
  | str s => str (interpolateText vars s)
  | list xs => list (interpolateItems vars xs)
  | tuple xs => list (interpolateItems vars xs)
  | obj fs => obj (interpolateFields vars fs)
  | v => v
/-- `interpolate` on every item. -/
def interpolateItems (vars : Variables) : List Value → List Value
  | [] => []
  | x :: xs => interpolate vars x :: interpolateItems vars xs
/-- `interpolate` on every field, the keys staying as they are. -/
def interpolateFields (vars : Variables) : List (String × Value) → List (String × Value)
  | [] => []
  | (k, v) :: fs => (k, interpolate vars v) :: interpolateFields vars fs
end

end Value

end SuiteEngine
