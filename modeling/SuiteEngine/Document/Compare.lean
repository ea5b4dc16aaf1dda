import SuiteEngine.Document.Value

/-!
# Equality and containment of values

`deepEqual` compares two values exactly, up to the order of object keys. `deepContains` asks whether
one value holds another: an object needs every key of the other with a contained value, an array a
place for every item of the other in whatever position.
-/

namespace SuiteEngine.Value

/-- Equality of two values that are neither arrays nor objects. -/
def scalarsEqual : Value → Value → Bool
  | missing, missing => true
  | null, null => true
  | bool a, bool b => a == b
  | int a, int b => a == b
  | str a, str b => a == b
  | bytes a, bytes b => a == b
  | a, b =>
    match a.denoted?, b.denoted? with
    | some x, some y => Exact.eq x y
    | _, _ => false

mutual
/-- Whether both values have the same structure and equal scalars. -/
def deepEqual : Value → Value → Bool
  | obj fs, w =>
    match w with
    | obj gs => fs.length == gs.length && fieldsEqual fs gs
    | _ => false
  | list xs, w => itemsEqual xs w.items?
  | tuple xs, w => itemsEqual xs w.items?
  | v, w => scalarsEqual v w
/-- Whether an array with these items equals the other array, given by its items. -/
def itemsEqual : List Value → Option (List Value) → Bool
  | [], ys => match ys with
    | some [] => true
    | _ => false
  | x :: xs, ys => match ys with
    | some (y :: ys) => deepEqual x y && itemsEqual xs (some ys)
    | _ => false
/-- Whether each field has an equal one under its key among `gs`. -/
def fieldsEqual : List (String × Value) → List (String × Value) → Bool
  | [], _ => true
  | (k, v) :: fs, gs =>
    (match lookup k gs with
      | some w => deepEqual v w
      | none => false) && fieldsEqual fs gs
end

mutual
/-- Whether `subset` is contained in `superset`. -/
def contained (superset : Value) : (subset : Value) → Bool
  | missing => superset.isMissing
  | null => superset.isNull
  | obj fs =>
    match superset with
    | obj gs => fieldsContained gs fs
    | _ => false
  | list xs =>
    match superset.items? with
    | some candidates => itemsContained candidates xs
    | none => false
  | tuple xs =>
    match superset.items? with
    | some candidates => itemsContained candidates xs
    | none => false
  | v => scalarsEqual superset v
/-- Whether every item has a candidate that contains it. -/
def itemsContained (candidates : List Value) : List Value → Bool
  | [] => true
  | x :: xs => candidates.any (fun candidate => contained candidate x) && itemsContained candidates xs
/-- Whether every field has, under its key among `gs`, a value that contains it. -/
def fieldsContained (gs : List (String × Value)) : List (String × Value) → Bool
  | [] => true
  | (k, v) :: fs => contained ((lookup k gs).getD missing) v && fieldsContained gs fs
end

/-- Whether `superset` contains `subset`. -/
def deepContains (superset subset : Value) : Bool := contained superset subset

end SuiteEngine.Value
