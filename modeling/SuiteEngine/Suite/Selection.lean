import SuiteEngine.Suite.Api
import SuiteEngine.Suite.Ui

/-!
# Which tests run

A run may ask for tags; then the tests with at least one of them are meant, else all. Where some of the
tests meant are marked to run alone, the others are left out.

* `select`: both rules, one after the other. Declaration order is kept.
-/

namespace SuiteEngine.Suite

/-- What the choice of tests looks at. -/
class Selectable (α : Type) where
  tags : α → List String
  only : α → Bool

instance : Selectable ApiCase := ⟨ApiCase.tags, ApiCase.only⟩

instance : Selectable UiCase := ⟨UiCase.tags, UiCase.only⟩

variable {α : Type} [Selectable α]

/-- Whether the test has one of the tags asked for, or none is asked for. -/
def matchesTags (requested : List String) (test : α) : Bool :=
  requested.isEmpty || (Selectable.tags test).any fun tag => requested.contains tag

/-- The tests with one of the tags asked for. -/
def filterByTags (requested : List String) (tests : List α) : List α :=
  tests.filter (matchesTags requested)

/-- The tests marked to run alone, or all tests where there is none. -/
def selectRunnable (tests : List α) : List α :=
  match tests.filter Selectable.only with
  | [] => tests
  | focused => focused

/-- The tests that a run with these tags takes. -/
def select (requested : List String) (tests : List α) : List α :=
  selectRunnable (filterByTags requested tests)

end SuiteEngine.Suite
