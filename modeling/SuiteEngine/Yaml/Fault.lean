import SuiteEngine.Failure

/-!
# Why a text denotes no data

Either it is no YAML, or a scalar in it denotes no value of its kind. The second is a failure of one of
a few kinds, none of which says that the text is at fault.
-/

namespace SuiteEngine.Yaml

/-- The kinds of failure that reading a scalar may end in. -/
inductive ScalarFault.Kind where
  | value
  | overflow
  | key
  | index
  | noAttribute
deriving DecidableEq, Repr

/-- The name of such a kind. -/
def ScalarFault.Kind.name : ScalarFault.Kind → String
  | value => "ValueError"
  | overflow => "OverflowError"
  | key => "KeyError"
  | index => "IndexError"
  | noAttribute => "AttributeError"

/-- Why a scalar denotes no value of its kind. -/
structure ScalarFault where
  kind : ScalarFault.Kind
  message : String
deriving DecidableEq, Repr

/-- The fault of a scalar as a failure. -/
def ScalarFault.failure (f : ScalarFault) : Failure := ⟨.other f.kind.name, f.message⟩

/-- Why a text denotes no data. -/
inductive Fault where
  | malformed
  | scalar (f : ScalarFault)
deriving DecidableEq, Repr

/-- The fault of a scalar, by its kind and what it says. -/
def Fault.ofKind (kind : ScalarFault.Kind) (message : String) : Fault := .scalar ⟨kind, message⟩

end SuiteEngine.Yaml
