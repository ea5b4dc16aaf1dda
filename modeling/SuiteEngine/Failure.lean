/-!
# Failures

What keeps a step of a run from being completed. The kind decides how the step is reported; kinds that
are reported alike are told apart by a name only.

* `Failure.isHost`: whether the environment failed, rather than what is tested.
* `Failure.describe`: the failure as reports show it.
-/

namespace SuiteEngine

/-- A kind of failure. -/
inductive Failure.Kind where
  /-- The environment failed in some way. -/
  | host
  /-- The time allowed for a step ran out. -/
  | timeout
  /-- A request was not delivered or not answered. -/
  | transport
  /-- The browser refused an action. -/
  | action
  /-- A check did not hold. -/
  | assertion
  /-- A step is declared wrongly. -/
  | contract
  /-- A file could not be read or written. -/
  | file (name : String)
  /-- Anything else, by its name. -/
  | other (name : String)
deriving DecidableEq, Repr

/-- A failure: its kind and what it says. -/
structure Failure where
  kind : Failure.Kind
  message : String
deriving DecidableEq, Repr

namespace Failure

/-- The name of a kind. -/
def Kind.name : Kind → String
  | host => "HostError"
  | timeout => "HostTimeoutError"
  | transport => "HostTransportError"
  | action => "HostActionError"
  | assertion => "AssertionError"
  | contract => "ActionContractError"
  | file name => name
  | other name => name

/-- The kinds that are told apart by more than a name. -/
def Kind.distinct : List Kind := [host, timeout, transport, action, assertion, contract]

/-- The kind with a name. -/
def Kind.ofName (name : String) : Kind := (distinct.find? fun k => k.name == name).getD (other name)

/-- Whether the environment failed. -/
def isHost (f : Failure) : Bool :=
  match f.kind with
  | .host => true
  | .timeout => true
  | .transport => true
  | .action => true
  | _ => false

/-- Whether the message alone tells what happened. -/
def speaksForItself (f : Failure) : Bool :=
  match f.kind with
  | .assertion => true
  | .contract => true
  | .timeout => true
  | _ => false

/-- The failure as reports show it. -/
def describe (f : Failure) : String :=
  if f.message = "" then f.kind.name
  else if f.speaksForItself then f.message
  else f.kind.name ++ ": " ++ f.message

end Failure

end SuiteEngine
