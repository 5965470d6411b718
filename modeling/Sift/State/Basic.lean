import Sift.Rule.Basic
import Sift.Text.Case

set_option autoImplicit false
set_option relaxedAutoImplicit false

/-!
# States

A state gives a value, by its name, and rules of its own. What the rules are for depends on the
target of the state.

## Main definitions

* `Sift.State`: a name, a target and rules.
* `Sift.State.isMaster`: the rules of the state decide on records by themselves.
* `Sift.State.flatten`: the rules of several states.
-/

namespace Sift

/-- A named list of rules with a target. -/
structure State where
  /-- The value that the state stands for. -/
  name : String
  /-- What the state applies to. -/
  target : String
  /-- The rules of the state. -/
  filters : List Rule
deriving DecidableEq

namespace State

/-- The target of a state is `master`, in any case. -/
def isMaster (s : State) : Bool :=
  Text.eqIgnoringAsciiCase s.target "master"

/-- The rules of several states in the order of the states. -/
def flatten (states : List State) : List Rule :=
  states.flatMap State.filters

end State

end Sift
