import Sift.State.Basic
import Sift.Engine.Selection

set_option autoImplicit false
set_option relaxedAutoImplicit false

/-!
# Selections by states

Selecting records by the rules of several states taken together.

## Main definitions

* `Sift.Engine.selectByStates`, `Sift.Engine.rejectByStates`.
-/

namespace Sift.Engine

variable {ι : Type} (e : Engine) (record : ι → Json)

/-- The references whose records match the rules of all states. -/
def selectByStates (refs : List ι) (states : List State) : Logged (List ι) :=
  e.select record refs (State.flatten states)

/-- The references whose records do not match the rules of all states. -/
def rejectByStates (refs : List ι) (states : List State) : Logged (List ι) :=
  e.reject record refs (State.flatten states)

end Sift.Engine
