import Sift.State.Basic
import Sift.Rule.JsonForm

set_option autoImplicit false
set_option relaxedAutoImplicit false

/-!
# States as JSON

A state is an object of two texts and a list of rules, or an array of them. What is left out is
empty.

## Main definitions

* `Sift.State.toJson`: a state as a JSON value.
* `Sift.State.ofDocument`: the state that a document stands for.
-/

namespace Sift.State

open Json

/-- A state as a JSON value. -/
def toJson (s : State) : Json :=
  .object [("name", .text s.name), ("target", .text s.target),
    ("filters", .array (s.filters.map Rule.toJson))]

/-- The state that a document stands for. -/
def ofDocument (excess : Fault) : Decoder State := fun d => do
  let parts ← d.parts ["name", "target", "filters"] excess
  return {
    name := ← part parts "name" .text ""
    target := ← part parts "target" .text ""
    filters := ← part parts "filters" (.list (Rule.ofDocument excess)) [] }

/-- The state that a text stands for. -/
def ofJson (text : String) : Except Fault State :=
  decode (ofDocument .malformed) text

end Sift.State
