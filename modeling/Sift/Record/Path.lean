import Sift.Json.Basic
import Sift.Text.Split
import Sift.Text.Digits

set_option autoImplicit false
set_option relaxedAutoImplicit false

/-!
# Paths into records

A path names a value inside a record by the steps that lead to it, with a point between the steps. A
step into an object is the name of a member, a step into an array the position of an element, and
there is no step into any other value.

## Main definitions

* `Sift.Json.step?`: the value one step inside another.
* `Sift.Json.resolve?`: the value at the end of a path.
-/

namespace Sift.Json

/-- The value one step inside another. The position of an element may have a plus sign and leading
zeros. -/
def step? (value : Json) (step : String) : Option Json :=
  match value with
  | object members => members.lookup step
  | array elements => do elements[← Text.word? step]?
  | _ => none

/-- The value at the end of a path. The path without a point is a single step, also if it is
empty. -/
def resolve? (record : Json) (path : String) : Option Json :=
  (Text.pieces '.' path).foldlM step? record

end Sift.Json
