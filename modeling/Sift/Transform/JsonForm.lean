import Sift.Transform.Basic
import Sift.State.JsonForm

set_option autoImplicit false
set_option relaxedAutoImplicit false

/-!
# Transforms as JSON

A transform is an object with a member `name`, which tells what the other members are, or an array
that begins with the name. The name may stand anywhere in an object, so an object can be decoded
only when it has been read to its end. For this reason the whole of a transform, with the members
that are not looked for, has to denote a value, and its depth is limited.

## Main definitions

* `Sift.Transform.toJson`: a transform as a JSON value.
* `Sift.Transform.ofDocument`: the transform that a document stands for.
* `Sift.Transform.ofJson`, `Sift.Transform.pipelineOfJson`: a transform, or a list of them, from a
  text.
-/

namespace Sift.Transform

open Json

/-! ## Writing -/

/-- A transform as a JSON value. Each kind of transforms has its own tag. -/
def toJson (t : Transform) : Json :=
  let tagged (tag : String) (members : List (String × Json)) : Json :=
    .object (("name", .text tag) :: members)
  let rules (filters : List Rule) := ("filters", Json.array (filters.map Rule.toJson))
  let given (states : List State) := ("states", Json.array (states.map State.toJson))
  match t with
  | select filters => tagged "include" [rules filters]
  | reject filters => tagged "exclude" [rules filters]
  | selectByStates states => tagged "statesInclude" [given states]
  | rejectByStates states => tagged "statesExclude" [given states]
  | selectByCriteria criterion states =>
    tagged "masterInclude" [("criteriaName", .text criterion), given states]
  | rejectByCriteria criterion states =>
    tagged "masterExclude" [("criteriaName", .text criterion), given states]

/-! ## Reading -/

/-- The list of rules that the members of a transform hold. -/
def rulesOf (d : Document) : Except Fault (List Rule) := do
  let parts ← d.parts ["filters"] .unsuitable
  part parts "filters" (.list (Rule.ofDocument .unsuitable)) []

/-- The list of states that the members of a transform hold. -/
def statesOf (d : Document) : Except Fault (List State) := do
  let parts ← d.parts ["states"] .unsuitable
  part parts "states" (.list (State.ofDocument .unsuitable)) []

/-- The criterion and the list of states that the members of a transform hold. -/
def criterionOf (d : Document) : Except Fault (String × List State) := do
  let parts ← d.parts ["criteriaName", "states"] .unsuitable
  let criterion ← part parts "criteriaName" .text ""
  let states ← part parts "states" (.list (State.ofDocument .unsuitable)) []
  return (criterion, states)

/-- The transform with a name, from a document of its other members. -/
def ofMembers (name : String) (members : Document) : Except Fault Transform :=
  match name with
  | "include" => select <$> rulesOf members
  | "exclude" => reject <$> rulesOf members
  | "statesInclude" => selectByStates <$> statesOf members
  | "statesExclude" => rejectByStates <$> statesOf members
  | "masterInclude" => (fun (c, states) => selectByCriteria c states) <$> criterionOf members
  | "masterExclude" => (fun (c, states) => rejectByCriteria c states) <$> criterionOf members
  | _ => .error .unsuitable

/-- The depth that the arrays and objects of a transform, together with those around it, stay
below. -/
def depthLimit : Nat :=
  128

/-- The transform that a document stands for, inside `outer` arrays. -/
def ofDocument (outer : Nat) : Decoder Transform := fun d =>
  if d.value?.isNone ∨ depthLimit ≤ outer + d.depth then .error .malformed
  else
    match d with
    | .array (name :: members) => do ofMembers (← Decoder.text name) (.array members)
    | .object members =>
      match members.partition (·.1 == some "name") with
      | ([(_, name)], others) => do ofMembers (← Decoder.text name) (.object others)
      | _ => .error .unsuitable
    | _ => .error .unsuitable

/-- The transform that a text stands for. -/
def ofJson (text : String) : Except Fault Transform :=
  decode (ofDocument 0) text

/-- The pipeline that a text stands for. -/
def pipelineOfJson (text : String) : Except Fault (List Transform) :=
  decode (.list (ofDocument 1)) text

end Sift.Transform
