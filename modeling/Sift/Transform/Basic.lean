import Sift.State.Selection
import Sift.State.Criteria

set_option autoImplicit false
set_option relaxedAutoImplicit false

/-!
# Transforms

A transform is a selection as a value: what to select by, without what to select from. A pipeline is
a list of transforms, each applied to what the one before it has kept.

## Main definitions

* `Sift.Transform`: a selection as a value.
* `Sift.Engine.apply`: what a transform keeps.
* `Sift.Engine.applyPipeline`: what several transforms keep one after the other.
-/

namespace Sift

/-- A selection as a value. -/
inductive Transform
  /-- Keep what matches rules. -/
  | select (filters : List Rule)
  /-- Drop what matches rules. -/
  | reject (filters : List Rule)
  /-- Keep what matches the rules of all states. -/
  | selectByStates (states : List State)
  /-- Drop what matches the rules of all states. -/
  | rejectByStates (states : List State)
  /-- Keep what satisfies a state of a criterion. -/
  | selectByCriteria (criterion : String) (states : List State)
  /-- Drop what satisfies a state of a criterion. -/
  | rejectByCriteria (criterion : String) (states : List State)
deriving DecidableEq

/-- The name of a transform. -/
def Transform.name : Transform → String
  | select _ => "include"
  | reject _ => "exclude"
  | selectByStates _ => "statesInclude"
  | rejectByStates _ => "statesExclude"
  | selectByCriteria .. => "masterInclude"
  | rejectByCriteria .. => "masterExclude"

namespace Engine

variable {ι : Type} [DecidableEq ι] (e : Engine) (record : ι → Json)

/-- The references that a transform keeps. -/
def apply (t : Transform) (refs : List ι) : Logged (List ι) :=
  match t with
  | .select filters => e.select record refs filters
  | .reject filters => e.reject record refs filters
  | .selectByStates states => e.selectByStates record refs states
  | .rejectByStates states => e.rejectByStates record refs states
  | .selectByCriteria criterion states => e.selectByCriteria record refs criterion states
  | .rejectByCriteria criterion states => e.rejectByCriteria record refs criterion states

/-- The references that one step of a pipeline keeps, with a report on their number. -/
def applyStep (refs : List ι) (t : Transform) : Logged (List ι) := do
  let kept ← e.apply record t refs
  Logged.emit
    { level := .debug, target := "product_filter::transform", message := "转换已应用",
      fields := [("transform", .name t.name), ("before", .integer refs.length),
        ("after", .integer kept.length)] }
  return kept

/-- The references that the transforms of a pipeline keep one after the other. -/
def applyPipeline (pipeline : List Transform) (refs : List ι) : Logged (List ι) :=
  pipeline.foldlM (e.applyStep record) refs

end Engine

end Sift
