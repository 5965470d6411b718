import Sift.State.Basic
import Sift.Engine.Selection
import Sift.Text.Camel

set_option autoImplicit false
set_option relaxedAutoImplicit false

/-!
# Criteria

A criterion is a labelled property of records, and states are the values it may have. A record
satisfies a state if the property has the value that the state is named after, or if the state is a
master state and the record matches its rules.

## Main definitions

* `Sift.PreparedState`: a state taken apart.
* `Sift.Engine.exactMatch`: a record satisfies one of several states.
* `Sift.Engine.keepUnseen`: the references that pass a test, each once.
* `Sift.Engine.selectByCriteria`, `Sift.Engine.rejectByCriteria`: the references whose records
  satisfy one of several states, and those whose records do not, each once.
-/

namespace Sift

/-- A state taken apart. -/
structure PreparedState where
  /-- The value that the state stands for. -/
  value : Literal
  /-- The rules of a master state. -/
  master : Option (List CompiledRule)

/-- A record satisfies a state: it matches the rules of a master state, or its member of the given
name has the value that the state stands for. -/
def PreparedState.accepts (s : PreparedState) (key : String) (record : Json) : Bool :=
  s.master.any (matchesCompiled · record) || (record.member? key).any s.value.isSame

namespace Engine

/-- Take a state apart. Only the rules of master states are compiled. -/
def prepare (e : Engine) (s : State) : Logged PreparedState := do
  let value := Literal.ofText s.name
  if s.isMaster then
    return ⟨value, some (← e.compile s.filters)⟩
  else
    return ⟨value, none⟩

/-- A record satisfies one of several states, which are taken apart one after the other until one is
satisfied. -/
def exactMatchKey (e : Engine) (record : Json) (key : String) : List State → Logged Bool
  | [] => return false
  | s :: rest => do
    if (← e.prepare s).accepts key record then
      return true
    else
      exactMatchKey e record key rest

/-- A record satisfies one of several states of a criterion. -/
def exactMatch (e : Engine) (record : Json) (states : List State) (criterion : String) :
    Logged Bool :=
  e.exactMatchKey record (Text.camel criterion) states

section Selection

variable {ι : Type} [DecidableEq ι] (e : Engine) (record : ι → Json)

/-- The references that pass a test, each of them once: a reference that has been kept before, as
`seen` lists them, is passed over. -/
def keepUnseen (passes : ι → Bool) (seen : List ι) : List ι → List ι
  | [] => []
  | r :: rest =>
    if passes r && !seen.contains r then r :: keepUnseen passes (r :: seen) rest
    else keepUnseen passes seen rest

/-- The references whose records satisfy one of the states of a criterion, or with `exclude` those
whose records satisfy none; of equal references the first is kept. Without any states nothing is
satisfied and no reference is dropped for being repeated. -/
def keepByCriteria (exclude : Bool) (refs : List ι) (criterion : String) (states : List State) :
    Logged (List ι) :=
  .within
    { name := "filter_by_criteria", target := "product_filter::group",
      fields := [("criteria", .name criterion), ("states", .integer states.length),
        ("exclude", .bool exclude)] }
    do
      if states.isEmpty then
        return if exclude then refs else []
      let key := Text.camel criterion
      let prepared ← states.mapM e.prepare
      let kept := keepUnseen (fun r => prepared.any (·.accepts key (record r)) != exclude) [] refs
      Logged.emit
        { level := .debug, target := "product_filter::group", message := "按条件过滤完成",
          fields := [("field", .text key), ("kept", .integer kept.length)] }
      return kept

/-- The references whose records satisfy one of the states of a criterion. -/
def selectByCriteria (refs : List ι) (criterion : String) (states : List State) :
    Logged (List ι) :=
  e.keepByCriteria record false refs criterion states

/-- The references whose records satisfy none of the states of a criterion. -/
def rejectByCriteria (refs : List ι) (criterion : String) (states : List State) :
    Logged (List ι) :=
  e.keepByCriteria record true refs criterion states

end Selection

end Engine

end Sift
