import Mathlib.Tactic.Tauto
import Sift.Transform.Basic
import Sift.Proofs.Criteria
import Sift.Proofs.Selection

set_option autoImplicit false
set_option relaxedAutoImplicit false

/-!
# Pipelines keep what every step admits

Each step of a pipeline works on what the step before it has kept, and two of the six kinds of steps
also drop repeated references. Neither shows in the result: a pipeline keeps the references that
every step admits, without repetitions iff some step drops them. So the order of the steps and their
repetitions do not matter.

## Main definitions

* `Sift.Transform.admits` — the condition that a transform puts on a record.
* `Sift.Transform.dropsRepeats` — the transforms that drop repeated references.

## Main results

* `Sift.Engine.value_apply` — what one transform keeps.
* `Sift.Engine.value_applyPipeline` — what a pipeline keeps, from its steps alone.
* `Sift.Engine.pipeline_keeps_what_every_step_admits` — hence pipelines of the same steps keep the
  same.
-/

namespace Sift

/-- The condition that a transform puts on a record. -/
def Transform.admits (t : Transform) (e : Engine) (record : Json) : Bool :=
  match t with
  | .select filters => matchesAll filters record
  | .reject filters => !matchesAll filters record
  | .selectByStates states => matchesAll (State.flatten states) record
  | .rejectByStates states => !matchesAll (State.flatten states) record
  | .selectByCriteria criterion states => (e.exactMatch record states criterion).value
  | .rejectByCriteria criterion states => !(e.exactMatch record states criterion).value

/-- A transform drops repeated references: it selects by criteria, and it has states to do so. -/
def Transform.dropsRepeats : Transform → Bool
  | .selectByCriteria _ states | .rejectByCriteria _ states => !states.isEmpty
  | _ => false

namespace Engine

variable {ι : Type} [DecidableEq ι] (e : Engine) (record : ι → Json)

/-! ## One step -/

/-- References without repetitions if some step drops them, and as they are otherwise. -/
def dropRepeatsIf (drop : Bool) (refs : List ι) : List ι :=
  if drop then refs.eraseDups else refs

/-- **What one transform keeps**: the references that it admits, without repetitions if it drops
them. -/
theorem value_apply (t : Transform) (refs : List ι) :
    (e.apply record t refs).value =
      dropRepeatsIf t.dropsRepeats (refs.filter fun i => t.admits e (record i)) := by
  cases t with
  | select filters => exact e.value_select record refs filters
  | reject filters => exact e.value_reject record refs filters
  | selectByStates states => exact e.value_select record refs (State.flatten states)
  | rejectByStates states => exact e.value_reject record refs (State.flatten states)
  | selectByCriteria criterion states =>
    rw [apply, selectByCriteria, value_keepByCriteria]
    simp only [Bool.bne_false, Transform.dropsRepeats, Transform.admits, dropRepeatsIf]
    cases states <;> rfl
  | rejectByCriteria criterion states =>
    rw [apply, rejectByCriteria, value_keepByCriteria]
    simp only [Bool.bne_true, Transform.dropsRepeats, Transform.admits, dropRepeatsIf]
    cases states <;> rfl

@[simp] lemma value_applyStep (t : Transform) (refs : List ι) :
    (e.applyStep record refs t).value = (e.apply record t refs).value := rfl

/-! ## All steps -/

omit [DecidableEq ι] in
/-- A filter behind a pipeline's step keeps what both admit. -/
lemma filter_admits_cons (t : Transform) (rest : List Transform) (refs : List ι) :
    (refs.filter fun i => t.admits e (record i)).filter
        (fun i => rest.all fun t => t.admits e (record i)) =
      refs.filter fun i => (t :: rest).all fun t => t.admits e (record i) := by
  rw [List.filter_filter]
  refine List.filter_congr fun i _ => ?_
  rw [List.all_cons, Bool.and_comm]

/-- **What a pipeline keeps**: the references that all of its steps admit, without repetitions if one
of its steps drops them.

**Proof sketch.** Induction on the steps. The filter of the remaining steps passes through the
repetitions that the first step drops (`filter_eraseDups`), and dropping repetitions once more
changes nothing (`eraseDups_eraseDups`). -/
theorem value_applyPipeline (pipeline : List Transform) (refs : List ι) :
    (e.applyPipeline record pipeline refs).value =
      dropRepeatsIf (pipeline.any Transform.dropsRepeats)
        (refs.filter fun i => pipeline.all fun t => t.admits e (record i)) := by
  induction pipeline generalizing refs with
  | nil => exact (List.filter_eq_self.2 fun _ _ => rfl).symm
  | cons t rest ih =>
    have hstep : (e.applyPipeline record (t :: rest) refs).value =
        (e.applyPipeline record rest (e.apply record t refs).value).value := rfl
    rw [hstep, ih, value_apply, List.any_cons, ← filter_admits_cons]
    cases t.dropsRepeats with
    | false => rfl
    | true =>
      simp only [dropRepeatsIf, if_true, Bool.true_or, filter_eraseDups]
      split
      · exact eraseDups_eraseDups _
      · rfl

/-- Pipelines of the same steps keep the same. -/
lemma value_applyPipeline_congr {pipeline others : List Transform}
    (h : ∀ t, t ∈ others ↔ t ∈ pipeline) (refs : List ι) :
    (e.applyPipeline record others refs).value = (e.applyPipeline record pipeline refs).value := by
  have hadmits : ∀ i, (others.all fun t => t.admits e (record i)) =
      pipeline.all fun t => t.admits e (record i) := by
    intro i
    rw [Bool.eq_iff_iff, List.all_eq_true, List.all_eq_true]
    simp only [h]
  have hdrops : others.any Transform.dropsRepeats = pipeline.any Transform.dropsRepeats := by
    rw [Bool.eq_iff_iff, List.any_eq_true, List.any_eq_true]
    simp only [h]
  simp only [value_applyPipeline, hadmits, hdrops]

/-- **A pipeline keeps exactly the references that every one of its steps admits**, in their order,
each of them once iff some step selects by criteria with states to do so. Hence every pipeline of
the same steps, in whatever order and however often they occur, keeps the same references, although
each step only sees what the steps before it have kept. -/
theorem pipeline_keeps_what_every_step_admits (pipeline : List Transform) (refs : List ι) :
    (e.applyPipeline record pipeline refs).value =
      (if pipeline.any Transform.dropsRepeats then
        (refs.filter fun i => pipeline.all fun t => t.admits e (record i)).eraseDups
      else
        refs.filter fun i => pipeline.all fun t => t.admits e (record i)) ∧
    ∀ others : List Transform, (∀ t, t ∈ others ↔ t ∈ pipeline) →
      (e.applyPipeline record others refs).value =
        (e.applyPipeline record pipeline refs).value :=
  ⟨e.value_applyPipeline record pipeline refs,
    fun _ h => e.value_applyPipeline_congr record h refs⟩

/-- A record that is listed twice is kept once, before and after the steps change places and one of
them is repeated. -/
theorem pipeline_keeps_what_every_step_admits_swapped :
    (∀ t : Transform,
      t ∈ [.reject [⟨"brand", "=", "Acme"⟩], .selectByCriteria "stock" [⟨"Yes", "", []⟩],
          .reject [⟨"brand", "=", "Acme"⟩]] ↔
        t ∈ [.selectByCriteria "stock" [⟨"Yes", "", []⟩], .reject [⟨"brand", "=", "Acme"⟩]]) ∧
    (applyPipeline {} (fun inStock => .object [("stock", .text (if inStock then "Yes" else "No"))])
      [.reject [⟨"brand", "=", "Acme"⟩], .selectByCriteria "stock" [⟨"Yes", "", []⟩],
        .reject [⟨"brand", "=", "Acme"⟩]]
      [true, false, true]).value = [true] := by
  have h : ∀ t : Transform,
      t ∈ [.reject [⟨"brand", "=", "Acme"⟩], .selectByCriteria "stock" [⟨"Yes", "", []⟩],
          .reject [⟨"brand", "=", "Acme"⟩]] ↔
        t ∈ [.selectByCriteria "stock" [⟨"Yes", "", []⟩], .reject [⟨"brand", "=", "Acme"⟩]] := by
    intro t
    simp only [List.mem_cons, List.not_mem_nil, or_false]
    tauto
  refine ⟨h, ?_⟩
  rw [(pipeline_keeps_what_every_step_admits _ _ _ _).2 _ h]
  decide

end Engine

end Sift
