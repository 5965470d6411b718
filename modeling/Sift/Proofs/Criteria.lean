import Mathlib.Data.List.Basic
import Sift.State.Criteria
import Sift.Proofs.Conjunction

set_option autoImplicit false
set_option relaxedAutoImplicit false

/-!
# What selections by criteria keep

A selection by criteria prepares all states first and then remembers which references it has kept;
matching a single record prepares the states one after the other and stops at the first that is
satisfied. Both ask the same question of a record, and remembering references amounts to dropping
all but the first occurrence of each.

## Main definitions

* `Sift.State.prepared` — a state taken apart, without the log.

## Main results

* `Sift.Engine.keepUnseen_nil` — a traversal that remembers what it has kept keeps the first
  occurrence of every reference that passes.
* `Sift.filter_eraseDups`, `Sift.eraseDups_eraseDups` — dropping repetitions commutes with
  filtering, and doing it twice changes nothing.
* `Sift.Engine.value_exactMatch`, `Sift.Engine.value_keepByCriteria` — the two questions are one.
-/

namespace Sift

/-! ## First occurrences -/

section Occurrences

variable {ι : Type} [DecidableEq ι]

/-- Dropping repetitions commutes with filtering.

**Proof sketch.** Induction on the length of the list. An entry that the filter keeps stands first on
both sides and is removed from the rest; one that the filter drops is removed from the rest by the
filter already. -/
theorem filter_eraseDups (p : ι → Bool) (l : List ι) :
    l.eraseDups.filter p = (l.filter p).eraseDups := by
  match l with
  | [] => rfl
  | i :: rest =>
    have hshorter : (rest.filter fun j => !j == i).length ≤ rest.length :=
      List.length_filter_le _ _
    have ih := filter_eraseDups p (rest.filter fun j => !j == i)
    rw [List.eraseDups_cons]
    by_cases hi : p i = true
    · rw [List.filter_cons_of_pos hi, List.filter_cons_of_pos hi, List.eraseDups_cons, ih,
        List.filter_comm]
    · have hne : ∀ j ∈ rest.filter p, (!j == i) = true := by
        intro j hj
        have hp : p j = true := (List.mem_filter.1 hj).2
        have : j ≠ i := fun h => hi (h ▸ hp)
        simpa using this
      rw [List.filter_cons_of_neg hi, List.filter_cons_of_neg hi, ih, List.filter_comm,
        List.filter_eq_self.2 hne]
termination_by l.length

/-- Dropping repetitions twice changes nothing. -/
theorem eraseDups_eraseDups (l : List ι) : l.eraseDups.eraseDups = l.eraseDups := by
  match l with
  | [] => rfl
  | i :: rest =>
    have hshorter : (rest.filter fun j => !j == i).length ≤ rest.length :=
      List.length_filter_le _ _
    have ih := eraseDups_eraseDups (rest.filter fun j => !j == i)
    rw [List.eraseDups_cons, List.eraseDups_cons, filter_eraseDups, List.filter_filter]
    simp only [Bool.and_self, ih]
termination_by l.length

/-- A traversal that passes over the references in `seen`, and over those that it has kept itself,
keeps the first occurrence of every other reference that passes.

**Proof sketch.** Induction on the references. A reference that is kept joins `seen`, and on the
other side it is removed from the rest by `List.eraseDups`. -/
lemma Engine.keepUnseen_eq_eraseDups (passes : ι → Bool) (seen refs : List ι) :
    keepUnseen passes seen refs =
      (refs.filter fun i => passes i && !seen.contains i).eraseDups := by
  induction refs generalizing seen with
  | nil => rfl
  | cons i rest ih =>
    by_cases hi : (passes i && !seen.contains i) = true
    · have hmerge : (fun j => passes j && !(i :: seen).contains j) =
          fun j => (!j == i) && (passes j && !seen.contains j) := by
        funext j
        rw [List.contains_cons, Bool.not_or, Bool.and_left_comm]
      have hkeep : ((i :: rest).filter fun j => passes j && !seen.contains j) =
          i :: rest.filter fun j => passes j && !seen.contains j := List.filter_cons_of_pos hi
      rw [keepUnseen, if_pos hi, ih, hkeep, List.eraseDups_cons, List.filter_filter, hmerge]
    · have hdrop : ((i :: rest).filter fun j => passes j && !seen.contains j) =
          rest.filter fun j => passes j && !seen.contains j := List.filter_cons_of_neg hi
      rw [keepUnseen, if_neg hi, ih, hdrop]

/-- Started without any references, the traversal keeps the first occurrence of every reference that
passes. -/
theorem Engine.keepUnseen_nil (passes : ι → Bool) (refs : List ι) :
    keepUnseen passes [] refs = (refs.filter passes).eraseDups := by
  simp only [keepUnseen_eq_eraseDups, List.contains_nil, Bool.not_false, Bool.and_true]

end Occurrences

/-! ## The states of a criterion -/

/-- A state taken apart. -/
def State.prepared (s : State) : PreparedState :=
  ⟨Literal.ofText s.name, if s.isMaster then some (s.filters.map Rule.compile) else none⟩

namespace Engine

variable (e : Engine)

@[simp] lemma value_prepare (s : State) : (e.prepare s).value = s.prepared := by
  simp only [prepare, State.prepared]
  split <;> rfl

@[simp] lemma value_mapM_prepare (states : List State) :
    (states.mapM e.prepare).value = states.map State.prepared := by
  induction states with
  | nil => rfl
  | cons s rest ih => simp [List.mapM_cons, ih]

/-- Taking states apart one after the other, until one is satisfied, finds one iff there is one. -/
lemma value_exactMatchKey (record : Json) (key : String) (states : List State) :
    (e.exactMatchKey record key states).value =
      states.any fun s => s.prepared.accepts key record := by
  induction states with
  | nil => rfl
  | cons s rest ih =>
    rw [exactMatchKey, Logged.value_bind, value_prepare, List.any_cons]
    split
    · next haccepts => rw [haccepts, Bool.true_or]; rfl
    · next hrejects => rw [ih, Bool.eq_false_iff.2 hrejects, Bool.false_or]

/-- A record matches a criterion iff it satisfies one of the states. -/
theorem value_exactMatch (record : Json) (states : List State) (criterion : String) :
    (e.exactMatch record states criterion).value =
      states.any fun s => s.prepared.accepts (Text.camel criterion) record :=
  e.value_exactMatchKey record (Text.camel criterion) states

@[simp] lemma value_exactMatch_nil (record : Json) (criterion : String) :
    (e.exactMatch record [] criterion).value = false := rfl

variable {ι : Type} [DecidableEq ι] (record : ι → Json)

/-- **A selection by criteria** keeps the references that match, each of them once; without any
states it keeps repetitions, since then it only passes on what it is given. -/
theorem value_keepByCriteria (exclude : Bool) (refs : List ι) (criterion : String)
    (states : List State) :
    (e.keepByCriteria record exclude refs criterion states).value =
      let kept := refs.filter fun i => (e.exactMatch (record i) states criterion).value != exclude
      if states.isEmpty then kept else kept.eraseDups := by
  cases states with
  | nil =>
    cases exclude with
    | false => simp [keepByCriteria]
    | true => exact (List.filter_eq_self.2 fun _ _ => rfl).symm
  | cons s rest =>
    simp only [keepByCriteria, Logged.value_within, List.isEmpty_cons, Bool.false_eq_true,
      if_false, Logged.value_bind, value_mapM_prepare, Logged.value_pure, keepUnseen_nil,
      value_exactMatch, List.any_map]
    rfl

end Engine

end Sift
