import Mathlib.Data.List.Nodup
import Sift.Proofs.Criteria

set_option autoImplicit false
set_option relaxedAutoImplicit false

/-!
# Selections by criteria keep first occurrences

A selection by criteria keeps a reference where it occurs first in the list, if its record satisfies
a state, and the rejection by the same criteria keeps it there if its record satisfies none. The
question whether it does is the one that is asked of a single record. So the two results share the
references among them, each once, and what counts is the reference and not what is in its record.

## Main definitions

* `Sift.firstOccurrences` — the entries that pass a test, each at the first place where it occurs.

## Main results

* `Sift.Engine.keepUnseen_eq_map_filter` — what a traversal that remembers what it has kept keeps,
  in terms of positions.
* `Sift.eraseDups_filter` — dropping repetitions leaves first occurrences.
* `Sift.Engine.criteria_keep_first_occurrences` — what selections by criteria keep.
-/

namespace Sift

section Occurrences

variable {ι : Type} [DecidableEq ι]

/-- The entries that pass a test, each at the first position at which it occurs. -/
def firstOccurrences (p : ι → Bool) (l : List ι) : List ι :=
  (l.zipIdx.filter fun x => p x.1 && l.idxOf x.1 == x.2).map Prod.fst

/-- Behind another entry, the first position of an entry is one further on, unless the two are the
same. -/
lemma idxOf_cons_add_beq {i j : ι} {rest : List ι} {n m : Nat} (hm : (j, m) ∈ rest.zipIdx (n + 1)) :
    ((i :: rest).idxOf j + n == m) = (!(j == i) && rest.idxOf j + (n + 1) == m) := by
  have hle : n + 1 ≤ m := List.le_snd_of_mem_zipIdx hm
  by_cases hij : i = j
  · subst hij
    have hne : n ≠ m := by omega
    simp [hne]
  · rw [List.idxOf_cons, beq_false_of_ne hij, beq_false_of_ne (Ne.symm hij), Bool.eq_iff_iff]
    simp only [cond_false, Bool.not_false, Bool.true_and, beq_iff_eq]
    omega

/-- **A traversal that remembers what it has kept** keeps an entry that it does not remember at the
first position at which it occurs, if it passes.

**Proof sketch.** Induction on the references, with the position of the first one generalized. A
reference that is kept is remembered, so that it is not kept again, and one that is not kept at its
first position will not be kept later. -/
theorem Engine.keepUnseen_eq_map_filter (passes : ι → Bool) (seen refs : List ι) (n : Nat) :
    keepUnseen passes seen refs =
      ((refs.zipIdx n).filter fun x =>
        (passes x.1 && !seen.contains x.1) && refs.idxOf x.1 + n == x.2).map Prod.fst := by
  induction refs generalizing seen n with
  | nil => rfl
  | cons i rest ih =>
    have hfirst : ((i :: rest).idxOf i + n == n) = true := by simp
    rw [keepUnseen, List.zipIdx_cons]
    by_cases hi : (passes i && !seen.contains i) = true
    · have hhead : ((passes i && !seen.contains i) && (i :: rest).idxOf i + n == n) = true := by
        rw [hi, hfirst, Bool.and_self]
      have hrest : ∀ x ∈ rest.zipIdx (n + 1),
          ((passes x.1 && !seen.contains x.1) && (i :: rest).idxOf x.1 + n == x.2) =
            ((passes x.1 && !(i :: seen).contains x.1) && rest.idxOf x.1 + (n + 1) == x.2) := by
        rintro ⟨j, m⟩ hm
        rw [idxOf_cons_add_beq hm, List.contains_cons, Bool.not_or]
        ac_rfl
      rw [if_pos hi, ih (i :: seen) (n + 1), List.filter_cons, if_pos hhead, List.map_cons,
        List.filter_congr hrest]
    · have hhead : ¬((passes i && !seen.contains i) && (i :: rest).idxOf i + n == n) = true := by
        rw [hfirst, Bool.and_true]
        exact hi
      have hrest : ∀ x ∈ rest.zipIdx (n + 1),
          ((passes x.1 && !seen.contains x.1) && (i :: rest).idxOf x.1 + n == x.2) =
            ((passes x.1 && !seen.contains x.1) && rest.idxOf x.1 + (n + 1) == x.2) := by
        rintro ⟨j, m⟩ hm
        rw [idxOf_cons_add_beq hm]
        by_cases hji : j = i
        · subst hji
          rw [Bool.eq_false_iff.2 hi, Bool.false_and, Bool.false_and]
        · rw [beq_false_of_ne hji, Bool.not_false, Bool.true_and]
      rw [if_neg hi, ih seen (n + 1), List.filter_cons, if_neg hhead, List.filter_congr hrest]

/-- **Dropping repetitions leaves first occurrences.** -/
theorem eraseDups_filter (p : ι → Bool) (l : List ι) :
    (l.filter p).eraseDups = firstOccurrences p l := by
  rw [← Engine.keepUnseen_nil, Engine.keepUnseen_eq_map_filter p [] l 0]
  simp only [firstOccurrences, List.contains_nil, Bool.not_false, Bool.and_true, Nat.add_zero]

lemma mem_firstOccurrences (p : ι → Bool) (l : List ι) (i : ι) :
    i ∈ firstOccurrences p l ↔ i ∈ l ∧ p i = true := by
  rw [← eraseDups_filter, List.mem_eraseDups, List.mem_filter]

/-- No entry has two first positions. -/
lemma nodup_firstOccurrences (p : ι → Bool) (l : List ι) : (firstOccurrences p l).Nodup := by
  have hplaces : l.zipIdx.Nodup := by
    refine List.Nodup.of_map Prod.snd ?_
    rw [List.zipIdx_map_snd]
    exact List.nodup_range'
  refine List.Nodup.map_on ?_ (hplaces.filter _)
  intro x hx y hy hxy
  simp only [List.mem_filter, Bool.and_eq_true, beq_iff_eq] at hx hy
  exact Prod.ext hxy (by rw [← hx.2.2, ← hy.2.2, hxy])

/-- An entry that occurs at all is counted once if it passes. -/
lemma count_firstOccurrences (p : ι → Bool) {l : List ι} {i : ι} (hi : i ∈ l) :
    (firstOccurrences p l).count i = if p i then 1 else 0 := by
  split
  · next hpasses =>
    exact List.count_eq_one_of_mem (nodup_firstOccurrences p l)
      ((mem_firstOccurrences p l i).2 ⟨hi, hpasses⟩)
  · next hfails =>
    rw [List.count_eq_zero, mem_firstOccurrences]
    exact fun hmem => hfails hmem.2

end Occurrences

namespace Engine

variable {ι : Type} [DecidableEq ι] (e : Engine) (record : ι → Json) (refs : List ι)
  (criterion : String)

/-! ## Selections by criteria -/

/-- Whether a record satisfies a state does not depend on the settings. -/
lemma value_exactMatch_congr (e e' : Engine) (r : Json) (states : List State) :
    (e.exactMatch r states criterion).value = (e'.exactMatch r states criterion).value := by
  rw [value_exactMatch, value_exactMatch]

section States

variable {states : List State} (hstates : states ≠ [])

include hstates

/-- Where there are states, a selection or rejection by criteria keeps first occurrences. -/
lemma value_keepByCriteria_of_ne_nil (exclude : Bool) :
    (e.keepByCriteria record exclude refs criterion states).value =
      firstOccurrences (fun i => (e.exactMatch (record i) states criterion).value != exclude)
        refs := by
  have hfalse : states.isEmpty = false := List.isEmpty_eq_false_iff.2 hstates
  rw [value_keepByCriteria, ← eraseDups_filter]
  simp only [hfalse, Bool.false_eq_true, if_false]

lemma value_selectByCriteria :
    (e.selectByCriteria record refs criterion states).value =
      firstOccurrences (fun i => (e.exactMatch (record i) states criterion).value) refs := by
  simp only [selectByCriteria, e.value_keepByCriteria_of_ne_nil record refs criterion hstates,
    Bool.bne_false]

lemma value_rejectByCriteria :
    (e.rejectByCriteria record refs criterion states).value =
      firstOccurrences (fun i => !(e.exactMatch (record i) states criterion).value) refs := by
  simp only [rejectByCriteria, e.value_keepByCriteria_of_ne_nil record refs criterion hstates,
    Bool.bne_true]

end States

/-- **Selections by criteria keep first occurrences.** Where there are states, the selection keeps
every reference whose record matches, where it first occurs, and the rejection every other one; so
each reference, also of records with the same content, is in one of the results, once. The states
are prepared beforehand there, and one by one where a single record is matched, without a
difference, under any settings. Without any states nothing is selected, and the rejection passes the
references on with their repetitions. -/
theorem criteria_keep_first_occurrences (e e' : Engine) :
    (∀ states ≠ [],
      (e.selectByCriteria record refs criterion states).value =
        firstOccurrences (fun i => (e'.exactMatch (record i) states criterion).value) refs ∧
      (e.rejectByCriteria record refs criterion states).value =
        firstOccurrences (fun i => !(e'.exactMatch (record i) states criterion).value) refs ∧
      ∀ i ∈ refs,
        (e.selectByCriteria record refs criterion states).value.count i =
          (if (e'.exactMatch (record i) states criterion).value then 1 else 0) ∧
        (e.rejectByCriteria record refs criterion states).value.count i =
          (if (e'.exactMatch (record i) states criterion).value then 0 else 1)) ∧
    (e.selectByCriteria record refs criterion []).value = [] ∧
    (e.rejectByCriteria record refs criterion []).value = refs := by
  refine ⟨fun states hstates => ?_, rfl, rfl⟩
  have hselect := e.value_selectByCriteria record refs criterion hstates
  have hreject := e.value_rejectByCriteria record refs criterion hstates
  simp only [value_exactMatch_congr criterion e e'] at hselect hreject
  refine ⟨hselect, hreject, fun i hi => ?_⟩
  rw [hselect, hreject, count_firstOccurrences _ hi, count_firstOccurrences _ hi]
  cases (e'.exactMatch (record i) states criterion).value <;> exact ⟨rfl, rfl⟩

/-- Two records with the same content are both kept, at the places where they first occur, and a
repetition of the first is not. -/
theorem criteria_keep_first_occurrences_repeated :
    [(⟨"Yes", "", []⟩ : State)] ≠ [] ∧ 1 ∈ [1, 0, 1, 2] ∧
    let record : Nat → Json := fun i => .object [("stock", .text (if i = 0 then "No" else "Yes"))]
    (selectByCriteria {} record [1, 0, 1, 2] "Stock" [⟨"Yes", "", []⟩]).value = [1, 2] ∧
      (rejectByCriteria {} record [1, 0, 1, 2] "Stock" [⟨"Yes", "", []⟩]).value.count 1 = 0 := by
  let record : Nat → Json := fun i => .object [("stock", .text (if i = 0 then "No" else "Yes"))]
  have hstates : [(⟨"Yes", "", []⟩ : State)] ≠ [] := nofun
  have hmem : 1 ∈ [1, 0, 1, 2] := by decide
  have hkeep :=
    (criteria_keep_first_occurrences record [1, 0, 1, 2] "Stock" {} {}).1 [⟨"Yes", "", []⟩] hstates
  refine ⟨hstates, hmem, ?_, ?_⟩
  · rw [hkeep.1]
    decide
  · rw [(hkeep.2.2 1 hmem).2]
    decide

end Engine

end Sift
