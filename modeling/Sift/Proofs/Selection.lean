import Sift.Engine.Selection
import Sift.Proofs.Conjunction

set_option autoImplicit false
set_option relaxedAutoImplicit false

/-!
# What selections keep

The value of every selection as a filter of its references. The shortcuts for the empty list of
rules, and the empty list of references, are cases of the same formula, and the settings of the
engine play no part in it.

## Main results

* `Sift.Engine.value_select`, `Sift.Engine.value_reject`, `Sift.Engine.value_partition`,
  `Sift.Engine.value_matchRatio` — the selections as filters.
* `Sift.Engine.selections_congr_of_active` — all of them depend on the set of active rules alone.
-/

namespace Sift.Engine

variable {ι : Type} (e : Engine) (record : ι → Json)

/-! ## Values -/

/-- Without any rules nothing matches, so the shortcut for them keeps what the filter keeps. -/
lemma value_keep (exclude : Bool) (refs : List ι) (rules : List Rule) :
    (e.keep record exclude refs rules).value =
      refs.filter fun i => matchesAll rules (record i) != exclude := by
  cases rules with
  | nil =>
    cases exclude with
    | false => simp [keep]
    | true => exact (List.filter_eq_self.2 fun _ _ => rfl).symm
  | cons r rest => rfl

/-- The references that a selection keeps. -/
theorem value_select (refs : List ι) (rules : List Rule) :
    (e.select record refs rules).value = refs.filter fun i => matchesAll rules (record i) := by
  simp only [select, value_keep, Bool.bne_false]

/-- The references that a rejection keeps. -/
theorem value_reject (refs : List ι) (rules : List Rule) :
    (e.reject record refs rules).value = refs.filter fun i => !matchesAll rules (record i) := by
  simp only [reject, value_keep, Bool.bne_true]

/-- A partition is the selection and the rejection. -/
theorem value_partition (refs : List ι) (rules : List Rule) :
    (e.partition record refs rules).value =
      (refs.filter fun i => matchesAll rules (record i),
        refs.filter fun i => !matchesAll rules (record i)) := by
  cases rules with
  | nil =>
    have hnone : (refs.filter fun _ => false) = [] := List.filter_eq_nil_iff.2 fun _ _ => nofun
    have hall : (refs.filter fun _ => true) = refs := List.filter_eq_self.2 fun _ _ => rfl
    show ([], refs) = (refs.filter fun _ => false, refs.filter fun _ => true)
    rw [hnone, hall]
  | cons r rest =>
    -- one traversal with two results is two traversals
    exact List.partition_eq_filter_filter

/-- The share of matching references, and zero of none. -/
theorem value_matchRatio (refs : List ι) (rules : List Rule) :
    (e.matchRatio record refs rules).value =
      if refs = [] then .zero
      else (Binary64.ofNat (refs.filter fun i => matchesAll rules (record i)).length).div
        (Binary64.ofNat refs.length) := by
  cases refs with
  | nil => rfl
  | cons i rest => simp [matchRatio, value_select]

/-! ## The rules that count -/

/-- **Selections depend on the set of active rules alone.** For lists that have the same active
rules, in whatever order, however often, and among whatever inactive ones, every selection keeps the
same references under any settings, and single records fare alike. What is kept is what the trial of
all rules finds for each reference, also for the empty list, which is not tried; and the trial asks
for one active rule and for every active rule to match. -/
theorem selections_congr_of_active {rules others : List Rule}
    (h : ∀ r, r.isActive = true → (r ∈ rules ↔ r ∈ others)) :
    (∀ (ι : Type) (e e' : Engine) (record : ι → Json) (refs : List ι),
      (e.select record refs rules).value = (e'.select record refs others).value ∧
      (e.reject record refs rules).value = (e'.reject record refs others).value ∧
      (e.partition record refs rules).value = (e'.partition record refs others).value ∧
      (e.matchRatio record refs rules).value = (e'.matchRatio record refs others).value) ∧
    (∀ (e e' : Engine) (record : Json),
      (e.accepts record rules).value = (e'.accepts record others).value ∧
      (e.explain record rules).value.matched = (e'.explain record others).value.matched) ∧
    (∀ (ι : Type) (e : Engine) (record : ι → Json) (refs : List ι),
      (e.select record refs rules).value =
        refs.filter (fun i => verdict (record i) false (rules.map Rule.compile)) ∧
      (e.reject record refs rules).value =
        refs.filter (fun i => !verdict (record i) false (rules.map Rule.compile)) ∧
      (e.partition record refs rules).value =
        refs.partition fun i => verdict (record i) false (rules.map Rule.compile)) ∧
    ∀ record : Json, matchesAll rules record = true ↔
      (∃ r ∈ rules, r.isActive = true) ∧
        ∀ r ∈ rules, r.isActive = true → r.matches record = true := by
  have hmatches : matchesAll rules = matchesAll others :=
    funext fun record => matchesAll_congr h record
  refine ⟨fun ι e e' record refs => ?_, fun e e' record => ?_, fun ι e record refs => ?_,
    matchesAll_iff rules⟩
  · simp only [value_select, value_reject, value_partition, value_matchRatio, hmatches,
      and_self]
  · simp only [value_accepts, matched_explain, hmatches, and_self]
  · rw [value_select, value_reject, value_partition, List.partition_eq_filter_filter]
    exact ⟨rfl, rfl, rfl⟩

/-- A rule that is repeated behind a rule without an expression selects what it selects in front of
a rule without an operator. -/
theorem selections_congr_of_active_repeated :
    (∀ r : Rule, r.isActive = true →
      (r ∈ [⟨"a", "=", "x"⟩, ⟨"b", "", "y"⟩] ↔
        r ∈ [⟨"c", "=", ""⟩, ⟨"a", "=", "x"⟩, ⟨"a", "=", "x"⟩])) ∧
    (select {} id [.object [("a", .text "x")], .null] [⟨"a", "=", "x"⟩, ⟨"b", "", "y"⟩]).value =
      (select { settings := { warnOnInvalidRules := false } } id
        [.object [("a", .text "x")], .null]
        [⟨"c", "=", ""⟩, ⟨"a", "=", "x"⟩, ⟨"a", "=", "x"⟩]).value ∧
    matchesAll [⟨"a", "=", "x"⟩, ⟨"b", "", "y"⟩] (.object [("a", .text "x")]) = true := by
  have h : ∀ r : Rule, r.isActive = true →
      (r ∈ [⟨"a", "=", "x"⟩, ⟨"b", "", "y"⟩] ↔
        r ∈ [⟨"c", "=", ""⟩, ⟨"a", "=", "x"⟩, ⟨"a", "=", "x"⟩]) := by
    intro r hactive
    have hb : r ≠ ⟨"b", "", "y"⟩ := by rintro rfl; exact absurd hactive (by decide)
    have hc : r ≠ ⟨"c", "=", ""⟩ := by rintro rfl; exact absurd hactive (by decide)
    simp [hb, hc]
  exact ⟨h, ((selections_congr_of_active h).1 Json _ _ id _).1, by decide⟩

end Sift.Engine
