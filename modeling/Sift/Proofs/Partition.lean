import Mathlib.Data.List.Basic
import Sift.Proofs.RoundingOrder
import Sift.Proofs.Selection

set_option autoImplicit false
set_option relaxedAutoImplicit false

/-!
# Selections divide the references

What a selection keeps and what the rejection by the same rules keeps make up the references that
they are given: each position of the list goes to one of the two, and merged by position they are
the list again. So both can be taken from parts of the list, and the share of the matching
references is zero or one only where one of the two is empty.

## Main definitions

* `Sift.IsShuffle` — two lists make up a third by position.

## Main results

* `Sift.merge_filter_zipIdx` — a list that is divided by a test is merged again by position.
* `Sift.isShuffle_filter` — so the entries that pass and those that do not make up the list.
* `Sift.Engine.matchRatio_bounds`, `Sift.Engine.matchRatio_eq_zero_iff`,
  `Sift.Engine.matchRatio_eq_one_iff` — the share of the matching references.
* `Sift.Engine.selections_divide_references` — all this together, under any settings.
-/

namespace Sift

/-! ## Division by a test -/

section Division

variable {ι : Type} (p : ι → Bool)

/-- All occurrences of an entry pass a test, or none does. -/
lemma count_filter_eq_ite [DecidableEq ι] (l : List ι) (i : ι) :
    (l.filter p).count i = if p i then l.count i else 0 := by
  split
  · next hpasses => exact List.count_filter hpasses
  · next hfails =>
    rw [List.count_eq_zero, List.mem_filter]
    exact fun hmem => hfails hmem.2

/-- The entries with their positions stand in the order of these. -/
lemma pairwise_zipIdx (l : List ι) : l.zipIdx.Pairwise fun x y => x.2 < y.2 := by
  have hpositions : (l.zipIdx.map Prod.snd).Pairwise (· < ·) := by
    rw [List.zipIdx_map_snd]
    exact List.pairwise_lt_range'
  exact List.pairwise_map.1 hpositions

/-- An entry with its position is determined by the position. -/
lemma eq_of_mem_zipIdx {l : List ι} {x y : ι × Nat} (hx : x ∈ l.zipIdx) (hy : y ∈ l.zipIdx)
    (h : x.2 = y.2) : x = y := by
  rw [List.mem_zipIdx_iff_getElem?] at hx hy
  rw [h, hy] at hx
  exact Prod.ext (Option.some.inj hx).symm h

/-- **A list that is divided by a test is merged again by position.**

**Proof sketch.** The two parts stand in the order of their positions, so merging them gives a
permutation of the list in this order. There is only one, since no position occurs twice. -/
theorem merge_filter_zipIdx (q : ι × Nat → Bool) (l : List ι) :
    (l.zipIdx.filter q).merge (l.zipIdx.filter fun x => !q x) (fun x y => decide (x.2 ≤ y.2)) =
      l.zipIdx := by
  have hsorted : l.zipIdx.Pairwise fun x y => decide (x.2 ≤ y.2) = true :=
    (pairwise_zipIdx l).imp fun hlt => decide_eq_true (Nat.le_of_lt hlt)
  have hperm : ((l.zipIdx.filter q).merge (l.zipIdx.filter fun x => !q x)
      (fun x y => decide (x.2 ≤ y.2))).Perm l.zipIdx :=
    (List.merge_perm_append _).trans (List.filter_append_perm q l.zipIdx)
  refine List.Perm.eq_of_pairwise ?_ (List.pairwise_merge ?_ ?_ _ _ ?_ ?_) hsorted hperm
  · intro x y hx hy hxy hyx
    exact eq_of_mem_zipIdx (hperm.mem_iff.1 hx) hy
      (Nat.le_antisymm (of_decide_eq_true hxy) (of_decide_eq_true hyx))
  · intro x y z hxy hyz
    exact decide_eq_true (Nat.le_trans (of_decide_eq_true hxy) (of_decide_eq_true hyz))
  · intro x y
    simpa using Nat.le_total x.2 y.2
  · exact hsorted.sublist List.filter_sublist
  · exact hsorted.sublist List.filter_sublist

/-- Dividing the entries with their positions divides the entries. -/
lemma map_fst_filter_zipIdx (l : List ι) :
    (l.zipIdx.filter fun x => p x.1).map Prod.fst = l.filter p := by
  have hmap := List.filter_map (f := Prod.fst) (p := p) (l := l.zipIdx)
  rw [List.zipIdx_map_fst] at hmap
  exact hmap.symm

/-- A list is made up of two others: their entries have positions in it, each position belongs to
one of the two, and merged by position they are the list. -/
def IsShuffle (l left right : List ι) : Prop :=
  ∃ left' right' : List (ι × Nat),
    left'.map Prod.fst = left ∧ right'.map Prod.fst = right ∧
      (∀ x ∈ l.zipIdx, Xor (x ∈ left') (x ∈ right')) ∧
      left'.merge right' (fun x y => decide (x.2 ≤ y.2)) = l.zipIdx

/-- **A list is made up of the entries that pass a test and those that do not.** -/
theorem isShuffle_filter (l : List ι) : IsShuffle l (l.filter p) (l.filter fun i => !p i) := by
  refine ⟨l.zipIdx.filter fun x => p x.1, l.zipIdx.filter fun x => !p x.1,
    map_fst_filter_zipIdx p l, map_fst_filter_zipIdx (fun i => !p i) l, fun x hx => ?_,
    merge_filter_zipIdx (fun x => p x.1) l⟩
  cases hpasses : p x.1 <;> simp [Xor, List.mem_filter, hx, hpasses]

end Division

namespace Engine

variable {ι : Type} (record : ι → Json) (rules : List Rule)

/-! ## The share of the matching references -/

section Share

variable (e e' : Engine) {refs : List ι}

/-- The share of the matching references as a quotient, where there are any references. -/
lemma matchRatio_eq_div (hrefs : refs ≠ []) :
    (e.matchRatio record refs rules).value =
      (Binary64.ofNat (e'.select record refs rules).value.length).div
        (Binary64.ofNat refs.length) := by
  rw [value_matchRatio, if_neg hrefs, value_select]

lemma length_select_le (refs : List ι) :
    (e.select record refs rules).value.length ≤ refs.length := by
  rw [value_select]
  exact List.length_filter_le _ _

/-- A rejection keeps nothing iff the selection keeps as many references as there are. -/
lemma reject_eq_nil_iff (refs : List ι) :
    (e.reject record refs rules).value = [] ↔
      (e'.select record refs rules).value.length = refs.length := by
  simp [value_reject, value_select, List.filter_eq_nil_iff, List.length_filter_eq_length_iff]

/-- The share of the matching references lies between zero and one. -/
lemma matchRatio_bounds (hrefs : refs ≠ []) {k : Nat} (hlength : refs.length ≤ 2 ^ k)
    (hk : k < 1024) :
    Binary64.zero.le (e.matchRatio record refs rules).value = true ∧
      (e.matchRatio record refs rules).value.le Binary64.one = true := by
  rw [e.matchRatio_eq_div record rules e hrefs]
  exact Binary64.share_bounds (e.length_select_le record rules refs)
    (List.length_pos_of_ne_nil hrefs) hlength hk

/-- The share of the matching references is zero iff nothing is selected. -/
lemma matchRatio_eq_zero_iff (hrefs : refs ≠ []) (hlength : refs.length ≤ 2 ^ (53 : Nat)) :
    (e.matchRatio record refs rules).value.eq Binary64.zero = true ↔
      (e'.select record refs rules).value = [] := by
  rw [e.matchRatio_eq_div record rules e' hrefs, Binary64.share_eq_zero_iff
    (e'.length_select_le record rules refs) (List.length_pos_of_ne_nil hrefs) hlength,
    List.length_eq_zero_iff]

/-- The share of the matching references is one iff nothing is rejected. -/
lemma matchRatio_eq_one_iff (hrefs : refs ≠ []) (hlength : refs.length ≤ 2 ^ (53 : Nat)) :
    (e.matchRatio record refs rules).value.eq Binary64.one = true ↔
      (e'.reject record refs rules).value = [] := by
  rw [e.matchRatio_eq_div record rules e hrefs, Binary64.share_eq_one_iff
    (e.length_select_le record rules refs) (List.length_pos_of_ne_nil hrefs) hlength,
    e'.reject_eq_nil_iff record rules e]

end Share

/-- **A selection and the rejection by the same rules divide the references**, under any settings. A
partition is the two of them. Both keep the order of the references and all occurrences of what they
keep; each position of the list goes to one of them, and merged by position they are the list; and
both can be taken from the parts of a list. The share of the matching references is zero where there
are none, and otherwise the quotient of two rounded lengths, which lies between zero and one as long
as the lengths are in the range of the format. Up to a length of `2 ^ 53` it is zero only if nothing
is selected and one only if nothing is rejected. -/
theorem selections_divide_references [DecidableEq ι] (e e₁ e₂ : Engine) (refs : List ι) :
    (e.partition record refs rules).value =
      ((e₁.select record refs rules).value, (e₂.reject record refs rules).value) ∧
    ((e₁.select record refs rules).value.Sublist refs ∧
      (e₂.reject record refs rules).value.Sublist refs ∧
      ∀ i, (e₁.select record refs rules).value.count i =
          (if matchesAll rules (record i) then refs.count i else 0) ∧
        (e₂.reject record refs rules).value.count i =
          (if matchesAll rules (record i) then 0 else refs.count i)) ∧
    IsShuffle refs (e₁.select record refs rules).value (e₂.reject record refs rules).value ∧
    (∀ others : List ι,
      (e.select record (refs ++ others) rules).value =
        (e₁.select record refs rules).value ++ (e₂.select record others rules).value ∧
      (e.reject record (refs ++ others) rules).value =
        (e₁.reject record refs rules).value ++ (e₂.reject record others rules).value) ∧
    (e.matchRatio record [] rules).value = .zero ∧
    (refs ≠ [] →
      (e.matchRatio record refs rules).value =
        (Binary64.ofNat (e₁.select record refs rules).value.length).div
          (Binary64.ofNat refs.length) ∧
      (∀ k : Nat, k < 1024 → refs.length ≤ 2 ^ k →
        Binary64.zero.le (e.matchRatio record refs rules).value = true ∧
          (e.matchRatio record refs rules).value.le Binary64.one = true) ∧
      (refs.length ≤ 2 ^ (53 : Nat) →
        ((e.matchRatio record refs rules).value.eq Binary64.zero = true ↔
          (e₁.select record refs rules).value = []) ∧
        ((e.matchRatio record refs rules).value.eq Binary64.one = true ↔
          (e₂.reject record refs rules).value = []))) := by
  refine ⟨?_, ⟨?_, ?_, fun i => ?_⟩, ?_, fun others => ?_, rfl, fun hrefs => ⟨?_, ?_, ?_⟩⟩
  · rw [value_partition, value_select, value_reject]
  · rw [value_select]
    exact List.filter_sublist
  · rw [value_reject]
    exact List.filter_sublist
  · rw [value_select, value_reject, count_filter_eq_ite, count_filter_eq_ite]
    cases matchesAll rules (record i) <;> exact ⟨rfl, rfl⟩
  · rw [value_select, value_reject]
    exact isShuffle_filter _ refs
  · simp only [value_select, value_reject, List.filter_append, and_self]
  · exact e.matchRatio_eq_div record rules e₁ hrefs
  · intro k hk hlength
    exact e.matchRatio_bounds record rules hrefs hlength hk
  · intro hlength
    exact ⟨e.matchRatio_eq_zero_iff record rules e₁ hrefs hlength,
      e.matchRatio_eq_one_iff record rules e₂ hrefs hlength⟩

/-- Of three references one is not selected, so the share is neither zero nor one. -/
theorem selections_divide_references_two_of_three :
    [true, false, true] ≠ [] ∧ [true, false, true].length ≤ 2 ^ (53 : Nat) ∧
    ([true, false, true].length ≤ 2 ^ (2 : Nat) ∧ 2 < 1024) ∧
    let record : Bool → Json := fun b => .object [("a", .text (if b then "x" else "y"))]
    let ratio := (matchRatio {} record [true, false, true] [⟨"a", "=", "x"⟩]).value
    Binary64.zero.le ratio = true ∧ ratio.le Binary64.one = true ∧
      ratio.eq Binary64.zero = false ∧ ratio.eq Binary64.one = false := by
  let record : Bool → Json := fun b => .object [("a", .text (if b then "x" else "y"))]
  have hrefs : [true, false, true] ≠ [] := nofun
  have hlength : [true, false, true].length ≤ 2 ^ (53 : Nat) := by decide
  have hselected : (select {} record [true, false, true] [⟨"a", "=", "x"⟩]).value ≠ [] := by decide
  have hrejected : (reject {} record [true, false, true] [⟨"a", "=", "x"⟩]).value ≠ [] := by decide
  obtain ⟨-, -, -, -, -, hratio⟩ :=
    selections_divide_references record [⟨"a", "=", "x"⟩] {} {} {} [true, false, true]
  obtain ⟨-, hbounds, hends⟩ := hratio hrefs
  obtain ⟨hzero, hone⟩ := hends hlength
  have hwithin := hbounds 2 (by decide) (by decide)
  exact ⟨hrefs, hlength, by decide, hwithin.1, hwithin.2,
    Bool.eq_false_iff.2 fun h => hselected (hzero.1 h),
    Bool.eq_false_iff.2 fun h => hrejected (hone.1 h)⟩

end Engine

end Sift
