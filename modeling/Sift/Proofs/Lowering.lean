import Sift.Proofs.Containment

set_option autoImplicit false
set_option relaxedAutoImplicit false

/-!
# Lower case piece by piece

The lower-case form of a character depends on the characters around it only up to the next one that
ends a word, such as a comma. So a text that is joined with such characters is lowered piece by
piece. A comma comes from a comma only, so lowering moves no boundary either: what has no comma is
found in joined texts exactly where it is found in one of the pieces.

## Main definitions

* `Sift.Text.IsNeutral` — a character that ends words and has no case.
* `Sift.Text.CaseRun.HasImagesFrom` — the images of a run are characters from a code point on.

## Main results

* `Sift.Text.lowerAfter_append_cons` — lowering on either side of a neutral character.
* `Sift.Text.lowerAfter_intercalate` — joined texts are lowered piece by piece.
* `Sift.Text.mem_of_mem_lowerAfter` — lowering brings in no character below the small letters.
* `Sift.Text.isInfix_intercalate_iff` — what has no separator is a part of one of the pieces.
-/

namespace Sift.Text

/-! ## Neutral characters -/

/-- A character that ends words and has no case: it is neither cased nor case-ignorable, and lowering
leaves it as it is. -/
structure IsNeutral (c : Char) : Prop where
  /-- The character ends a word. -/
  isCaseIgnorable_eq : isCaseIgnorable c = false
  /-- The character is no letter with a case. -/
  isCased_eq : isCased c = false
  /-- The character is its own lower-case form. -/
  lowerChar_eq : lowerChar c = [c]

lemma isNeutral_comma : IsNeutral ',' :=
  ⟨by decide +kernel, by decide +kernel, by decide +kernel⟩

section Neutral

variable {c : Char} (h : IsNeutral c)

include h in
/-- What follows a neutral character does not count for what stands before it. -/
lemma IsNeutral.startsCased_append_cons (s t : List Char) :
    startsCased (s ++ c :: t) = startsCased s := by
  rw [startsCased_append]
  by_cases hall : s.all isCaseIgnorable = true
  · rw [if_pos hall, startsCased_of_all hall, startsCased_cons, h.isCaseIgnorable_eq, h.isCased_eq,
      if_neg Bool.false_ne_true]
  · rw [if_neg hall]

include h in
lemma IsNeutral.ne_sigma : c ≠ 'Σ' := by
  rintro rfl
  have hcased : isCased 'Σ' = true := by decide +kernel
  rw [h.isCased_eq] at hcased
  exact Bool.noConfusion hcased

include h in
/-- Lowering what follows a neutral character does not look beyond it. What lies before has the
nearest character first. -/
lemma lowerAfter_append_cons_before (before far s : List Char) :
    lowerAfter (before ++ c :: far) s = lowerAfter before s := by
  induction s generalizing before with
  | nil => rfl
  | cons a rest ih =>
    have hrest := ih (a :: before)
    rw [List.cons_append] at hrest
    rw [lowerAfter, lowerAfter, hrest, lowerSigma, lowerSigma, h.startsCased_append_cons]

include h in
/-- **A neutral character divides lowering**: either side is lowered by itself. -/
theorem lowerAfter_append_cons (before s t : List Char) :
    lowerAfter before (s ++ c :: t) = lowerAfter before s ++ c :: lowerAfter [] t := by
  induction s generalizing before with
  | nil =>
    have hafter : lowerAfter (c :: before) t = lowerAfter [] t :=
      lowerAfter_append_cons_before h [] before t
    have hstep : lowerAfter before (c :: t) = lowerChar c ++ lowerAfter (c :: before) t := by
      rw [lowerAfter, if_neg h.ne_sigma]
    rw [List.nil_append, hstep, h.lowerChar_eq, hafter]
    rfl
  | cons a rest ih =>
    rw [List.cons_append, lowerAfter, lowerAfter, ih, lowerSigma, lowerSigma,
      h.startsCased_append_cons, List.append_assoc]

include h in
/-- **Joined texts are lowered piece by piece.** -/
theorem lowerAfter_intercalate (pieces : List (List Char)) :
    lowerAfter [] ([c].intercalate pieces) = [c].intercalate (pieces.map (lowerAfter [])) := by
  induction pieces with
  | nil => rfl
  | cons p rest ih =>
    by_cases hne : rest = []
    · rw [hne]
      simp
    · have hmap : rest.map (lowerAfter []) ≠ [] := by simpa using hne
      rw [List.map_cons, List.intercalate_cons_of_ne_nil hne, List.intercalate_cons_of_ne_nil hmap,
        ← ih, List.append_assoc, List.append_assoc]
      exact lowerAfter_append_cons h [] p _

end Neutral

/-! ## What lowering brings in -/

/-- **The image of a code point** in a run stands as far behind the first image as the code point
behind the first one of the run. -/
lemma CaseRun.exists_of_image? {r : CaseRun} {m n : Nat} (h : r.image? m = some n) :
    ∃ k, m = r.first + k ∧ n = r.image + k ∧ k < r.count * r.stride ∧ k % r.stride = 0 := by
  rw [image?, Option.ite_none_right_eq_some, Option.some.injEq] at h
  obtain ⟨hin, rfl⟩ := h
  simp only [Bool.and_eq_true, decide_eq_true_eq, beq_iff_eq] at hin
  exact ⟨m - r.first, by omega, rfl, by omega, hin.2⟩

/-- The images of a run are code points of characters from `least` on, none of them a surrogate. -/
def CaseRun.HasImagesFrom (least : Nat) (r : CaseRun) : Prop :=
  least ≤ r.image ∧ (r.image + r.count * r.stride ≤ 0xD800 ∨
    0xE000 ≤ r.image ∧ r.image + r.count * r.stride ≤ 0x110000)

instance (least : Nat) (r : CaseRun) : Decidable (r.HasImagesFrom least) :=
  inferInstanceAs (Decidable (_ ∧ _))

/-- An image under such runs is the code point of a character. -/
lemma toNat_ofNat_of_imageIn {runs : List CaseRun} {least m n : Nat}
    (hruns : ∀ r ∈ runs, r.HasImagesFrom least) (h : imageIn runs m = some n) :
    least ≤ n ∧ (Char.ofNat n).toNat = n := by
  obtain ⟨r, hr, himage⟩ := List.exists_of_findSome?_eq_some h
  obtain ⟨k, -, rfl, hk, -⟩ := CaseRun.exists_of_image? himage
  obtain ⟨hleast, hvalid⟩ := hruns r hr
  have hchar : (r.image + k).isValidChar := by
    unfold Nat.isValidChar
    omega
  refine ⟨by omega, ?_⟩
  rw [Char.ofNat, dif_pos hchar]
  rfl

/-- The images of capital letters are small letters or lie beyond them. -/
lemma hasImagesFrom_lowerRuns : ∀ r ∈ lowerRuns, r.HasImagesFrom 0x61 := by
  decide +kernel

/-- A character below the small letters is the lower-case form of itself alone. -/
lemma eq_of_mem_lowerChar {a c : Char} (hc : c.toNat < 0x61) (h : c ∈ lowerChar a) : c = a := by
  rw [lowerChar] at h
  split at h
  · rcases List.mem_pair.1 h with rfl | rfl <;> exact absurd hc (by decide)
  · split at h
    · next n himage =>
      obtain ⟨hle, hcode⟩ := toNat_ofNat_of_imageIn hasImagesFrom_lowerRuns himage
      rw [← List.mem_singleton.1 h] at hcode
      omega
    · exact List.mem_singleton.1 h

/-- **Lowering brings in no character below the small letters.** -/
theorem mem_of_mem_lowerAfter {c : Char} (hc : c.toNat < 0x61) {before s : List Char}
    (h : c ∈ lowerAfter before s) : c ∈ s := by
  induction s generalizing before with
  | nil => exact h
  | cons a rest ih =>
    rw [lowerAfter, List.mem_append] at h
    rcases h with himage | hrest
    · split at himage
      · rw [List.mem_singleton, lowerSigma] at himage
        split at himage <;> subst himage <;> exact absurd hc (by decide)
      · exact eq_of_mem_lowerChar hc himage ▸ List.mem_cons_self
    · exact List.mem_cons_of_mem a (ih hrest)

/-! ## Searching joined texts -/

section Search

variable {separator : Char} {needle : List Char} (h : separator ∉ needle)

include h in
lemma eq_nil_of_isPrefix_cons {t : List Char} (hbegins : needle <+: separator :: t) :
    needle = [] := by
  rcases List.prefix_cons_iff.1 hbegins with hnil | ⟨l, rfl, -⟩
  · exact hnil
  · exact absurd List.mem_cons_self h

include h in
/-- What has no separator lies on one side of it. -/
lemma isInfix_append_cons_iff {s t : List Char} :
    needle <:+: s ++ separator :: t ↔ needle <:+: s ∨ needle <:+: t := by
  constructor
  · intro hinfix
    rcases List.infix_append_iff.1 hinfix with hleft | hright | ⟨l₁, l₂, rfl, hl₁, hl₂⟩
    · exact Or.inl hleft
    · rcases List.infix_cons_iff.1 hright with hbegins | hright
      · exact Or.inl (eq_nil_of_isPrefix_cons h hbegins ▸ List.nil_infix)
      · exact Or.inr hright
    · -- the end of `s` may have it, but nothing of it reaches beyond
      have hl₂nil := eq_nil_of_isPrefix_cons (fun hmem => h (List.mem_append_right l₁ hmem)) hl₂
      rw [hl₂nil, List.append_nil]
      exact Or.inl hl₁.isInfix
  · rintro (hleft | hright)
    · exact List.infix_append_of_infix_left hleft
    · exact List.infix_append_of_infix_right (List.infix_cons hright)

include h in
/-- **What has no separator is a part of joined texts** if it is a part of one of them. -/
theorem isInfix_intercalate_iff {pieces : List (List Char)} (hne : pieces ≠ []) :
    needle <:+: [separator].intercalate pieces ↔ ∃ p ∈ pieces, needle <:+: p := by
  induction pieces with
  | nil => exact absurd rfl hne
  | cons p rest ih =>
    by_cases hrest : rest = []
    · rw [hrest]
      simp
    · rw [List.intercalate_cons_of_ne_nil hrest, List.append_assoc, List.singleton_append,
        isInfix_append_cons_iff h, ih hrest, List.exists_mem_cons_iff]

end Search

end Sift.Text
