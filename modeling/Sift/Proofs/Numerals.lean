import Sift.Record.Numeral
import Sift.Proofs.Listing

set_option autoImplicit false
set_option relaxedAutoImplicit false

/-!
# Blanks and commas around numerals

A text is read as a number without the blanks at its ends, and its words do not see these blanks
either, so padding never changes the number that a text denotes or begins with. A comma is no part
of any literal: a text that lists several entries denotes no number at all.

## Main definitions

* `Sift.Decimal.IsLiteralChar` — the characters that literals are written with.

## Main results

* `Sift.Text.exists_eq_append_trimChars` — what is cut off the ends of a text is blank.
* `Sift.Text.words_trim` — padding does not change the words of a text.
* `Sift.Numeral.read?_trim`, `Sift.Numeral.first_trim` — padding does not change its number.
* `Sift.Decimal.isLiteralChar_of_ofChars?_eq_some` — the characters of a literal.
* `Sift.Numeral.read?_eq_none_of_mem` — a text with a comma denotes no number.
-/

namespace Sift

namespace Text

/-! ## Words -/

/-- **What is cut off the ends of a text** is blank. -/
theorem exists_eq_append_trimChars (s : List Char) :
    ∃ front back, s = front ++ trimChars s ++ back ∧
      (∀ c ∈ front, isBlank c = true) ∧ ∀ c ∈ back, isBlank c = true := by
  have hfront : s.takeWhile isBlank ++ s.dropWhile isBlank = s := List.takeWhile_append_dropWhile
  have hback : trimChars s ++ (s.dropWhile isBlank).rtakeWhile isBlank = s.dropWhile isBlank :=
    List.rdropWhile_append_rtakeWhile
  refine ⟨s.takeWhile isBlank, (s.dropWhile isBlank).rtakeWhile isBlank, ?_, ?_, ?_⟩
  · rw [List.append_assoc, hback, hfront]
  · exact fun c hc => List.mem_takeWhile_imp hc
  · exact fun c hc => List.mem_rtakeWhile_imp hc

@[simp] lemma wordChars_nil : wordChars [] = [] := by
  rw [wordChars, List.splitOnP_nil]
  rfl

/-- A blank ends a word. -/
lemma wordChars_append_cons {c : Char} (hc : isBlank c = true) (s t : List Char) :
    wordChars (s ++ c :: t) = wordChars s ++ wordChars t := by
  rw [wordChars, List.splitOnP_append_cons s t hc, List.filter_append, wordChars, wordChars]

/-- Blanks in front of a text belong to no word. -/
lemma wordChars_append_of_forall_left {front : List Char} (h : ∀ c ∈ front, isBlank c = true)
    (s : List Char) : wordChars (front ++ s) = wordChars s := by
  induction front with
  | nil => rfl
  | cons c rest ih =>
    obtain ⟨hc, hrest⟩ := List.forall_mem_cons.1 h
    have hcons := wordChars_append_cons hc [] (rest ++ s)
    rw [List.nil_append, wordChars_nil, List.nil_append] at hcons
    rw [List.cons_append, hcons, ih hrest]

/-- Blanks behind a text belong to no word. -/
lemma wordChars_append_of_forall_right {back : List Char} (h : ∀ c ∈ back, isBlank c = true)
    (s : List Char) : wordChars (s ++ back) = wordChars s := by
  cases back with
  | nil => rw [List.append_nil]
  | cons c rest =>
    obtain ⟨hc, hrest⟩ := List.forall_mem_cons.1 h
    have hnone : wordChars rest = [] := by
      rw [← List.append_nil rest, wordChars_append_of_forall_left hrest, wordChars_nil]
    rw [wordChars_append_cons hc, hnone, List.append_nil]

lemma wordChars_trimChars (s : List Char) : wordChars (trimChars s) = wordChars s := by
  obtain ⟨front, back, hs, hfront, hback⟩ := exists_eq_append_trimChars s
  calc wordChars (trimChars s)
      = wordChars (front ++ trimChars s) := (wordChars_append_of_forall_left hfront _).symm
    _ = wordChars (front ++ trimChars s ++ back) :=
        (wordChars_append_of_forall_right hback _).symm
    _ = wordChars s := by rw [← hs]

/-- **Padding does not change the words** of a text. -/
theorem words_trim (s : String) : words (trim s) = words s := by
  rw [words, toList_trim, wordChars_trimChars, words]

end Text

namespace Numeral

/-- A text denotes a number if it is a literal, blanks at its ends aside, whose nearest binary64 is
finite. -/
lemma read?_eq_some_iff {s : String} {x : Binary64} :
    read? s = some x ↔ ∃ d, Decimal.ofChars? (Text.trimChars s.toList) = some d ∧ d.nearest = x ∧
      x.isFinite = true := by
  rw [read?, Option.filter_eq_some_iff, Option.map_eq_some_iff]
  constructor
  · rintro ⟨⟨d, hd, hx⟩, hfinite⟩
    exact ⟨d, hd, hx, hfinite⟩
  · rintro ⟨d, hd, hx, hfinite⟩
    exact ⟨⟨d, hd, hx⟩, hfinite⟩

/-- Blanks around a numeral do not count. -/
lemma read?_trim (s : String) : read? (Text.trim s) = read? s := by
  rw [read?, read?, Text.toList_trim, Text.trimChars_trimChars]

/-- Blanks around a text do not count when its first number is looked for. -/
lemma first_trim (s : String) : first (Text.trim s) = first s := by
  rw [first, first, read?_trim, Text.words_trim]

end Numeral

/-! ## The characters of literals -/

namespace Text

/-- A character of a signed text is its sign or follows it. -/
lemma mem_signed {s : List Char} {c : Char} (h : c ∈ s) :
    c = '-' ∨ c = '+' ∨ c ∈ (signed s).2 := by
  unfold signed
  split
  · exact (List.mem_cons.1 h).imp id Or.inr
  · exact Or.inr (List.mem_cons.1 h)
  · exact Or.inr (Or.inr h)

/-- One or more digits are read as the number that they denote. -/
lemma nat?_eq_some_iff_natOfDigits {s : List Char} {n : Nat} :
    nat? s = some n ↔ s ≠ [] ∧ (∀ c ∈ s, c.isDigit = true) ∧ natOfDigits s = n := by
  simp [nat?, and_assoc]

end Text

namespace Decimal

/-- The characters that literals are written with. -/
def IsLiteralChar (c : Char) : Prop :=
  c.isDigit = true ∨ c ∈ ['-', '+', '.', 'e', 'E']

instance : DecidablePred IsLiteralChar :=
  fun c => inferInstanceAs (Decidable (c.isDigit = true ∨ c ∈ ['-', '+', '.', 'e', 'E']))

/-- Small letters in place of capital letters do not make other characters of a literal. -/
lemma IsLiteralChar.toLower {c : Char} (h : IsLiteralChar c) : IsLiteralChar c.toLower := by
  rcases h with hdigit | hmark
  · have hself : c.toLower = c := by
      have hrange : 48 ≤ c.toNat ∧ c.toNat ≤ 57 := Char.isDigit_iff_toNat.1 hdigit
      refine dif_neg fun hupper => ?_
      have hcapital : 65 ≤ c.toNat := hupper.1
      omega
    exact Or.inl (hself.symm ▸ hdigit)
  · simp only [List.mem_cons, List.not_mem_nil, or_false] at hmark
    rcases hmark with rfl | rfl | rfl | rfl | rfl <;> decide

/-- A character of a literal belongs to its mantissa or follows it. -/
lemma mem_mantissa {s : List Char} {c : Char} (h : c ∈ s) :
    IsLiteralChar c ∨ c ∈ (mantissa s).2.2 := by
  have hdigit : ∀ l : List Char, c ∈ l → c.isDigit = true ∨ c ∈ l.dropWhile Char.isDigit := by
    intro l hl
    rw [← List.takeWhile_append_dropWhile (p := Char.isDigit) (l := l), List.mem_append] at hl
    exact hl.imp List.mem_takeWhile_imp id
  rcases hdigit s h with hwhole | hrest
  · exact Or.inl (Or.inl hwhole)
  · unfold mantissa
    split
    · rename_i rest hpoint
      rw [hpoint, List.mem_cons] at hrest
      rcases hrest with rfl | hfraction
      · exact Or.inl (Or.inr (by decide))
      · exact (hdigit rest hfraction).imp Or.inl id
    · exact Or.inr hrest

lemma isLiteralChar_of_power?_eq_some {s : List Char} {power : Int} (h : power? s = some power) :
    ∀ c ∈ s, IsLiteralChar c := by
  cases s with
  | nil => exact fun c hc => nomatch hc
  | cons e rest =>
    rw [power?, Option.ite_none_right_eq_some, Option.map_eq_some_iff] at h
    obtain ⟨he, n, hn, -⟩ := h
    obtain ⟨magnitude, hmagnitude, -⟩ := Option.bind_eq_some_iff.1 hn
    obtain ⟨-, hdigits, -⟩ := Text.nat?_eq_some_iff_natOfDigits.1 hmagnitude
    intro c hc
    rcases List.mem_cons.1 hc with rfl | hrest
    · rcases he with rfl | rfl <;> exact Or.inr (by decide)
    · rcases Text.mem_signed hrest with rfl | rfl | hdigit
      · exact Or.inr (by decide)
      · exact Or.inr (by decide)
      · exact Or.inl (hdigits c hdigit)

/-- **The characters of a literal** are digits, signs, the point and the mark of a power. -/
theorem isLiteralChar_of_ofChars?_eq_some {s : List Char} {d : Decimal}
    (h : ofChars? s = some d) : ∀ c ∈ s, IsLiteralChar c := by
  simp only [ofChars?, Option.ite_none_left_eq_some, Option.map_eq_some_iff] at h
  obtain ⟨-, power, hpower, -⟩ := h
  intro c hc
  rcases Text.mem_signed hc with rfl | rfl | hunsigned
  · exact Or.inr (by decide)
  · exact Or.inr (by decide)
  · exact (mem_mantissa hunsigned).elim id (isLiteralChar_of_power?_eq_some hpower c)

end Decimal

namespace Numeral

/-- A text with a character that is in no literal denotes no number. -/
lemma read?_eq_none_of_not_isLiteralChar {s : String} {c : Char}
    (hc : c ∈ Text.trimChars s.toList) (h : ¬Decimal.IsLiteralChar c) : read? s = none := by
  rw [Option.eq_none_iff_forall_ne_some]
  intro x hx
  obtain ⟨d, hd, -, -⟩ := read?_eq_some_iff.1 hx
  exact h (Decimal.isLiteralChar_of_ofChars?_eq_some hd c hc)

/-- **A text with a comma denotes no number**: the comma is not blank, and it is no part of a
literal. -/
theorem read?_eq_none_of_mem {s : String} (h : ',' ∈ s.toList) : read? s = none := by
  have hmem : ',' ∈ Text.trimChars s.toList := by
    obtain ⟨front, back, hs, hfront, hback⟩ := Text.exists_eq_append_trimChars s.toList
    rw [hs, List.mem_append, List.mem_append] at h
    rcases h with (hcomma | hcomma) | hcomma
    · exact absurd (hfront ',' hcomma) (by decide)
    · exact hcomma
    · exact absurd (hback ',' hcomma) (by decide)
  exact read?_eq_none_of_not_isLiteralChar hmem (by decide)

end Numeral

end Sift
