import Sift.Decimal.Shortest
import Sift.Proofs.Numerals

set_option autoImplicit false
set_option relaxedAutoImplicit false

/-!
# Positional decimals

A decimal is written positionally: with zeros in place of a positive power of ten, with a point in
place of a negative one. What is written that way is a literal, and reading it gives the decimal
back, except that a positive power of ten has become part of the coefficient. The nearest binary64 is
the same, since it only depends on the product.

## Main definitions

* `Sift.Decimal.spread` — a decimal whose positive power of ten is part of the coefficient.

## Main results

* `Sift.Text.digitsOfNat_append_replicate` — zeros behind the digits of a number.
* `Sift.Decimal.ofChars?_chars` — what is written positionally is read back.
* `Sift.Decimal.nearest_spread` — with the same nearest binary64.
* `Sift.Numeral.read?_chars` — so the text of a decimal denotes the nearest binary64.
-/

namespace Sift

namespace Text

/-! ## Digits -/

lemma isDigit_of_mem_digitsOfNat {n : Nat} {c : Char} (h : c ∈ digitsOfNat n) : c.isDigit = true :=
  Nat.isDigit_of_mem_toDigits (by decide) (by decide) h

lemma digitsOfNat_ne_nil (n : Nat) : digitsOfNat n ≠ [] :=
  Nat.toDigits_ne_nil

@[simp] lemma natOfDigits_digitsOfNat (n : Nat) : natOfDigits (digitsOfNat n) = n :=
  Nat.ofDigitChars_ten_toDigits

/-- Zeros in front of digits do not count. -/
lemma natOfDigits_replicate_append (k : Nat) (digits : List Char) :
    natOfDigits (List.replicate k '0' ++ digits) = natOfDigits digits := by
  rw [natOfDigits, Nat.ofDigitChars_append, Nat.ofDigitChars_replicate_zero, Nat.mul_zero,
    natOfDigits]

/-- **Zeros behind the digits of a number** multiply it by a power of ten. -/
theorem digitsOfNat_append_replicate {n : Nat} (hn : 0 < n) (k : Nat) :
    digitsOfNat n ++ List.replicate k '0' = digitsOfNat (n * 10 ^ k) := by
  induction k with
  | zero => simp
  | succ k ih =>
    have hpos : 0 < n * 10 ^ k := Nat.mul_pos hn (Nat.pow_pos (by decide))
    have hzero : Nat.toDigits 10 (n * 10 ^ k) ++ Nat.toDigits 10 0 =
        Nat.toDigits 10 (10 * (n * 10 ^ k) + 0) :=
      Nat.toDigits_append_toDigits (by decide) hpos (by decide)
    have hpow : 10 * (n * 10 ^ k) + 0 = n * 10 ^ (k + 1) := by
      rw [Nat.add_zero, Nat.pow_succ]
      ac_rfl
    rw [List.replicate_succ', ← List.append_assoc, ih, digitsOfNat, digitsOfNat, ← hpow, ← hzero,
      Nat.toDigits_zero]

/-- The digits of a number behind zeros denote that number, wherever the two meet. -/
lemma natOfDigits_digitsOfNat_append_replicate (n k : Nat) :
    natOfDigits (digitsOfNat n ++ List.replicate k '0') = n * 10 ^ k := by
  have hdigits : Nat.ofDigitChars 10 (digitsOfNat n) 0 = n := natOfDigits_digitsOfNat n
  rw [natOfDigits, Nat.ofDigitChars_append, hdigits, Nat.ofDigitChars_replicate_zero, Nat.mul_comm]

/-! ## Blanks -/

/-- Where no character is blank, there is nothing to cut off. -/
lemma trimChars_of_forall {s : List Char} (h : ∀ c ∈ s, isBlank c = false) : trimChars s = s := by
  have hdrop : ∀ l : List Char, (∀ c ∈ l, isBlank c = false) → l.dropWhile isBlank = l := by
    intro l hl
    rw [List.dropWhile_eq_self_iff]
    intro hpos
    rw [hl _ (List.getElem_mem hpos)]
    exact Bool.false_ne_true
  rw [trimChars, hdrop s h, hdrop _ fun c hc => h c (List.mem_reverse.1 hc), List.reverse_reverse]

end Text

open Sift.Text

namespace Decimal

/-! ## Reading -/

section Literal

variable {whole : List Char} (hwhole : ∀ c ∈ whole, c.isDigit = true)

include hwhole

/-- In front of digits the only sign is the one that is put there. -/
lemma signed_append (hne : whole ≠ []) (negative : Bool) (tail : List Char) :
    signed (if negative then '-' :: (whole ++ tail) else whole ++ tail) =
      (negative, whole ++ tail) := by
  cases negative with
  | true => rfl
  | false =>
    obtain ⟨c, rest, rfl⟩ := List.exists_cons_of_ne_nil hne
    have hc : c.isDigit = true := hwhole c List.mem_cons_self
    rw [if_neg Bool.false_ne_true, List.cons_append]
    unfold signed
    split
    · next h =>
      obtain rfl := (List.cons.inj h).1
      exact absurd hc (by decide)
    · next h =>
      obtain rfl := (List.cons.inj h).1
      exact absurd hc (by decide)
    · rfl

/-- Digits end where something else follows them. -/
lemma takeWhile_isDigit_append {rest : List Char} (hrest : ∀ c ∈ rest.head?, c.isDigit = false) :
    (whole ++ rest).takeWhile Char.isDigit = whole ∧
      (whole ++ rest).dropWhile Char.isDigit = rest := by
  rw [List.takeWhile_append_of_pos hwhole, List.dropWhile_append_of_pos hwhole]
  cases rest with
  | nil => simp
  | cons c rest =>
    have hc : c.isDigit = false := hrest c rfl
    simp [hc]

/-- Digits that no point follows are a mantissa. -/
lemma mantissa_append_of_ne {rest : List Char}
    (hrest : ∀ c ∈ rest.head?, c.isDigit = false ∧ c ≠ '.') :
    mantissa (whole ++ rest) = (whole, [], rest) := by
  obtain ⟨htake, hdrop⟩ := takeWhile_isDigit_append hwhole fun c hc => (hrest c hc).1
  simp only [mantissa, htake, hdrop]
  split
  · exact absurd rfl (hrest '.' rfl).2
  · rfl

/-- Digits, a point and digits are a mantissa. -/
lemma mantissa_append {fraction rest : List Char}
    (hfraction : ∀ c ∈ fraction, c.isDigit = true)
    (hrest : ∀ c ∈ rest.head?, c.isDigit = false) :
    mantissa (whole ++ '.' :: (fraction ++ rest)) = (whole, fraction, rest) := by
  have hpoint : ∀ c ∈ ('.' :: (fraction ++ rest)).head?, c.isDigit = false := by
    simp [Char.isDigit]
  obtain ⟨htake, hdrop⟩ := takeWhile_isDigit_append hwhole hpoint
  obtain ⟨htake', hdrop'⟩ := takeWhile_isDigit_append hfraction hrest
  simp only [mantissa, htake, hdrop, htake', hdrop']

/-- A literal without a written power of ten denotes its digits, with the places after the point as
a negative power. -/
lemma ofChars?_of_mantissa_eq (hne : whole ≠ []) {tail fraction : List Char}
    (hmantissa : mantissa (whole ++ tail) = (whole, fraction, [])) (negative : Bool) :
    ofChars? (if negative then '-' :: (whole ++ tail) else whole ++ tail) =
      some ⟨negative, natOfDigits (whole ++ fraction), -fraction.length⟩ := by
  have hempty : whole.isEmpty = false := List.isEmpty_eq_false_iff.2 hne
  simp only [ofChars?, signed_append hwhole hne, hmantissa, hempty, Bool.false_and,
    Bool.false_eq_true, if_false, power?, Option.map_some, Int.zero_sub]

end Literal

/-! ## Writing -/

/-- Putting in the point, and zeros in front where there are not enough digits, changes neither the
digits nor their number. -/
lemma exists_withPoint_eq {digits : List Char} (h : ∀ c ∈ digits, c.isDigit = true) (places : Nat) :
    ∃ whole fraction, withPoint digits places = whole ++ '.' :: fraction ∧ whole ≠ [] ∧
      (∀ c ∈ whole, c.isDigit = true) ∧ (∀ c ∈ fraction, c.isDigit = true) ∧
      fraction.length = places ∧ natOfDigits (whole ++ fraction) = natOfDigits digits := by
  by_cases hplaces : places < digits.length
  · refine ⟨digits.take (digits.length - places), digits.drop (digits.length - places),
      if_pos hplaces, ?_, fun c hc => h c (List.mem_of_mem_take hc),
      fun c hc => h c (List.mem_of_mem_drop hc), ?_, ?_⟩
    · rw [← List.length_pos_iff, List.length_take]
      omega
    · rw [List.length_drop]
      omega
    · rw [List.take_append_drop]
  · refine ⟨['0'], List.replicate (places - digits.length) '0' ++ digits, if_neg hplaces,
      List.cons_ne_nil _ _, ?_, ?_, ?_, ?_⟩
    · intro c hc
      rw [List.mem_singleton.1 hc]
      decide
    · intro c hc
      rcases List.mem_append.1 hc with hzero | hdigit
      · rw [List.eq_of_mem_replicate hzero]
        decide
      · exact h c hdigit
    · rw [List.length_append, List.length_replicate]
      omega
    · exact natOfDigits_replicate_append (places - digits.length + 1) digits

/-- The same number without a positive power of ten: what there is of it has become part of the
coefficient. -/
def spread (d : Decimal) : Decimal :=
  match d.exponent with
  | .ofNat e => ⟨d.negative, d.coefficient * 10 ^ e, 0⟩
  | .negSucc _ => d

/-- **What is written positionally is read back**, with a positive power of ten in the
coefficient. -/
theorem ofChars?_chars (d : Decimal) : ofChars? d.chars = some d.spread := by
  obtain ⟨negative, coefficient, exponent⟩ := d
  have hdigits : ∀ c ∈ digitsOfNat coefficient, c.isDigit = true :=
    fun c hc => isDigit_of_mem_digitsOfNat hc
  cases exponent with
  | ofNat e =>
    have hzeros : ∀ c ∈ digitsOfNat coefficient ++ List.replicate e '0', c.isDigit = true := by
      intro c hc
      rcases List.mem_append.1 hc with hdigit | hzero
      · exact hdigits c hdigit
      · rw [List.eq_of_mem_replicate hzero]
        decide
    have hne : digitsOfNat coefficient ++ List.replicate e '0' ≠ [] :=
      List.append_ne_nil_of_left_ne_nil (digitsOfNat_ne_nil coefficient) _
    have hmantissa : mantissa ((digitsOfNat coefficient ++ List.replicate e '0') ++ []) =
        (digitsOfNat coefficient ++ List.replicate e '0', [], []) :=
      mantissa_append_of_ne hzeros (by simp)
    have hread := ofChars?_of_mantissa_eq hzeros hne hmantissa negative
    simp only [List.append_nil, natOfDigits_digitsOfNat_append_replicate] at hread
    exact hread
  | negSucc e =>
    obtain ⟨whole, fraction, hpoint, hne, hwhole, hfraction, hlength, hvalue⟩ :=
      exists_withPoint_eq hdigits (e + 1)
    have hmantissa : mantissa (whole ++ '.' :: fraction) = (whole, fraction, []) := by
      rw [← mantissa_append hwhole hfraction (by simp), List.append_nil]
    have hread := ofChars?_of_mantissa_eq hwhole hne hmantissa negative
    rw [← hpoint, hvalue, natOfDigits_digitsOfNat, hlength] at hread
    exact hread

/-! ## Nearest numbers -/

/-- **The nearest binary64 stays the same**, unless the power of ten is too large for the format. -/
theorem nearest_spread {d : Decimal} (h : d.nearest.isFinite = true) :
    d.spread.nearest = d.nearest := by
  obtain ⟨negative, coefficient, exponent⟩ := d
  cases exponent with
  | negSucc e => rfl
  | ofNat e =>
    have hpow : 0 < 10 ^ e := Nat.pow_pos (by decide)
    by_cases hzero : coefficient = 0
    · simp [spread, nearest, hzero]
    · by_cases hlarge : 309 ≤ e
      · simp [nearest, hzero, hlarge, Binary64.isFinite] at h
      · have hne : coefficient * 10 ^ e ≠ 0 := Nat.mul_ne_zero hzero (Nat.pos_iff_ne_zero.1 hpow)
        have hsmall : ¬309 ≤ 0 := by decide
        simp only [spread, nearest, if_neg hzero, if_neg hlarge, if_neg hne, if_neg hsmall,
          Nat.pow_zero, Nat.mul_one]

/-! ## Texts -/

/-- The characters of a literal are not blank, and none of them is a comma. -/
lemma IsLiteralChar.isBlank_eq_and_ne {c : Char} (h : IsLiteralChar c) :
    isBlank c = false ∧ c ≠ ',' := by
  rcases h with hdigit | hmark
  · have hrange : 48 ≤ c.toNat ∧ c.toNat ≤ 57 := Char.isDigit_iff_toNat.1 hdigit
    constructor
    · simp only [isBlank, Bool.or_eq_false_iff, Bool.and_eq_false_iff, decide_eq_false_iff_not,
        beq_eq_false_iff_ne]
      omega
    · rintro rfl
      exact absurd hdigit (by decide)
  · simp only [List.mem_cons, List.not_mem_nil, or_false] at hmark
    rcases hmark with rfl | rfl | rfl | rfl | rfl <;> decide

/-- A decimal that is written positionally has no blanks and no commas in it. -/
lemma isBlank_eq_and_ne_of_mem_chars {d : Decimal} {c : Char} (h : c ∈ d.chars) :
    isBlank c = false ∧ c ≠ ',' :=
  (isLiteralChar_of_ofChars?_eq_some (ofChars?_chars d) c h).isBlank_eq_and_ne

end Decimal

/-- **The text of a decimal denotes the nearest binary64**, if that is finite. -/
theorem Numeral.read?_chars {d : Decimal} (h : d.nearest.isFinite = true) :
    read? (String.ofList d.chars) = some d.nearest := by
  have htrim : trimChars d.chars = d.chars :=
    trimChars_of_forall fun c hc => (Decimal.isBlank_eq_and_ne_of_mem_chars hc).1
  rw [read?, String.toList_ofList, htrim, Decimal.ofChars?_chars, Option.map_some,
    Decimal.nearest_spread h, Option.filter_some, if_pos h]

end Sift
