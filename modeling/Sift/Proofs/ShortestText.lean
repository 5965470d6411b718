import Sift.Proofs.Finiteness
import Sift.Proofs.Positional

set_option autoImplicit false
set_option relaxedAutoImplicit false

/-!
# Shortest texts

The text of a finite binary64 denotes that number again. The decimal behind it is looked for among
those that do, and where the search ends without one, the exact value is taken, which is its own
nearest binary64. A whole number is written with all its digits, and reading these rounds as turning
the number into a binary64 does.

## Main results

* `Sift.Decimal.nearest_shortest` — the shortest decimal of a number stands for it.
* `Sift.Numeral.read?_text` — the text of a finite binary64 denotes it.
* `Sift.Number.read?_text` — and the text of a number of a record denotes its binary64.
-/

namespace Sift

/-! ## Signs -/

namespace Binary64

lemma withSign_ofQuotient (negative sign : Bool) (num den : Nat) :
    (ofQuotient sign num den).withSign negative = ofQuotient negative num den := by
  rw [ofQuotient, ofQuotient]
  split <;> rfl

end Binary64

namespace Decimal

/-- The sign of a decimal is that of the nearest binary64 and has no other effect. -/
lemma nearest_withSign (negative : Bool) (d : Decimal) :
    nearest { d with negative } = d.nearest.withSign negative := by
  obtain ⟨sign, coefficient, exponent⟩ := d
  cases exponent with
  | ofNat e =>
    simp only [nearest]
    split_ifs
    · rfl
    · rfl
    · rw [Binary64.withSign_ofQuotient]
  | negSucc e =>
    simp only [nearest]
    split_ifs
    · rfl
    · rw [Binary64.withSign_ofQuotient]

/-- A decimal without a power of ten is rounded as a whole number is. -/
lemma nearest_whole (negative : Bool) (n : Nat) :
    nearest ⟨negative, n, 0⟩ = .ofQuotient negative (n * Binary64.unitsPerOne) 1 := by
  have hsmall : ¬309 ≤ 0 := by decide
  by_cases hzero : n = 0
  · rw [hzero, Nat.zero_mul, Binary64.ofQuotient_zero negative Nat.one_pos]
    simp only [nearest, if_true]
  · simp only [nearest, if_neg hzero, if_neg hsmall, Nat.pow_zero, Nat.mul_one]

/-! ## Decimals that stand for a number -/

section Shortest

variable {units : Nat} (hfits : Binary64.Representable units) (hpos : 0 < units)

include hpos

/-- A decimal whose nearest binary64 has a place stands for the number at that place. -/
lemma nearest_eq_finite_of_position? {d : Decimal} (h : d.nearest.position? = some (units : Int)) :
    d.nearest = .finite false units hfits := by
  have hlimit : units < Binary64.limit := hfits.1
  have hfinite : d.nearest.isFinite = true := by
    cases hd : d.nearest with
    | nan =>
      rw [hd] at h
      exact nomatch h
    | infinite negative =>
      -- the infinities stand beyond all counts of units that fit
      rw [hd, Binary64.position?, Option.some.injEq] at h
      cases negative
      · rw [if_neg Bool.false_ne_true] at h
        omega
      · rw [if_pos rfl] at h
        omega
    | finite => rfl
  have hzero : d.nearest.isZero = false := by
    rw [Binary64.isZero, h, beq_eq_false_iff_ne, ne_eq, Option.some.injEq]
    omega
  exact Binary64.eq_of_position?_eq hfinite rfl hzero h

omit hpos in
/-- The search tries the two neighbours of a number of units in the order of their distance. -/
lemma withDigits?_eq {digits num den : Nat} {power : Int}
    (hpower : leadingPower units - digits + 1 = power) (hscaled : scaled units power = (num, den)) :
    withDigits? units digits =
      (if 2 * (num % den) < den then [⟨false, num / den, power⟩, next digits (num / den) power]
        else [next digits (num / den) power, ⟨false, num / den, power⟩]).find? fun d =>
          d.nearest.position? == some (units : Int) := by
  subst hpower
  delta withDigits?
  simp only [hscaled]

omit hpos in
/-- A decimal that the search accepts has the place that is looked for. -/
lemma position?_of_withDigits? {digits : Nat} {d : Decimal}
    (h : withDigits? units digits = some d) :
    d.nearest.position? = some (units : Int) := by
  rcases hscaled : scaled units (leadingPower units - digits + 1) with ⟨num, den⟩
  rw [withDigits?_eq rfl hscaled] at h
  have hstands := List.find?_some h
  exact beq_iff_eq.1 hstands

/-- A power of five has more than two bits for every factor. -/
lemma two_mul_le_log2_mul_five_pow (k : Nat) : 2 * k ≤ (units * 5 ^ k).log2 := by
  have hfive : 0 < 5 ^ k := Nat.pow_pos (by decide)
  rw [Nat.le_log2 (Nat.pos_iff_ne_zero.1 (Nat.mul_pos hpos hfive))]
  calc 2 ^ (2 * k) = 4 ^ k := Nat.pow_mul 2 2 k
    _ ≤ 5 ^ k := Nat.pow_le_pow_left (by decide) k
    _ ≤ units * 5 ^ k := Nat.le_mul_of_pos_left _ hpos

/-- The exact value of a number of units stands for it: it has so many powers of five that it does
not count as too small. -/
lemma nearest_exact :
    nearest ⟨false, units * 5 ^ Binary64.places, -Binary64.places⟩ =
      .finite false units hfits := by
  obtain ⟨k, hk⟩ : ∃ k, Binary64.places = k + 1 := ⟨1073, rfl⟩
  have hexponent : (-Binary64.places : Int) = .negSucc k := by
    rw [hk]
    rfl
  have hlog := two_mul_le_log2_mul_five_pow hpos Binary64.places
  have hsize : ¬(units * 5 ^ Binary64.places).log2 + 1080 < 3 * (k + 1) := by
    have hplaces : Binary64.places ≤ 1080 := by decide
    omega
  have hnum : units * 5 ^ Binary64.places * Binary64.unitsPerOne = units * 10 ^ (k + 1) := by
    rw [Binary64.unitsPerOne, Nat.mul_assoc, ← Nat.mul_pow, hk]
  simp only [nearest, hexponent, if_neg hsize, hnum]
  exact Binary64.ofQuotient_mul false hfits (Nat.pow_pos (by decide))

/-- **The shortest decimal of a number stands for it.** -/
theorem nearest_shortest : (shortest units).nearest = .finite false units hfits := by
  rw [shortest]
  cases hfound : (List.range 17).findSome? fun i => withDigits? units (i + 1) with
  | none => exact nearest_exact hfits hpos
  | some d =>
    obtain ⟨i, -, hi⟩ := List.exists_of_findSome?_eq_some hfound
    exact nearest_eq_finite_of_position? hfits hpos (position?_of_withDigits? hi)

end Shortest

end Decimal

/-! ## Texts of numbers -/

/-- The decimal of a finite number of units stands for it, zero with either sign included. -/
lemma Binary64.nearest_decimal (negative : Bool) {units : Nat} (hfits : Representable units) :
    (decimal negative units).nearest = .finite negative units hfits := by
  rw [decimal]
  split_ifs with hzero
  · subst hzero
    rw [Decimal.nearest_whole, Nat.zero_mul, ofQuotient_zero negative Nat.one_pos,
      signedZero]
  · rw [Decimal.nearest_withSign, Decimal.nearest_shortest hfits (Nat.pos_of_ne_zero hzero)]
    rfl

/-- **The text of a finite binary64 denotes it**, including the sign of a zero. -/
theorem Numeral.read?_text {x : Binary64} (h : x.isFinite = true) : read? x.text = some x := by
  cases x with
  | nan | infinite => exact Bool.noConfusion h
  | finite negative units hfits =>
    have hnearest := Binary64.nearest_decimal negative hfits
    rw [Binary64.text, read?_chars (by rw [hnearest]; rfl), hnearest]

/-- The text of an integer is that of a decimal without a power of ten. -/
lemma Text.intText_eq (n : Int) :
    intText n = String.ofList (Decimal.chars ⟨decide (n < 0), n.natAbs, 0⟩) := by
  have hzeros : digitsOfNat n.natAbs ++ List.replicate 0 '0' = digitsOfNat n.natAbs :=
    List.append_nil _
  simp only [intText, Decimal.chars, hzeros, decide_eq_true_eq]

/-- **The text of a number of a record denotes its binary64.** -/
theorem Number.read?_text (n : Number) : Numeral.read? n.text = some n.toBinary64 := by
  have hfinite := n.isFinite_toBinary64
  cases n with
  | float x hx => exact Numeral.read?_text hx
  | integer value hword =>
    rw [toBinary64, Binary64.ofInt, ← Decimal.nearest_whole] at hfinite
    rw [text, Text.intText_eq, Numeral.read?_chars hfinite, Decimal.nearest_whole, toBinary64,
      Binary64.ofInt]

end Sift
