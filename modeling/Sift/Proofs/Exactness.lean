import Mathlib.Tactic.Lemma
import Sift.Binary64.Arithmetic

set_option autoImplicit false
set_option relaxedAutoImplicit false

/-!
# Exact results

Rounding leaves alone what needs no rounding: a count of units that fits the format is the rounding
of every quotient that equals it. So the product with one is exact.

## Main results

* `Sift.Binary64.ofQuotient_mul` — a quotient that is a representable count is not rounded.
* `Sift.Binary64.one_mul` — one is neutral in products, for every binary64.
-/

namespace Sift.Binary64

/-- A whole quotient is its own rounding. -/
lemma roundHalfEven_mul {den : Nat} (hden : 0 < den) (m : Nat) :
    roundHalfEven (m * den) den = m := by
  have hdiv : m * den / den = m := Nat.mul_div_cancel m hden
  have hmod : m * den % den = 0 := Nat.mul_mod_left m den
  simp only [roundHalfEven, hdiv, hmod]
  rw [if_pos (Or.inl (by omega))]

/-- A representable count of units is its own rounding.

**Proof sketch.** The count is divisible by the power of two that rounding divides it by, so the
quotient that is rounded is whole. -/
lemma roundUnits_mul {units den : Nat} (hfits : Representable units) (hden : 0 < den) :
    roundUnits (units * den) den = units := by
  have hdiv : units * den / den = units := Nat.mul_div_cancel units hden
  obtain ⟨m, hm⟩ := hfits.2
  have hwhole : units * den = m * (den * 2 ^ (units.log2 - 52)) := by
    calc units * den = 2 ^ (units.log2 - 52) * m * den := by rw [← hm]
      _ = m * (den * 2 ^ (units.log2 - 52)) := by ac_rfl
  have hpos : 0 < den * 2 ^ (units.log2 - 52) := Nat.mul_pos hden (Nat.two_pow_pos _)
  simp only [roundUnits, surplusBits, hdiv]
  rw [hwhole, roundHalfEven_mul hpos, Nat.mul_comm, ← hm]

/-- **A quotient that is a representable count of units is not rounded.** -/
theorem ofQuotient_mul (negative : Bool) {units den : Nat} (hfits : Representable units)
    (hden : 0 < den) :
    ofQuotient negative (units * den) den = .finite negative units hfits := by
  have hunits := roundUnits_mul hfits hden
  have hlimit : roundUnits (units * den) den < limit := hunits.symm ▸ hfits.1
  rw [ofQuotient, dif_pos hlimit]
  simp only [hunits]

/-- No units are zero, which has the sign that is asked for. -/
lemma ofQuotient_zero (negative : Bool) {den : Nat} (hden : 0 < den) :
    ofQuotient negative 0 den = signedZero negative := by
  have hround := ofQuotient_mul negative representable_zero hden
  rwa [Nat.zero_mul] at hround

lemma unitsPerOne_pos : 0 < unitsPerOne := Nat.two_pow_pos _

lemma representable_unitsPerOne : Representable unitsPerOne := by decide +kernel

/-- One is as many units as there are in one. -/
lemma one_eq : one = .finite false unitsPerOne representable_unitsPerOne := by
  have hsign : decide ((1 : Int) < 0) = false := rfl
  have hunits : (1 : Int).natAbs * unitsPerOne = unitsPerOne * 1 := by
    rw [Int.natAbs_one, Nat.one_mul, Nat.mul_one]
  rw [one, ofInt, hsign, hunits, ofQuotient_mul false representable_unitsPerOne Nat.one_pos]

/-- **One is neutral in products**, also of infinities and of what is not a number. -/
theorem one_mul (x : Binary64) : one.mul x = x := by
  rw [one_eq]
  cases x with
  | nan => rfl
  | infinite negative =>
    have hne : unitsPerOne ≠ 0 := Nat.pos_iff_ne_zero.1 unitsPerOne_pos
    simp only [mul, if_neg hne, Bool.false_bne]
  | finite negative units hfits =>
    simp only [mul, Bool.false_bne]
    rw [Nat.mul_comm, ofQuotient_mul negative hfits unitsPerOne_pos]

@[simp] lemma isZero_zero : zero.isZero = true := rfl

end Sift.Binary64
