import Sift.Binary64.Basic

set_option autoImplicit false
set_option relaxedAutoImplicit false

/-!
# Rounding to binary64

The binary64 nearest to a quotient of natural numbers, with ties going to the even neighbour. All
arithmetic of the format and all reading of decimals is this one rounding of an exact result.

## Main definitions

* `Sift.Binary64.roundHalfEven`: the integer nearest to a quotient.
* `Sift.Binary64.roundUnits`: the nearest count of units with at most 53 significant bits.
* `Sift.Binary64.ofQuotient`: the nearest binary64, infinite where the quotient is too large.

## Main results

* `Sift.Binary64.representable_roundUnits`: below the limit, the rounded count fits the format.
-/

namespace Sift.Binary64

/-- The integer nearest to `num / den`; halfway between two integers, the even one. -/
def roundHalfEven (num den : Nat) : Nat :=
  let q := num / den
  let twice := 2 * (num % den)
  if twice < den ∨ twice = den ∧ q % 2 = 0 then q else q + 1

/-- The number of low bits of `num / den` that do not fit into 53 bits. -/
def surplusBits (num den : Nat) : Nat :=
  (num / den).log2 - 52

/-- The count of units nearest to `num / den` among those with at most 53 significant bits. -/
def roundUnits (num den : Nat) : Nat :=
  let s := surplusBits num den
  roundHalfEven num (den * 2 ^ s) * 2 ^ s

theorem roundHalfEven_le (num den : Nat) : roundHalfEven num den ≤ num / den + 1 := by
  simp only [roundHalfEven]
  split <;> omega

theorem roundHalfEven_le_of_surplusBits (num den : Nat) :
    roundHalfEven num (den * 2 ^ surplusBits num den) ≤ 2 ^ (53 : Nat) := by
  refine Nat.le_trans (roundHalfEven_le _ _) ?_
  have h : num / (den * 2 ^ surplusBits num den) < 2 ^ (53 : Nat) := by
    rw [← Nat.div_div_eq_div_mul]
    apply Nat.div_lt_of_lt_mul
    refine Nat.lt_of_lt_of_le (Nat.lt_log2_self (n := num / den)) ?_
    rw [← Nat.pow_add]
    exact Nat.pow_le_pow_right (by decide) (by simp only [surplusBits]; omega)
  omega

/-- A count of at most 53 bits, shifted to any place, has at most 53 significant bits. -/
theorem pow_log2_dvd {m s : Nat} (h : m ≤ 2 ^ (53 : Nat)) :
    2 ^ ((m * 2 ^ s).log2 - 52) ∣ m * 2 ^ s := by
  rcases Nat.lt_or_eq_of_le h with hlt | rfl
  · rcases Nat.eq_zero_or_pos m with rfl | hpos
    · simp
    · have hne : m * 2 ^ s ≠ 0 := Nat.mul_ne_zero (by omega) (by simp)
      have hlog : (m * 2 ^ s).log2 < 53 + s := by
        rw [Nat.log2_lt hne, Nat.pow_add]
        exact Nat.mul_lt_mul_of_pos_right hlt (Nat.two_pow_pos s)
      exact Nat.dvd_trans (Nat.pow_dvd_pow 2 (by omega : _ ≤ s)) ⟨m, Nat.mul_comm _ _⟩
  · rw [← Nat.pow_add, Nat.log2_two_pow]
    exact Nat.pow_dvd_pow 2 (by omega)

/-- Below the limit, the rounded count of units fits the format. -/
theorem representable_roundUnits {num den : Nat} (h : roundUnits num den < limit) :
    Representable (roundUnits num den) :=
  ⟨h, pow_log2_dvd (roundHalfEven_le_of_surplusBits num den)⟩

/-- The binary64 nearest to `num / den` units, with the given sign; a quotient that rounds to the
limit or beyond is infinite. -/
def ofQuotient (negative : Bool) (num den : Nat) : Binary64 :=
  if h : roundUnits num den < limit then
    .finite negative (roundUnits num den) (representable_roundUnits h)
  else
    .infinite negative

/-- The binary64 nearest to an integer. -/
def ofInt (n : Int) : Binary64 :=
  ofQuotient (n < 0) (n.natAbs * unitsPerOne) 1

/-- The binary64 nearest to a natural number. -/
def ofNat (n : Nat) : Binary64 :=
  ofInt n

end Sift.Binary64
