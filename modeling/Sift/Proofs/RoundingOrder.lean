import Mathlib.Data.Nat.Log
import Sift.Proofs.Exactness

set_option autoImplicit false
set_option relaxedAutoImplicit false

/-!
# Rounding keeps order

A greater quotient does not round to a smaller count of units, so a quotient that lies between two
counts that fit the format rounds to something between them. Natural numbers of up to 53 bits are
not rounded at all, and greater ones keep their order. Hence the quotient of a part and the whole is
a number between zero and one, and as long as the whole has at most 53 bits only an empty part gives
zero and only the whole gives one.

## Main definitions

* `Sift.Binary64.le` — the order of the numbers, as a test.
* `Sift.Binary64.unitsOf`, `Sift.Binary64.shareUnits` — the units of a natural number and of a share.

## Main results

* `Sift.Binary64.roundUnits_mono` — rounding keeps the order of quotients.
* `Sift.Binary64.le_roundUnits`, `Sift.Binary64.roundUnits_le` — a count that fits the format and
  bounds a quotient bounds its rounding.
* `Sift.Binary64.ofNat_eq_finite` — the units of a natural number.
* `Sift.Binary64.share_bounds` — a share lies between zero and one.
* `Sift.Binary64.share_eq_zero_iff`, `Sift.Binary64.share_eq_one_iff` — the shares at either end.
-/

namespace Sift.Binary64

/-- The first number does not lie above the second. Not a number is on neither side of anything. -/
def le (x y : Binary64) : Bool :=
  match x.position?, y.position? with
  | some a, some b => a ≤ b
  | _, _ => false

/-! ## Rounding quotients with one denominator -/

lemma le_roundHalfEven (num den : Nat) : num / den ≤ roundHalfEven num den := by
  simp only [roundHalfEven]
  split <;> omega

/-- A greater quotient does not have a smaller nearest integer. -/
lemma roundHalfEven_mono {num num' : Nat} (h : num ≤ num') (den : Nat) :
    roundHalfEven num den ≤ roundHalfEven num' den := by
  rcases Nat.lt_or_eq_of_le (Nat.div_le_div_right h : num / den ≤ num' / den) with hlt | heq
  · calc roundHalfEven num den ≤ num / den + 1 := roundHalfEven_le num den
      _ ≤ num' / den := hlt
      _ ≤ roundHalfEven num' den := le_roundHalfEven num' den
  · -- between the same two integers the greater quotient has the greater remainder
    have hmod : num % den ≤ num' % den := by
      have hnum := Nat.div_add_mod num den
      have hnum' := Nat.div_add_mod num' den
      rw [heq] at hnum
      omega
    simp only [roundHalfEven, heq]
    split <;> split <;> omega

lemma surplusBits_mono {num num' : Nat} (h : num ≤ num') (den : Nat) :
    surplusBits num den ≤ surplusBits num' den := by
  have hlog : Nat.log 2 (num / den) ≤ Nat.log 2 (num' / den) :=
    Nat.log_mono_right (Nat.div_le_div_right h)
  simp only [surplusBits, Nat.log2_eq_log_two]
  omega

/-- A quotient with bits to spare has 53 bits left when these are cut off. -/
lemma two_pow_le_roundHalfEven {num den : Nat} (h : 0 < surplusBits num den) :
    2 ^ (52 : Nat) ≤ roundHalfEven num (den * 2 ^ surplusBits num den) := by
  refine Nat.le_trans ?_ (le_roundHalfEven _ _)
  have hlog : (num / den).log2 = 52 + surplusBits num den := by
    simp only [surplusBits] at h ⊢
    omega
  have hne : num / den ≠ 0 := by
    intro hzero
    rw [hzero, Nat.log2_zero] at hlog
    omega
  rw [← Nat.div_div_eq_div_mul, Nat.le_div_iff_mul_le (Nat.two_pow_pos _), ← Nat.pow_add, ← hlog]
  exact Nat.log2_self_le hne

/-- **Rounding keeps the order** of quotients with the same denominator.

**Proof sketch.** If as many bits are cut off both quotients, their leading bits are in order. If
more are cut off the greater one, then its leading bits make up at least `2 ^ 52`, those of the
other at most `2 ^ 53`, and one bit more makes up for the difference. -/
theorem roundUnits_mono {num num' : Nat} (h : num ≤ num') (den : Nat) :
    roundUnits num den ≤ roundUnits num' den := by
  simp only [roundUnits]
  rcases Nat.lt_or_eq_of_le (surplusBits_mono h den) with hlt | heq
  · have hbits : 53 + surplusBits num den ≤ 52 + surplusBits num' den := by omega
    calc roundHalfEven num (den * 2 ^ surplusBits num den) * 2 ^ surplusBits num den
        ≤ 2 ^ 53 * 2 ^ surplusBits num den :=
          Nat.mul_le_mul_right _ (roundHalfEven_le_of_surplusBits num den)
      _ = 2 ^ (53 + surplusBits num den) := (Nat.pow_add ..).symm
      _ ≤ 2 ^ (52 + surplusBits num' den) := Nat.pow_le_pow_right Nat.two_pos hbits
      _ = 2 ^ 52 * 2 ^ surplusBits num' den := Nat.pow_add ..
      _ ≤ _ := Nat.mul_le_mul_right _ (two_pow_le_roundHalfEven (by omega))
  · rw [heq]
    exact Nat.mul_le_mul_right _ (roundHalfEven_mono h _)

/-- What fits the format and lies below a quotient lies below its rounding. -/
lemma le_roundUnits {units num den : Nat} (hfits : Representable units) (hden : 0 < den)
    (h : units * den ≤ num) : units ≤ roundUnits num den := by
  have hmono := roundUnits_mono h den
  rwa [roundUnits_mul hfits hden] at hmono

/-- What fits the format and lies above a quotient lies above its rounding. -/
lemma roundUnits_le {units num den : Nat} (hfits : Representable units) (hden : 0 < den)
    (h : num ≤ units * den) : roundUnits num den ≤ units := by
  have hmono := roundUnits_mono h den
  rwa [roundUnits_mul hfits hden] at hmono

/-! ## Natural numbers -/

/-- A count of at most 53 bits, shifted to any place below the limit, fits the format. -/
lemma representable_mul_two_pow {m s : Nat} (hm : m ≤ 2 ^ (53 : Nat)) (h : m * 2 ^ s < limit) :
    Representable (m * 2 ^ s) :=
  ⟨h, pow_log2_dvd hm⟩

/-- The smallest positive number has one unit. -/
lemma representable_one : Representable 1 := by decide +kernel

/-- The units of the binary64 nearest to a natural number. -/
def unitsOf (n : Nat) : Nat :=
  roundUnits (n * unitsPerOne) 1

/-- Greater numbers do not have fewer units. -/
lemma unitsOf_mono {m n : Nat} (h : m ≤ n) : unitsOf m ≤ unitsOf n :=
  roundUnits_mono (Nat.mul_le_mul_right unitsPerOne h) 1

lemma two_pow_mul_unitsPerOne_lt {k : Nat} (hk : k < 1024) : 2 ^ k * unitsPerOne < limit := by
  rw [unitsPerOne, limit, ← Nat.pow_add]
  exact Nat.pow_lt_pow_right Nat.one_lt_two (Nat.add_lt_add_right hk places)

/-- The units of a natural number of up to 53 bits fit the format. -/
lemma representable_natural {n : Nat} (h : n ≤ 2 ^ (53 : Nat)) :
    Representable (n * unitsPerOne) := by
  refine representable_mul_two_pow h ?_
  exact Nat.lt_of_le_of_lt (Nat.mul_le_mul_right unitsPerOne h)
    (two_pow_mul_unitsPerOne_lt (by decide))

/-- A natural number of up to 53 bits is not rounded. -/
lemma unitsOf_eq {n : Nat} (h : n ≤ 2 ^ (53 : Nat)) : unitsOf n = n * unitsPerOne := by
  have hround := roundUnits_mul (representable_natural h) Nat.one_pos
  rwa [Nat.mul_one] at hround

/-- A natural number in the range of the format stays below the limit when it is rounded. -/
lemma unitsOf_lt_limit {n k : Nat} (h : n ≤ 2 ^ k) (hk : k < 1024) : unitsOf n < limit := by
  have hfits : Representable (2 ^ k * unitsPerOne) := by
    have hlt := two_pow_mul_unitsPerOne_lt hk
    rw [unitsPerOne, ← Nat.pow_add, ← Nat.one_mul (2 ^ (k + places))] at hlt ⊢
    exact representable_mul_two_pow (by decide) hlt
  refine Nat.lt_of_le_of_lt (roundUnits_le hfits Nat.one_pos ?_) (two_pow_mul_unitsPerOne_lt hk)
  rw [Nat.mul_one]
  exact Nat.mul_le_mul_right unitsPerOne h

/-- **A natural number in the range of the format** is its rounded units. -/
lemma ofNat_eq_finite {n k : Nat} (h : n ≤ 2 ^ k) (hk : k < 1024) :
    ofNat n = .finite false (unitsOf n) (representable_roundUnits (unitsOf_lt_limit h hk)) := by
  have hsign : decide ((n : Int) < 0) = false := decide_eq_false (by omega)
  rw [ofNat, ofInt, hsign, Int.natAbs_natCast]
  exact dif_pos (unitsOf_lt_limit h hk)

/-! ## Shares -/

section Comparison

variable {a b : Nat} {ha : Representable a} {hb : Representable b}

lemma eq_finite_iff : (finite false a ha).eq (finite false b hb) = true ↔ a = b := by
  simp only [Binary64.eq, position?, Bool.false_eq_true, if_false, beq_iff_eq]
  exact Int.ofNat_inj

lemma le_finite_iff : (finite false a ha).le (finite false b hb) = true ↔ a ≤ b := by
  simp only [Binary64.le, position?, Bool.false_eq_true, if_false, decide_eq_true_eq]
  exact Int.ofNat_le

end Comparison

/-- The units of a share: those of the part by those of the whole, rounded once more. -/
def shareUnits (part whole : Nat) : Nat :=
  roundUnits (unitsOf part * unitsPerOne) (unitsOf whole)

section Share

variable {part whole k : Nat}

lemma unitsOf_pos (hwhole : 0 < whole) : 0 < unitsOf whole := by
  refine Nat.lt_of_lt_of_le unitsPerOne_pos (le_roundUnits representable_unitsPerOne Nat.one_pos ?_)
  rw [Nat.mul_one]
  exact Nat.le_mul_of_pos_left unitsPerOne hwhole

/-- A share has at most the units of one. -/
lemma shareUnits_le (hpart : part ≤ whole) (hwhole : 0 < whole) :
    shareUnits part whole ≤ unitsPerOne := by
  refine roundUnits_le representable_unitsPerOne (unitsOf_pos hwhole) ?_
  rw [Nat.mul_comm unitsPerOne]
  exact Nat.mul_le_mul_right unitsPerOne (unitsOf_mono hpart)

/-- **A share is a finite number**, with the units above. -/
lemma share_eq_finite (hpart : part ≤ whole) (hwhole : 0 < whole) (hrange : whole ≤ 2 ^ k)
    (hk : k < 1024) :
    ∃ hfits, (ofNat part).div (ofNat whole) = .finite false (shareUnits part whole) hfits := by
  have hlimit : shareUnits part whole < limit :=
    Nat.lt_of_le_of_lt (shareUnits_le hpart hwhole) representable_unitsPerOne.1
  refine ⟨representable_roundUnits hlimit, ?_⟩
  rw [ofNat_eq_finite (Nat.le_trans hpart hrange) hk, ofNat_eq_finite hrange hk]
  simp only [div, if_neg (Nat.pos_iff_ne_zero.1 (unitsOf_pos hwhole)), bne_self_eq_false]
  exact dif_pos hlimit

/-- **A share lies between zero and one**, also where its numbers are rounded. -/
theorem share_bounds (hpart : part ≤ whole) (hwhole : 0 < whole) (hrange : whole ≤ 2 ^ k)
    (hk : k < 1024) :
    zero.le ((ofNat part).div (ofNat whole)) = true ∧
      ((ofNat part).div (ofNat whole)).le one = true := by
  obtain ⟨hfits, hshare⟩ := share_eq_finite hpart hwhole hrange hk
  rw [hshare, one_eq, zero, signedZero, le_finite_iff, le_finite_iff]
  exact ⟨Nat.zero_le _, shareUnits_le hpart hwhole⟩

lemma shareUnits_eq (hpart : part ≤ whole) (hbits : whole ≤ 2 ^ (53 : Nat)) :
    shareUnits part whole =
      roundUnits (part * unitsPerOne * unitsPerOne) (whole * unitsPerOne) := by
  rw [shareUnits, unitsOf_eq (Nat.le_trans hpart hbits), unitsOf_eq hbits]

/-- A part that is not empty has a share of at least one unit. -/
lemma shareUnits_pos (hpart : part ≤ whole) (hpos : 0 < part) (hbits : whole ≤ 2 ^ (53 : Nat)) :
    0 < shareUnits part whole := by
  have hwhole : whole ≤ unitsPerOne :=
    Nat.le_trans hbits (Nat.pow_le_pow_right Nat.two_pos (by decide))
  rw [shareUnits_eq hpart hbits]
  refine le_roundUnits representable_one (Nat.mul_pos (Nat.lt_of_lt_of_le hpos hpart) unitsPerOne_pos) ?_
  rw [Nat.one_mul]
  refine Nat.mul_le_mul_right unitsPerOne (Nat.le_trans hwhole ?_)
  exact Nat.le_mul_of_pos_left unitsPerOne hpos

/-- The greatest number below one is a unit of its last bit away from it, and a part that is not the
whole does not have a share above it. -/
lemma shareUnits_lt (hpart : part < whole) (hbits : whole ≤ 2 ^ (53 : Nat)) :
    shareUnits part whole < unitsPerOne := by
  obtain ⟨s, hs⟩ : ∃ s, places = 53 + s := Nat.exists_eq_add_of_le (by decide)
  have hunits : unitsPerOne = 2 ^ (53 : Nat) * 2 ^ s := by
    rw [unitsPerOne, hs, Nat.pow_add]
  have hbelow : (2 ^ (53 : Nat) - 1) * 2 ^ s < unitsPerOne := by
    rw [hunits]
    exact Nat.mul_lt_mul_of_pos_right (by decide) (Nat.two_pow_pos s)
  have hfits : Representable ((2 ^ (53 : Nat) - 1) * 2 ^ s) :=
    representable_mul_two_pow (Nat.sub_le _ _) (Nat.lt_trans hbelow representable_unitsPerOne.1)
  have hquotient : part * 2 ^ (53 : Nat) ≤ (2 ^ (53 : Nat) - 1) * whole := by omega
  rw [shareUnits_eq (Nat.le_of_lt hpart) hbits]
  refine Nat.lt_of_le_of_lt (roundUnits_le hfits ?_ ?_) hbelow
  · exact Nat.mul_pos (Nat.lt_of_le_of_lt (Nat.zero_le _) hpart) unitsPerOne_pos
  · calc part * unitsPerOne * unitsPerOne
        = part * 2 ^ (53 : Nat) * (2 ^ s * unitsPerOne) := by
          rw [← Nat.mul_assoc, Nat.mul_assoc part (2 ^ (53 : Nat)), ← hunits]
      _ ≤ (2 ^ (53 : Nat) - 1) * whole * (2 ^ s * unitsPerOne) :=
          Nat.mul_le_mul_right _ hquotient
      _ = (2 ^ (53 : Nat) - 1) * 2 ^ s * (whole * unitsPerOne) :=
          Nat.mul_mul_mul_comm ..

/-- **Only an empty part has the share zero**, as long as the whole has at most 53 bits. -/
theorem share_eq_zero_iff (hpart : part ≤ whole) (hwhole : 0 < whole)
    (hbits : whole ≤ 2 ^ (53 : Nat)) :
    ((ofNat part).div (ofNat whole)).eq zero = true ↔ part = 0 := by
  obtain ⟨hfits, hshare⟩ := share_eq_finite hpart hwhole hbits (by decide)
  rw [hshare, zero, signedZero, eq_finite_iff]
  constructor
  · intro hzero
    by_contra hne
    have hpos := shareUnits_pos hpart (Nat.pos_of_ne_zero hne) hbits
    omega
  · rintro rfl
    have hround := roundUnits_mul representable_zero (unitsOf_pos hwhole)
    rw [Nat.zero_mul] at hround
    rw [shareUnits, unitsOf_eq (Nat.zero_le _), Nat.zero_mul, Nat.zero_mul, hround]

/-- **Only the whole has the share one**, as long as it has at most 53 bits. -/
theorem share_eq_one_iff (hpart : part ≤ whole) (hwhole : 0 < whole)
    (hbits : whole ≤ 2 ^ (53 : Nat)) :
    ((ofNat part).div (ofNat whole)).eq one = true ↔ part = whole := by
  obtain ⟨hfits, hshare⟩ := share_eq_finite hpart hwhole hbits (by decide)
  rw [hshare, one_eq, eq_finite_iff]
  constructor
  · intro hone
    by_contra hne
    have hlt := shareUnits_lt (Nat.lt_of_le_of_ne hpart hne) hbits
    omega
  · rintro rfl
    rw [shareUnits, Nat.mul_comm]
    exact roundUnits_mul representable_unitsPerOne (unitsOf_pos hwhole)

end Share

end Sift.Binary64
