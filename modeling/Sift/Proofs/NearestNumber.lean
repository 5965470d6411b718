import Mathlib.Algebra.Order.Field.Rat
import Mathlib.Data.Nat.Cast.Order.Field
import Mathlib.Tactic.FieldSimp
import Mathlib.Tactic.Linarith
import Mathlib.Tactic.Positivity
import Mathlib.Tactic.Ring
import Sift.Decimal.Basic
import Sift.Proofs.RoundingOrder

set_option autoImplicit false
set_option relaxedAutoImplicit false

/-!
# The nearest number

Rounding works on whole numbers: it cuts the bits off that do not fit, and it writes out no power of
ten that is too large or too small to matter. What it is for is said here without any of this. Among
the counts of units that have at most 53 significant bits there is a nearest one to every number,
and if two are as near as each other, it is the one whose last bit is zero. There cannot be two of
them, since between two such counts there is a third one that is nearer. The format ends at the
limit: what is rounded to it or beyond is infinite, and so is the middle between the greatest finite
number and the limit, since the last bit of that number is not zero.

## Main definitions

* `Sift.Binary64.IsShort`, `Sift.Binary64.IsEven` — the significant bits of a count of units.
* `Sift.Binary64.IsNearest` — the nearest count of units.
* `Sift.Binary64.IsRounding` — the nearest binary64 to a number with a sign and a magnitude.
* `Sift.Decimal.magnitude` — the value of a decimal without its sign.

## Main results

* `Sift.Binary64.isNearest_roundUnits` — rounding takes the nearest count of units.
* `Sift.Binary64.IsNearest.eq`, `Sift.Binary64.IsRounding.eq` — there is only one.
* `Sift.Binary64.IsRounding.isFinite_iff` — which numbers have a finite nearest binary64.
* `Sift.Binary64.IsRounding.eq_signedZero` — which ones have a zero.
* `Sift.Decimal.isRounding_nearest` — the nearest binary64 of a decimal.
-/

namespace Sift.Binary64

/-! ## Significant bits -/

/-- A count of units has at most 53 significant bits. It need not stay below the limit. -/
def IsShort (units : Nat) : Prop :=
  2 ^ (units.log2 - 52) ∣ units

/-- The last one of the 53 significant bits of a count of units is zero. -/
def IsEven (units : Nat) : Prop :=
  2 ^ (units.log2 - 52 + 1) ∣ units

lemma isShort_mul_two_pow {m : Nat} (h : m ≤ 2 ^ (53 : Nat)) (s : Nat) : IsShort (m * 2 ^ s) :=
  pow_log2_dvd h

/-- What is not a multiple of a power of two has its 53 bits below this power. -/
lemma IsShort.lt_of_not_dvd {units s : Nat} (h : IsShort units) (hs : ¬2 ^ s ∣ units) :
    units < 2 ^ (52 + s) := by
  have hlog : units.log2 < 52 + s := by
    by_contra hge
    have hle : s ≤ units.log2 - 52 := by omega
    exact hs (Nat.dvd_trans (Nat.pow_dvd_pow 2 hle) h)
  exact Nat.lt_of_lt_of_le Nat.lt_log2_self (Nat.pow_le_pow_right Nat.two_pos hlog)

/-- An even number of at most 53 bits is even at any place. -/
lemma isEven_mul_two_pow {m : Nat} (h : m ≤ 2 ^ (53 : Nat)) (heven : 2 ∣ m) (s : Nat) :
    IsEven (m * 2 ^ s) := by
  have hdvd : 2 ^ (s + 1) ∣ m * 2 ^ s := by
    rw [Nat.pow_succ, Nat.mul_comm m]
    exact Nat.mul_dvd_mul_left _ heven
  rcases Nat.lt_or_eq_of_le h with hlt | rfl
  · have hbits : m * 2 ^ s < 2 ^ (53 + s) := by
      rw [Nat.pow_add]
      exact Nat.mul_lt_mul_of_pos_right hlt (Nat.two_pow_pos s)
    rcases Nat.eq_zero_or_pos (m * 2 ^ s) with hzero | hpos
    · rw [hzero]
      exact Nat.dvd_zero _
    · have hlog : (m * 2 ^ s).log2 < 53 + s := (Nat.log2_lt (by omega)).2 hbits
      exact Nat.dvd_trans (Nat.pow_dvd_pow 2 (by omega)) hdvd
  · rw [IsEven, ← Nat.pow_add, Nat.log2_two_pow]
    exact Nat.pow_dvd_pow 2 (by omega)

/-! ## Nearest integers -/

/-- The nearest integer is no further away than one half, and where it is as far away as that, it is
even. -/
lemma natAbs_roundHalfEven_sub (num : Nat) {den : Nat} (hden : 0 < den) :
    2 * ((roundHalfEven num den * den : Nat) - num : Int).natAbs ≤ den ∧
      (2 * ((roundHalfEven num den * den : Nat) - num : Int).natAbs = den →
        2 ∣ roundHalfEven num den) := by
  have hdiv : num / den * den + num % den = num := Nat.div_add_mod' num den
  have hmod : num % den < den := Nat.mod_lt num hden
  simp only [roundHalfEven]
  split
  · omega
  · simp only [Nat.add_mul, Nat.one_mul]
    omega

/-- The distance of an integer from a quotient. -/
lemma abs_sub_div (k num : Nat) {den : Nat} (hden : 0 < den) :
    |(k : ℚ) - num / den| = ((k * den : Nat) - num : Int).natAbs / den := by
  have hpos : (0 : ℚ) < den := by exact_mod_cast hden
  have hscaled : ((k : ℚ) - num / den) * den = (((k * den : Nat) - num : Int) : ℚ) := by
    push_cast
    field_simp
  rw [eq_div_iff hpos.ne', Nat.cast_natAbs, Int.cast_abs, ← hscaled, abs_mul, abs_of_pos hpos]

lemma abs_roundHalfEven_sub_le (num : Nat) {den : Nat} (hden : 0 < den) :
    |(roundHalfEven num den : ℚ) - num / den| ≤ 1 / 2 := by
  have hpos : (0 : ℚ) < den := by exact_mod_cast hden
  have hhalf := (natAbs_roundHalfEven_sub num hden).1
  rw [abs_sub_div _ _ hden, div_le_iff₀ hpos]
  have hcast : (2 : ℚ) * ((roundHalfEven num den * den : Nat) - num : Int).natAbs ≤ den := by
    exact_mod_cast hhalf
  linarith

lemma dvd_roundHalfEven (num : Nat) {den : Nat} (hden : 0 < den)
    (h : |(roundHalfEven num den : ℚ) - num / den| = 1 / 2) : 2 ∣ roundHalfEven num den := by
  have hpos : (0 : ℚ) < den := by exact_mod_cast hden
  rw [abs_sub_div _ _ hden, div_eq_iff hpos.ne'] at h
  have hcast : (2 : ℚ) * ((roundHalfEven num den * den : Nat) - num : Int).natAbs = den := by
    linarith
  exact (natAbs_roundHalfEven_sub num hden).2 (by exact_mod_cast hcast)

section Half

variable {k m : Nat} {x : ℚ}

/-- Two integers have a step between them, so they cannot both be close to a number. -/
lemma one_le_abs_sub_add_abs_sub (h : k ≠ m) (x : ℚ) : 1 ≤ |(k : ℚ) - x| + |(m : ℚ) - x| := by
  have hstep : (1 : ℚ) ≤ |(k : ℚ) - m| := by
    have hne : (k : Int) - m ≠ 0 := by omega
    exact_mod_cast Int.one_le_abs hne
  calc (1 : ℚ) ≤ |(k : ℚ) - m| := hstep
    _ ≤ |(k : ℚ) - x| + |x - m| := abs_sub_le _ _ _
    _ = |(k : ℚ) - x| + |(m : ℚ) - x| := by rw [abs_sub_comm x]

variable (hm : |(m : ℚ) - x| ≤ 1 / 2)

include hm

/-- Within one half there is no nearer integer. -/
lemma abs_sub_le_of_le_half (k : Nat) : |(m : ℚ) - x| ≤ |(k : ℚ) - x| := by
  by_cases h : k = m
  · rw [h]
  · have hstep := one_le_abs_sub_add_abs_sub h x
    linarith

/-- Only at one half there is another one as near. -/
lemma eq_half_of_abs_sub_eq (h : k ≠ m) (heq : |(k : ℚ) - x| = |(m : ℚ) - x|) :
    |(m : ℚ) - x| = 1 / 2 := by
  have hstep := one_le_abs_sub_add_abs_sub h x
  linarith

end Half

/-! ## Nearest counts of units -/

/-- A count of units is the nearest one to a number `q` of units among those with at most 53
significant bits; if another one is as near, its last bit is zero. -/
structure IsNearest (q : ℚ) (units : Nat) : Prop where
  /-- There are at most 53 significant bits. -/
  isShort : IsShort units
  /-- No other such count is nearer. -/
  abs_sub_le : ∀ other, IsShort other → |(units : ℚ) - q| ≤ |(other : ℚ) - q|
  /-- Of two that are as near as each other, it is the even one. -/
  isEven : ∀ other, IsShort other → other ≠ units → |(other : ℚ) - q| = |(units : ℚ) - q| →
    IsEven units

section Rounding

variable (num : Nat) {den : Nat} (hden : 0 < den)

/-- What is left of a quotient when the bits that do not fit are cut off. -/
def leading (num den : Nat) : ℚ :=
  num / (den * 2 ^ surplusBits num den : Nat)

include hden

/-- The distance of a multiple of the last place. -/
lemma abs_mul_two_pow_sub (k : Nat) :
    |((k * 2 ^ surplusBits num den : Nat) : ℚ) - num / den| =
      |(k : ℚ) - leading num den| * 2 ^ surplusBits num den := by
  have hpos : (0 : ℚ) < den := by exact_mod_cast hden
  have hpow : (0 : ℚ) < 2 ^ surplusBits num den := by positivity
  have hscaled : ((k : ℚ) - leading num den) * 2 ^ surplusBits num den =
      (k * 2 ^ surplusBits num den : Nat) - num / den := by
    rw [leading]
    push_cast
    field_simp
  rw [← hscaled, abs_mul, abs_of_pos hpow]

/-- The rounding of a quotient is within half a unit of the last place. -/
lemma exists_roundUnits_eq :
    ∃ m ≤ 2 ^ (53 : Nat), roundUnits num den = m * 2 ^ surplusBits num den ∧
      |(m : ℚ) - leading num den| ≤ 1 / 2 ∧ (|(m : ℚ) - leading num den| = 1 / 2 → 2 ∣ m) := by
  have hpos : 0 < den * 2 ^ surplusBits num den := Nat.mul_pos hden (Nat.two_pow_pos _)
  exact ⟨roundHalfEven num (den * 2 ^ surplusBits num den),
    roundHalfEven_le_of_surplusBits num den, rfl, abs_roundHalfEven_sub_le num hpos,
    dvd_roundHalfEven num hpos⟩

/-- No multiple of the last place is nearer. -/
lemma abs_roundUnits_sub_le (k : Nat) :
    |(roundUnits num den : ℚ) - num / den| ≤
      |((k * 2 ^ surplusBits num den : Nat) : ℚ) - num / den| := by
  obtain ⟨m, -, hround, hhalf, -⟩ := exists_roundUnits_eq num hden
  rw [hround, abs_mul_two_pow_sub num hden, abs_mul_two_pow_sub num hden]
  exact mul_le_mul_of_nonneg_right (abs_sub_le_of_le_half hhalf k) (by positivity)

/-- A count with bits below the last place of a quotient is further away, since the quotient has its
53 bits above them. -/
lemma abs_roundUnits_sub_lt {other : Nat} (hother : IsShort other)
    (hdvd : ¬2 ^ surplusBits num den ∣ other) :
    |(roundUnits num den : ℚ) - num / den| < |(other : ℚ) - num / den| := by
  have hpos : 0 < surplusBits num den := by
    by_contra hzero
    have hone : surplusBits num den = 0 := by omega
    exact hdvd (hone ▸ Nat.one_dvd other)
  have hlog : (num / den).log2 = 52 + surplusBits num den := by
    simp only [surplusBits] at hpos ⊢
    omega
  have hfloor : 2 ^ (52 + surplusBits num den) ≤ num / den := by
    rw [← hlog]
    refine Nat.log2_self_le fun hzero => ?_
    rw [hzero, Nat.log2_zero] at hlog
    omega
  have hbound : ((2 ^ (52 + surplusBits num den) : Nat) : ℚ) ≤ num / den :=
    (Nat.cast_le.2 hfloor).trans Nat.cast_div_le
  have hlt : (other : ℚ) < (2 ^ (52 + surplusBits num den) : Nat) :=
    Nat.cast_lt.2 (hother.lt_of_not_dvd hdvd)
  have hnearest := abs_roundUnits_sub_le num hden (2 ^ (52 : Nat))
  rw [← Nat.pow_add, abs_of_nonpos (a := ((2 ^ (52 + surplusBits num den) : Nat) : ℚ) - num / den)
    (by linarith)] at hnearest
  rw [abs_of_nonpos (a := (other : ℚ) - num / den) (by linarith)]
  linarith

/-- **Rounding takes the nearest count of units**, and the even one of two. -/
theorem isNearest_roundUnits : IsNearest (num / den) (roundUnits num den) := by
  obtain ⟨m, hm, hround, hhalf, heven⟩ := exists_roundUnits_eq num hden
  constructor
  · rw [hround]
    exact isShort_mul_two_pow hm _
  · intro other hother
    by_cases hdvd : 2 ^ surplusBits num den ∣ other
    · obtain ⟨k, rfl⟩ := hdvd
      rw [Nat.mul_comm]
      exact abs_roundUnits_sub_le num hden k
    · exact (abs_roundUnits_sub_lt num hden hother hdvd).le
  · intro other hother hne heq
    have hdvd : 2 ^ surplusBits num den ∣ other := by
      by_contra hnot
      exact absurd heq (abs_roundUnits_sub_lt num hden hother hnot).ne'
    obtain ⟨k, rfl⟩ := hdvd
    have hpow : (0 : ℚ) < 2 ^ surplusBits num den := by positivity
    rw [Nat.mul_comm, hround] at hne heq
    rw [abs_mul_two_pow_sub num hden, abs_mul_two_pow_sub num hden,
      mul_left_inj' hpow.ne'] at heq
    have hk : k ≠ m := fun h => hne (h ▸ rfl)
    rw [hround]
    exact isEven_mul_two_pow hm (heven (eq_half_of_abs_sub_eq hhalf hk heq)) _

end Rounding

/-! ## There is only one -/

section Nearest

variable {q : ℚ} {units : Nat} (h : IsNearest q units)

include h

/-- What has few bits and does not lie above a number does not lie above the nearest count. -/
lemma IsNearest.le {other : Nat} (hother : IsShort other) (hle : (other : ℚ) ≤ q) :
    other ≤ units := by
  have hnear := h.abs_sub_le other hother
  have hlow : q - units ≤ |(units : ℚ) - q| := by
    rw [abs_sub_comm]
    exact le_abs_self _
  rw [abs_of_nonpos (a := (other : ℚ) - q) (by linarith)] at hnear
  have hcast : (other : ℚ) ≤ units := by linarith
  exact_mod_cast hcast

/-- What has few bits and does not lie below a number does not lie below the nearest count. -/
lemma IsNearest.ge {other : Nat} (hother : IsShort other) (hle : q ≤ other) : units ≤ other := by
  have hnear := h.abs_sub_le other hother
  have hhigh : units - q ≤ |(units : ℚ) - q| := le_abs_self _
  rw [abs_of_nonneg (a := (other : ℚ) - q) (by linarith)] at hnear
  have hcast : (units : ℚ) ≤ other := by linarith
  exact_mod_cast hcast

end Nearest

/-- Between two even counts there is another one with few bits: the first one and one unit of its
last place. -/
lemma exists_isShort_between {units units' : Nat} (heven : IsEven units) (heven' : IsEven units')
    (hlt : units < units') : ∃ other, IsShort other ∧ units < other ∧ other < units' := by
  obtain ⟨s, hs⟩ : ∃ s, units.log2 - 52 = s := ⟨_, rfl⟩
  have hlog : units.log2 ≤ units'.log2 := by
    rw [Nat.log2_eq_log_two, Nat.log2_eq_log_two]
    exact Nat.log_mono_right hlt.le
  have hdvd' : 2 ^ (s + 1) ∣ units' :=
    Nat.dvd_trans (Nat.pow_dvd_pow 2 (by omega)) heven'
  obtain ⟨c, hc⟩ : 2 ^ (s + 1) ∣ units := hs ▸ heven
  obtain ⟨c', hc'⟩ := hdvd'
  have hbits : 2 * c + 1 ≤ 2 ^ (53 : Nat) := by
    have hsize : units < 2 ^ (53 : Nat) * 2 ^ s := by
      rw [← Nat.pow_add]
      exact Nat.lt_of_lt_of_le Nat.lt_log2_self (Nat.pow_le_pow_right Nat.two_pos (by omega))
    rw [hc, Nat.pow_succ, Nat.mul_assoc, Nat.mul_comm] at hsize
    exact Nat.lt_of_mul_lt_mul_right hsize
  have hstep : c + 1 ≤ c' := by
    rw [hc, hc'] at hlt
    exact Nat.lt_of_mul_lt_mul_left hlt
  have hpow : 0 < 2 ^ s := Nat.two_pow_pos s
  refine ⟨(2 * c + 1) * 2 ^ s, isShort_mul_two_pow hbits s, ?_, ?_⟩
  · calc units = 2 * c * 2 ^ s := by rw [hc, Nat.pow_succ]; ac_rfl
      _ < (2 * c + 1) * 2 ^ s := Nat.mul_lt_mul_of_pos_right (by omega) hpow
  · calc (2 * c + 1) * 2 ^ s < 2 * c' * 2 ^ s := Nat.mul_lt_mul_of_pos_right (by omega) hpow
      _ = units' := by rw [hc', Nat.pow_succ]; ac_rfl

lemma IsNearest.not_lt {q : ℚ} {units units' : Nat} (h : IsNearest q units)
    (h' : IsNearest q units') : ¬units < units' := by
  intro hlt
  have hdistance : |(units : ℚ) - q| = |(units' : ℚ) - q| :=
    le_antisymm (h.abs_sub_le _ h'.isShort) (h'.abs_sub_le _ h.isShort)
  obtain ⟨other, hother, hlow, hhigh⟩ := exists_isShort_between
    (h.isEven _ h'.isShort hlt.ne' hdistance.symm) (h'.isEven _ h.isShort hlt.ne hdistance) hlt
  have hlt' : (units : ℚ) < units' := by exact_mod_cast hlt
  have hlow' : (units : ℚ) < other := by exact_mod_cast hlow
  have hhigh' : (other : ℚ) < units' := by exact_mod_cast hhigh
  -- the number lies in the middle of the two, so what is between them is nearer
  have hmiddle : (units : ℚ) - q = -(units' - q) := by
    rcases abs_eq_abs.1 hdistance with heq | heq
    · linarith
    · exact heq
  have hnear := h.abs_sub_le other hother
  rw [abs_of_neg (a := (units : ℚ) - q) (by linarith), le_abs] at hnear
  rcases hnear with hnear | hnear <;> linarith

/-- **There is one nearest count of units.** -/
theorem IsNearest.eq {q : ℚ} {units units' : Nat} (h : IsNearest q units)
    (h' : IsNearest q units') : units = units' :=
  Nat.le_antisymm (Nat.not_lt.1 (h'.not_lt h)) (Nat.not_lt.1 (h.not_lt h'))

/-! ## Where the format ends -/

/-- Nothing is nearer to what lies within half a unit than no units at all. -/
lemma isNearest_zero {q : ℚ} (hnonneg : 0 ≤ q) (hhalf : q ≤ 1 / 2) : IsNearest q 0 := by
  refine ⟨Nat.dvd_zero _, fun other _ => ?_, fun _ _ _ _ => Nat.dvd_zero _⟩
  refine abs_sub_le_of_le_half ?_ other
  rwa [Nat.cast_zero, zero_sub, abs_neg, abs_of_nonneg hnonneg]

/-- The place of the last bit of the greatest finite number. -/
@[irreducible] def lastPlace : Nat := 971 + places

/-- The units of the greatest finite number: 53 bits, all of them one. -/
def greatest : Nat := (2 ^ (53 : Nat) - 1) * 2 ^ lastPlace

lemma limit_eq : limit = 2 ^ (53 : Nat) * 2 ^ lastPlace := by
  rw [limit, lastPlace, ← Nat.pow_add, ← Nat.add_assoc]

lemma isShort_limit : IsShort limit :=
  limit_eq ▸ isShort_mul_two_pow le_rfl lastPlace

lemma isShort_greatest : IsShort greatest :=
  isShort_mul_two_pow (Nat.sub_le _ _) lastPlace

lemma not_isEven_greatest : ¬IsEven greatest := by
  have hlog : greatest.log2 = 52 + lastPlace := by
    have hne : greatest ≠ 0 := Nat.mul_ne_zero (by decide) (Nat.two_pow_pos _).ne'
    rw [Nat.log2_eq_iff hne, greatest, Nat.pow_add, Nat.add_right_comm, Nat.pow_add]
    exact ⟨Nat.mul_le_mul_right _ (by decide),
      Nat.mul_lt_mul_of_pos_right (by decide) (Nat.two_pow_pos _)⟩
  rw [IsEven, hlog, Nat.add_sub_cancel_left, greatest, Nat.pow_succ, Nat.mul_comm,
    Nat.mul_dvd_mul_iff_right (Nat.two_pow_pos _)]
  decide

/-- No count with few bits lies between the greatest finite number and the limit. -/
lemma IsShort.le_greatest {units : Nat} (h : IsShort units) (hlt : units < limit) :
    units ≤ greatest := by
  by_cases hdvd : 2 ^ lastPlace ∣ units
  · obtain ⟨k, rfl⟩ := hdvd
    rw [limit_eq, Nat.mul_comm] at hlt
    have hk : k < 2 ^ (53 : Nat) := Nat.lt_of_mul_lt_mul_right hlt
    rw [greatest, Nat.mul_comm]
    exact Nat.mul_le_mul_right _ (by omega)
  · refine (h.lt_of_not_dvd hdvd).le.trans ?_
    rw [greatest, Nat.pow_add]
    exact Nat.mul_le_mul_right _ (by decide)

/-- **The nearest count reaches the limit** from the middle between the greatest finite number and
the limit on: the middle itself goes to the limit, since the greatest finite number is odd. -/
theorem IsNearest.limit_le_iff {q : ℚ} {units : Nat} (h : IsNearest q units) :
    limit ≤ units ↔ ((greatest : ℚ) + limit) / 2 ≤ q := by
  have hgreatest : (greatest : ℚ) < limit := by
    rw [Nat.cast_lt, limit_eq, greatest]
    exact Nat.mul_lt_mul_of_pos_right (by decide) (Nat.two_pow_pos _)
  constructor
  · intro hunits
    by_contra hlt
    have hunits' : (limit : ℚ) ≤ units := by exact_mod_cast hunits
    by_cases hq : q ≤ greatest
    · have hle : (units : ℚ) ≤ greatest := by exact_mod_cast h.ge isShort_greatest hq
      linarith
    · have hnear := h.abs_sub_le greatest isShort_greatest
      rw [abs_of_nonneg (a := (units : ℚ) - q) (by linarith),
        abs_of_neg (a := (greatest : ℚ) - q) (by linarith)] at hnear
      linarith
  · intro hq
    by_contra hunits
    have hle : (units : ℚ) ≤ greatest := by
      exact_mod_cast h.isShort.le_greatest (by omega)
    have hlimit : q < limit := by
      by_contra hge
      exact hunits (h.le isShort_limit (by linarith))
    have hnear := h.abs_sub_le limit isShort_limit
    rw [abs_of_neg (a := (units : ℚ) - q) (by linarith),
      abs_of_pos (a := (limit : ℚ) - q) (by linarith)] at hnear
    -- both are equally far away, which leaves the greatest finite number only
    have hgreatest' : units = greatest := by
      have hcast : (units : ℚ) = greatest := by linarith
      exact_mod_cast hcast
    have heven : IsEven units := by
      refine h.isEven limit isShort_limit (by omega) ?_
      rw [abs_of_neg (a := (units : ℚ) - q) (by linarith),
        abs_of_pos (a := (limit : ℚ) - q) (by linarith)]
      linarith
    exact not_isEven_greatest (hgreatest' ▸ heven)

/-! ## Nearest numbers -/

-- the powers of two that these stand for are far too large to be written out
attribute [local irreducible] limit places unitsPerOne

/-- A binary64 is the nearest one to a number with a given sign and magnitude: it has the sign, and
its units are the nearest count of them, where counts from the limit on are infinite. -/
inductive IsRounding (negative : Bool) (magnitude : ℚ) : Binary64 → Prop
  | finite {units : Nat} (fits : Representable units)
      (h : IsNearest (magnitude * unitsPerOne) units) :
      IsRounding negative magnitude (finite negative units fits)
  | infinite {units : Nat} (h : IsNearest (magnitude * unitsPerOne) units)
      (hlimit : limit ≤ units) : IsRounding negative magnitude (infinite negative)

/-- **The rounding of a quotient** is the binary64 nearest to it. -/
theorem isRounding_ofQuotient (negative : Bool) {num den : Nat} (hden : 0 < den) {magnitude : ℚ}
    (h : magnitude * unitsPerOne = num / den) :
    IsRounding negative magnitude (ofQuotient negative num den) := by
  have hnearest := isNearest_roundUnits num hden
  rw [← h] at hnearest
  by_cases hlimit : roundUnits num den < limit
  · rw [ofQuotient, dif_pos hlimit]
    exact .finite _ hnearest
  · rw [ofQuotient, dif_neg hlimit]
    exact .infinite hnearest (Nat.not_lt.1 hlimit)

section IsRounding

variable {negative : Bool} {magnitude : ℚ} {x : Binary64}

/-- **There is one nearest binary64.** -/
theorem IsRounding.eq {y : Binary64} (hx : x.IsRounding negative magnitude)
    (hy : y.IsRounding negative magnitude) : x = y := by
  cases hx with
  | finite fits h =>
    cases hy with
    | finite fits' h' =>
      obtain rfl := h.eq h'
      rfl
    | infinite h' hlimit =>
      obtain rfl := h.eq h'
      exact absurd fits.1 (Nat.not_lt.2 hlimit)
  | infinite h hlimit =>
    cases hy with
    | finite fits' h' =>
      obtain rfl := h.eq h'
      exact absurd fits'.1 (Nat.not_lt.2 hlimit)
    | infinite h' _ => rfl

lemma two_pow_add_places (k : Nat) : 2 ^ (k + places) = 2 ^ k * unitsPerOne := by
  rw [unitsPerOne, Nat.pow_add]

/-- The middle between the greatest finite number and the limit, in units. -/
lemma middle_eq : ((greatest : ℚ) + limit) / 2 = (2 ^ 1024 - 2 ^ 970) * unitsPerOne := by
  have hlast : ((2 ^ lastPlace : Nat) : ℚ) = 2 ^ 971 * unitsPerOne := by
    rw [lastPlace, two_pow_add_places, Nat.cast_mul, Nat.cast_pow, Nat.cast_two]
  have hpow : (2 : ℚ) ^ 971 = 2 ^ 1 * 2 ^ 970 := pow_add 2 1 970
  have hpow' : (2 : ℚ) ^ 1024 = 2 ^ 54 * 2 ^ 970 := pow_add 2 54 970
  rw [limit_eq, greatest, Nat.cast_mul, Nat.cast_mul, hlast, hpow, hpow']
  generalize (2 : ℚ) ^ 970 = t
  push_cast
  ring

/-- **The nearest binary64 is finite** below the middle between the greatest finite number and
`2 ^ 1024`. -/
theorem IsRounding.isFinite_iff (h : x.IsRounding negative magnitude) :
    x.isFinite = true ↔ magnitude < 2 ^ 1024 - 2 ^ 970 := by
  have hpos : (0 : ℚ) < unitsPerOne := by exact_mod_cast unitsPerOne_pos
  have hlimit {units : Nat} (hunits : IsNearest (magnitude * unitsPerOne) units) :
      units < limit ↔ magnitude < 2 ^ 1024 - 2 ^ 970 := by
    rw [← Nat.not_le, hunits.limit_le_iff, middle_eq, mul_le_mul_iff_left₀ hpos, not_le]
  cases h with
  | finite fits h =>
    rw [← hlimit h]
    exact iff_of_true rfl fits.1
  | infinite h hle =>
    rw [← hlimit h]
    exact iff_of_false Bool.false_ne_true (Nat.not_lt.2 hle)

/-- **Up to half a unit the nearest binary64 is zero.** -/
theorem IsRounding.eq_signedZero (h : x.IsRounding negative magnitude) (hnonneg : 0 ≤ magnitude)
    (hle : magnitude ≤ 2⁻¹ ^ 1075) : x = signedZero negative := by
  have hhalf : magnitude * unitsPerOne ≤ 1 / 2 := by
    have hpow : ((2 : ℚ)⁻¹ ^ 1075) * unitsPerOne = 1 / 2 := by
      rw [unitsPerOne, places, Nat.cast_pow, Nat.cast_two, inv_pow, pow_add (2 : ℚ) 1 1074]
      field_simp
    exact hpow ▸ mul_le_mul_of_nonneg_right hle (Nat.cast_nonneg _)
  exact h.eq (.finite _ (isNearest_zero (mul_nonneg hnonneg (Nat.cast_nonneg _)) hhalf))

end IsRounding

end Sift.Binary64

namespace Sift.Decimal

open Sift.Binary64

attribute [local irreducible] limit places unitsPerOne

/-- The magnitude of a decimal, whatever its sign. -/
def magnitude (d : Decimal) : ℚ :=
  d.coefficient * 10 ^ d.exponent

/-- From a power of ten on that exceeds all finite numbers, all multiples lie beyond the limit. -/
lemma limit_le_mul {coefficient k e : Nat} (hpos : 0 < coefficient)
    (hk : 2 ^ (1024 : Nat) ≤ 10 ^ k) (he : k ≤ e) :
    limit ≤ coefficient * 10 ^ e * unitsPerOne := by
  calc limit = 2 ^ (1024 : Nat) * unitsPerOne := by rw [limit, two_pow_add_places]
    _ ≤ 10 ^ k * unitsPerOne := Nat.mul_le_mul_right _ hk
    _ ≤ 10 ^ e * unitsPerOne := Nat.mul_le_mul_right _ (Nat.pow_le_pow_right (by decide) he)
    _ ≤ coefficient * 10 ^ e * unitsPerOne :=
        Nat.mul_le_mul_right _ (Nat.le_mul_of_pos_left _ hpos)

/-- A coefficient that is small for its negative power of ten comes to less than half a unit. -/
lemma two_mul_le_ten_pow {coefficient k : Nat} (h : coefficient.log2 + 1080 < 3 * k) :
    2 * (coefficient * unitsPerOne) ≤ 10 ^ k := by
  have hbits : coefficient ≤ 2 ^ (coefficient.log2 + 1) := Nat.lt_log2_self.le
  calc 2 * (coefficient * unitsPerOne)
      ≤ 2 * (2 ^ (coefficient.log2 + 1) * unitsPerOne) :=
        Nat.mul_le_mul_left 2 (Nat.mul_le_mul_right _ hbits)
    _ = 2 ^ (coefficient.log2 + 1 + places + 1) := by rw [← two_pow_add_places, Nat.pow_succ']
    _ ≤ 2 ^ (3 * k) := Nat.pow_le_pow_right Nat.two_pos (by rw [places]; omega)
    _ = 8 ^ k := Nat.pow_mul 2 3 k
    _ ≤ 10 ^ k := Nat.pow_le_pow_left (by decide) k

/-- **The nearest binary64 of a decimal** is the one that is nearest to its value, also where the
power of ten is not written out. -/
theorem isRounding_nearest (d : Decimal) : d.nearest.IsRounding d.negative d.magnitude := by
  obtain ⟨negative, coefficient, exponent⟩ := d
  cases exponent with
  | ofNat e =>
    have hscaled : magnitude ⟨negative, coefficient, .ofNat e⟩ * unitsPerOne =
        (coefficient * 10 ^ e * unitsPerOne : Nat) / (1 : Nat) := by
      rw [magnitude, Int.ofNat_eq_natCast, zpow_natCast]
      push_cast
      rw [div_one]
    simp only [nearest]
    split_ifs with hzero hlarge
    · refine .finite _ ?_
      rw [hscaled, hzero, Nat.zero_mul, Nat.zero_mul, Nat.cast_zero, zero_div]
      exact isNearest_zero le_rfl (by norm_num)
    · have hnearest := isNearest_roundUnits (coefficient * 10 ^ e * unitsPerOne) Nat.one_pos
      have hle := limit_le_mul (Nat.pos_of_ne_zero hzero) (by decide +kernel) hlarge
      refine .infinite (hscaled ▸ hnearest) (hnearest.le isShort_limit ?_)
      rw [Nat.cast_one, div_one]
      exact_mod_cast hle
    · exact isRounding_ofQuotient negative Nat.one_pos hscaled
  | negSucc e =>
    have hpow : 0 < 10 ^ (e + 1) := Nat.pow_pos (by decide)
    have hscaled : magnitude ⟨negative, coefficient, .negSucc e⟩ * unitsPerOne =
        (coefficient * unitsPerOne : Nat) / (10 ^ (e + 1) : Nat) := by
      rw [magnitude, zpow_negSucc]
      push_cast
      field_simp
    simp only [nearest]
    split_ifs with hsmall
    · refine .finite _ ?_
      rw [hscaled]
      have hpos : (0 : ℚ) < (10 ^ (e + 1) : Nat) := by exact_mod_cast hpow
      have hhalf : (2 : ℚ) * (coefficient * unitsPerOne : Nat) ≤ (10 ^ (e + 1) : Nat) := by
        exact_mod_cast two_mul_le_ten_pow hsmall
      refine isNearest_zero (by positivity) ?_
      rw [div_le_iff₀ hpos]
      linarith
    · exact isRounding_ofQuotient negative hpow hscaled

end Sift.Decimal
