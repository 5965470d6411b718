import Sift.Record.Field
import Sift.Proofs.RoundingOrder

set_option autoImplicit false
set_option relaxedAutoImplicit false

/-!
# Finite numbers

Texts denote finite numbers only, and the numbers of records are finite, so the number of a field is
finite whatever the field holds. A finite number is known by its place on the line, except that the
two zeros share one.

## Main results

* `Sift.Binary64.eq_of_position?_eq` — finite numbers other than zero with one place are the same.
* `Sift.Numeral.isFinite_of_read?_eq_some`, `Sift.Numeral.isFinite_first` — numbers in texts.
* `Sift.Number.isFinite_toBinary64` — numbers of records.
* `Sift.Field.isFinite_amount` — **the number of a field is finite**.
-/

namespace Sift

namespace Binary64

variable {x y : Binary64}

/-! ## Places -/

lemma eq_iff_exists_position? :
    x.eq y = true ↔ ∃ place, x.position? = some place ∧ y.position? = some place := by
  rw [Binary64.eq]
  cases x.position? with
  | none => simp
  | some a =>
    cases y.position? with
    | none => simp
    | some b =>
      rw [beq_iff_eq]
      constructor
      · rintro rfl
        exact ⟨a, rfl, rfl⟩
      · rintro ⟨place, ha, hb⟩
        rw [← Option.some.injEq, ha, hb]

/-- A finite number has a place below the limit, on either side. -/
lemma exists_position?_of_isFinite (h : x.isFinite = true) :
    ∃ place : Int, x.position? = some place ∧ -limit < place ∧ place < limit := by
  cases x with
  | nan | infinite => exact Bool.noConfusion h
  | finite negative units hfits =>
    have hlimit : units < limit := hfits.1
    refine ⟨_, rfl, ?_⟩
    cases negative <;> simp only [Bool.false_eq_true, if_true, if_false] <;> omega

/-- **Finite numbers other than zero with one place are the same.** -/
theorem eq_of_position?_eq (hx : x.isFinite = true) (hy : y.isFinite = true)
    (hzero : x.isZero = false) (h : x.position? = y.position?) : x = y := by
  cases x with
  | nan | infinite => exact Bool.noConfusion hx
  | finite s a ha =>
    cases y with
    | nan | infinite => exact Bool.noConfusion hy
    | finite t b hb =>
      simp only [isZero, position?, beq_eq_false_iff_ne, ne_eq, Option.some.injEq] at h hzero
      -- only zero lies on both sides
      cases s <;> cases t <;> simp at h hzero ⊢ <;> omega

lemma isFinite_ofQuotient {num den : Nat} (h : roundUnits num den < limit) (negative : Bool) :
    (ofQuotient negative num den).isFinite = true := by
  rw [ofQuotient, dif_pos h]
  rfl

end Binary64

/-! ## Texts and records -/

namespace Numeral

lemma isFinite_of_read?_eq_some {s : String} {x : Binary64} (h : read? s = some x) :
    x.isFinite = true :=
  (Option.filter_eq_some_iff.1 h).2

lemma isFinite_first (s : String) : (first s).isFinite = true := by
  rw [first]
  cases hwhole : read? s with
  | some x => exact isFinite_of_read?_eq_some hwhole
  | none =>
    cases hword : (Text.words s).findSome? read? with
    | none => rfl
    | some x =>
      obtain ⟨word, -, hread⟩ := List.exists_of_findSome?_eq_some hword
      exact isFinite_of_read?_eq_some hread

end Numeral

/-- The numbers of records are finite: a whole number that fits 64 bits is far below the limit. -/
theorem Number.isFinite_toBinary64 (n : Number) : n.toBinary64.isFinite = true := by
  cases n with
  | float x hfinite => exact hfinite
  | integer value hword =>
    have hrange : value.natAbs ≤ 2 ^ (64 : Nat) := by
      obtain ⟨hlow, hhigh⟩ := hword
      omega
    have hlimit := Binary64.unitsOf_lt_limit hrange (by decide)
    rw [Binary64.unitsOf] at hlimit
    rw [toBinary64, Binary64.ofInt]
    exact Binary64.isFinite_ofQuotient hlimit _

/-- **The number of a field is finite**, whatever the field holds. -/
theorem Field.isFinite_amount (field : Option Json) : (amount field).isFinite = true := by
  unfold amount
  by_cases hfalsy : isFalsy field = true
  · rw [if_pos hfalsy]
    rfl
  · rw [if_neg hfalsy]
    rcases field with _ | v
    · rfl
    · cases v with
      | number n => exact n.isFinite_toBinary64
      | text s => exact Numeral.isFinite_first s
      | _ => rfl

end Sift
