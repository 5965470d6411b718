import Sift.Proofs.ShortestText

set_option autoImplicit false
set_option relaxedAutoImplicit false

/-!
# Texts of whole numbers

A binary64 that is a whole number of up to 53 bits has the text of that whole number: all its
digits, no point and no power of ten. The search for the shortest decimal tries one digit first, then
two, and may end before it has tried all the digits of the number. But what it finds until then is a
whole multiple of a power of ten, and the number is the only such multiple that stands for it: it is
the only whole number that is rounded to it, apart from `2 ^ 53 + 1`, which is odd. So at the end
there are only zeros missing, and these are written again.

## Main definitions

* `Sift.Decimal.Spells` — a decimal with the digits of a natural number, its zeros at the end aside.

## Main results

* `Sift.Binary64.eq_or_eq_of_unitsOf_eq` — which natural numbers are rounded to one of up to 53
  bits.
* `Sift.Decimal.spells_of_withDigits?`, `Sift.Decimal.withDigits?_length` — what the search finds,
  and that it finds something as soon as there are enough digits.
* `Sift.Decimal.shortest_spells` — so the shortest decimal of a natural number spells it.
* `Sift.Binary64.text_ofInt` — the text of a whole number.
-/

namespace Sift

namespace Binary64

/-! ## Rounding of natural numbers -/

/-- The second natural number beyond the range in which all fit is even, so that it fits too. -/
lemma unitsOf_two_pow_add_two :
    unitsOf (2 ^ (53 : Nat) + 2) = (2 ^ (53 : Nat) + 2) * unitsPerOne := by
  have hshift : (2 ^ (53 : Nat) + 2) * unitsPerOne = (2 ^ (52 : Nat) + 1) * 2 ^ (places + 1) := by
    have hhalf : 2 ^ (53 : Nat) + 2 = (2 ^ (52 : Nat) + 1) * 2 := by decide
    rw [unitsPerOne, hhalf, Nat.mul_assoc, ← Nat.pow_succ']
  have hlimit : (2 ^ (53 : Nat) + 2) * unitsPerOne < limit :=
    Nat.lt_of_le_of_lt (Nat.mul_le_mul_right unitsPerOne (by decide))
      (two_pow_mul_unitsPerOne_lt (k := 54) (by decide))
  have hfits : Representable ((2 ^ (53 : Nat) + 2) * unitsPerOne) := by
    rw [hshift] at hlimit ⊢
    exact representable_mul_two_pow (by decide) hlimit
  have hround := roundUnits_mul hfits Nat.one_pos
  rwa [Nat.mul_one] at hround

/-- **A natural number that is rounded to one of up to 53 bits** is that number itself, or the odd
number that follows them all. -/
theorem eq_or_eq_of_unitsOf_eq {k m : Nat} (hm : m ≤ 2 ^ (53 : Nat))
    (h : unitsOf k = m * unitsPerOne) : k = m ∨ k = 2 ^ (53 : Nat) + 1 := by
  rcases Nat.lt_or_ge (2 ^ (53 : Nat)) k with hlarge | hsmall
  · by_contra hne
    have hbeyond : 2 ^ (53 : Nat) + 2 ≤ k := by omega
    have hmono := unitsOf_mono hbeyond
    rw [unitsOf_two_pow_add_two, h] at hmono
    have hle : 2 ^ (53 : Nat) + 2 ≤ m := Nat.le_of_mul_le_mul_right hmono unitsPerOne_pos
    omega
  · rw [unitsOf_eq hsmall] at h
    exact Or.inl (Nat.eq_of_mul_eq_mul_right unitsPerOne_pos h)

end Binary64

open Sift.Text

namespace Decimal

/-! ## Decimals that spell a natural number -/

/-- A decimal is written with the digits of a natural number: its power of ten is the zeros at their
end. -/
def Spells (d : Decimal) (m : Nat) : Prop :=
  ∃ q p : Nat, d = ⟨false, q, p⟩ ∧ q * 10 ^ p = m

/-- With either sign, what spells a natural number is written as that number is. -/
lemma Spells.chars_eq {d : Decimal} {m : Nat} (h : d.Spells m) (hm : 0 < m) (negative : Bool) :
    chars { d with negative } = chars ⟨negative, m, 0⟩ := by
  obtain ⟨q, p, rfl, rfl⟩ := h
  have hq : 0 < q := Nat.pos_of_mul_pos_right hm
  have hdigits := digitsOfNat_append_replicate hq p
  have hzeros : digitsOfNat (q * 10 ^ p) ++ List.replicate 0 '0' = digitsOfNat (q * 10 ^ p) :=
    List.append_nil _
  simp only [chars, hdigits, hzeros]

/-- The neighbour above is one more multiple of the power of ten. -/
lemma exists_next_eq (digits n p : Nat) :
    ∃ q e : Nat, next digits n p = ⟨false, q, e⟩ ∧ q * 10 ^ e = (n + 1) * 10 ^ p := by
  rw [next]
  split_ifs with hcarry
  · refine ⟨1, p + digits, rfl, ?_⟩
    rw [hcarry, Nat.one_mul, Nat.pow_add, Nat.mul_comm]
  · exact ⟨n + 1, p, rfl, rfl⟩

section Search

variable {m : Nat} (hm : m ≤ 2 ^ (53 : Nat)) (hpos : 0 < m)

include hm hpos

/-- A whole decimal that stands for a natural number of up to 53 bits spells it, or the odd number
that follows them all. -/
lemma eq_or_eq_of_position?_eq {q p : Nat}
    (h : (nearest ⟨false, q, p⟩).position? = some (m * Binary64.unitsPerOne : Nat)) :
    q * 10 ^ p = m ∨ q * 10 ^ p = 2 ^ (53 : Nat) + 1 := by
  have hfits := Binary64.representable_natural hm
  have hunits : 0 < m * Binary64.unitsPerOne := Nat.mul_pos hpos Binary64.unitsPerOne_pos
  have hnearest := nearest_eq_finite_of_position? hfits hunits h
  have hspread := nearest_spread (d := ⟨false, q, p⟩) (by rw [hnearest]; rfl)
  have hwhole : spread ⟨false, q, p⟩ = ⟨false, q * 10 ^ p, 0⟩ := rfl
  rw [hwhole, nearest_whole, hnearest, Binary64.ofQuotient] at hspread
  split at hspread
  · exact Binary64.eq_or_eq_of_unitsOf_eq hm (Binary64.finite.inj hspread).2
  · exact Binary64.noConfusion hspread

omit hm in
/-- A natural number has its first digit at the power of ten that its length says. -/
lemma leadingPower_natural :
    leadingPower (m * Binary64.unitsPerOne) = (digitsOfNat m).length - 1 := by
  have hone : Binary64.unitsPerOne ≤ m * Binary64.unitsPerOne :=
    Nat.le_mul_of_pos_left Binary64.unitsPerOne hpos
  rw [leadingPower, if_pos hone, Nat.mul_div_cancel m Binary64.unitsPerOne_pos]

omit hm in
/-- With fewer digits than a natural number has, its neighbours are multiples of a power of ten. -/
lemma withDigits?_natural {digits p : Nat} (hlength : (digitsOfNat m).length = digits + p) :
    withDigits? (m * Binary64.unitsPerOne) digits =
      (if 2 * (m % 10 ^ p) < 10 ^ p then [⟨false, m / 10 ^ p, p⟩, next digits (m / 10 ^ p) p]
        else [next digits (m / 10 ^ p) p, ⟨false, m / 10 ^ p, p⟩]).find? fun d =>
          d.nearest.position? == some ((m * Binary64.unitsPerOne : Nat) : Int) := by
  have hpower : leadingPower (m * Binary64.unitsPerOne) - digits + 1 = (p : Int) := by
    rw [leadingPower_natural hpos, hlength]
    omega
  have hscaled : scaled (m * Binary64.unitsPerOne) p =
      (Binary64.unitsPerOne * m, Binary64.unitsPerOne * 10 ^ p) := by
    rw [Nat.mul_comm m]
    rfl
  have hmod : 2 * (Binary64.unitsPerOne * (m % 10 ^ p)) < Binary64.unitsPerOne * 10 ^ p ↔
      2 * (m % 10 ^ p) < 10 ^ p := by
    rw [Nat.mul_left_comm, Nat.mul_lt_mul_left Binary64.unitsPerOne_pos]
  rw [withDigits?_eq hpower hscaled, Nat.mul_div_mul_left _ _ Binary64.unitsPerOne_pos,
    Nat.mul_mod_mul_left]
  simp only [hmod]

/-- With all its digits a natural number stands for itself, and the search finds that. -/
lemma withDigits?_length :
    withDigits? (m * Binary64.unitsPerOne) (digitsOfNat m).length = some ⟨false, m, 0⟩ := by
  have hround := Binary64.ofQuotient_mul false (Binary64.representable_natural hm) Nat.one_pos
  rw [Nat.mul_one] at hround
  have hstands :
      (nearest ⟨false, m, 0⟩).position? = some ((m * Binary64.unitsPerOne : Nat) : Int) := by
    rw [nearest_whole, hround]
    rfl
  have hnear : 2 * (m % 10 ^ 0) < 10 ^ 0 := by
    rw [Nat.pow_zero, Nat.mod_one]
    decide
  rw [withDigits?_natural hpos (Nat.add_zero _).symm, if_pos hnear, Nat.pow_zero, Nat.div_one,
    List.find?_cons]
  simp only [Int.natCast_zero, hstands, beq_self_eq_true]

/-- **What the search finds spells the number**, as long as there are not more digits than the
number has. -/
theorem spells_of_withDigits? {digits p : Nat} (hlength : (digitsOfNat m).length = digits + p)
    {d : Decimal} (h : withDigits? (m * Binary64.unitsPerOne) digits = some d) : d.Spells m := by
  have hstands := position?_of_withDigits? h
  cases p with
  | zero =>
    rw [Nat.add_zero] at hlength
    rw [← hlength, withDigits?_length hm hpos, Option.some.injEq] at h
    exact ⟨m, 0, h.symm, Nat.mul_one m⟩
  | succ p =>
    have hpow : 0 < 10 ^ (p + 1) := Nat.pow_pos (by decide)
    have hbelow : m / 10 ^ (p + 1) * 10 ^ (p + 1) ≤ m := Nat.div_mul_le_self _ _
    have habove : m < (m / 10 ^ (p + 1) + 1) * 10 ^ (p + 1) := by
      rw [Nat.mul_comm]
      exact Nat.lt_mul_div_succ m hpow
    have hmem : d = ⟨false, m / 10 ^ (p + 1), (p + 1 : Nat)⟩ ∨
        d = next digits (m / 10 ^ (p + 1)) (p + 1 : Nat) := by
      rw [withDigits?_natural hpos hlength] at h
      have hfound := List.mem_of_find?_eq_some h
      split at hfound
      · exact List.mem_pair.1 hfound
      · exact (List.mem_pair.1 hfound).symm
    rcases hmem with rfl | rfl
    · rcases eq_or_eq_of_position?_eq hm hpos hstands with hexact | hodd
      · exact ⟨_, _, rfl, hexact⟩
      · omega
    · obtain ⟨q, e, hnext, hvalue⟩ := exists_next_eq digits (m / 10 ^ (p + 1)) (p + 1)
      rw [hnext] at hstands ⊢
      -- a multiple of ten above the number is neither the number nor the odd one
      rcases eq_or_eq_of_position?_eq hm hpos hstands with hexact | hodd
      · omega
      · rw [hvalue, Nat.pow_succ, ← Nat.mul_assoc] at hodd
        omega

end Search

/-- A search through the natural numbers goes no further than the first that gives a result, so not
beyond any that does. -/
lemma exists_findSome?_range_eq {α : Type} {f : Nat → Option α} {a n : Nat} {b : α} (ha : a < n)
    (hresult : f a = some b) :
    ∃ i ≤ a, ∃ c, f i = some c ∧ (List.range n).findSome? f = some c := by
  obtain ⟨c, hc⟩ : ∃ c, (List.range n).findSome? f = some c := by
    rw [← Option.isSome_iff_exists, List.findSome?_isSome_iff]
    exact ⟨a, List.mem_range.2 ha, by rw [hresult]; rfl⟩
  obtain ⟨before, i, after, hsplit, hi, hnone⟩ := List.findSome?_eq_some_iff.1 hc
  refine ⟨i, ?_, c, hi, hc⟩
  have hsorted : (before ++ i :: after).Pairwise (· < ·) := hsplit ▸ List.pairwise_lt_range
  have hmem : a ∈ before ++ i :: after := hsplit ▸ List.mem_range.2 ha
  rcases List.mem_append.1 hmem with hbefore | hafter
  · rw [hnone a hbefore] at hresult
    exact nomatch hresult
  · rcases List.mem_cons.1 hafter with rfl | hlater
    · exact Nat.le_refl a
    · exact Nat.le_of_lt (List.rel_of_pairwise_cons (List.pairwise_append.1 hsorted).2.1 hlater)

/-- **The shortest decimal of a natural number of up to 53 bits** spells that number. -/
theorem shortest_spells {m : Nat} (hm : m ≤ 2 ^ (53 : Nat)) (hpos : 0 < m) :
    (shortest (m * Binary64.unitsPerOne)).Spells m := by
  have hfew : (digitsOfNat m).length ≤ 16 := by
    rw [digitsOfNat, Nat.length_toDigits_le_iff (by decide) (by decide)]
    exact Nat.lt_of_le_of_lt hm (by decide)
  obtain ⟨k, hk⟩ : ∃ k, (digitsOfNat m).length = k + 1 :=
    Nat.exists_eq_succ_of_ne_zero (List.length_eq_zero_iff.not.2 (digitsOfNat_ne_nil m))
  have hlast := withDigits?_length hm hpos
  rw [hk] at hlast
  obtain ⟨i, hi, d, hd, hfound⟩ := exists_findSome?_range_eq (n := 17)
    (f := fun i => withDigits? (m * Binary64.unitsPerOne) (i + 1)) (by omega) hlast
  rw [shortest, hfound, Option.getD_some]
  exact spells_of_withDigits? hm hpos (p := k - i) (by omega) hd

end Decimal

/-! ## Texts -/

/-- **The text of a whole number** of up to 53 bits has all its digits and nothing else but a sign,
also where the number is kept as a binary64. -/
theorem Binary64.text_ofInt {n : Int} (h : n.natAbs ≤ 2 ^ (53 : Nat)) :
    (ofInt n).text = Text.intText n := by
  have hround := ofQuotient_mul (decide (n < 0)) (representable_natural h) Nat.one_pos
  rw [Nat.mul_one] at hround
  rw [ofInt, hround, text, intText_eq, decimal]
  split_ifs with hzero
  · rw [(Nat.mul_eq_zero.1 hzero).resolve_right (Nat.pos_iff_ne_zero.1 unitsPerOne_pos)]
  · have hpos : 0 < n.natAbs := Nat.pos_of_mul_pos_right (Nat.pos_of_ne_zero hzero)
    rw [(Decimal.shortest_spells h hpos).chars_eq hpos]

end Sift
