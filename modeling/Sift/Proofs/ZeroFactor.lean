import Sift.Proofs.Division
import Sift.Proofs.ScalarAggregates

set_option autoImplicit false
set_option relaxedAutoImplicit false

/-!
# Products with a factor of zero

A field that holds no number counts as zero, and so do a missing one and a falsy one. A single
factor of zero settles a product of finite numbers, wherever it stands: from then on the total is
zero, of either sign, or not a number, and no later factor makes anything else of it. It is not a
number only if the factors before the first zero have overflowed. Neither a zero nor what is not a
number equals anything; a zero compares in order as zero, and what is not a number does not compare
at all.

## Main definitions

* `Sift.Field.Worthless` — the fields that count as zero.
* `Sift.Binary64.IsSpent` — what a total is once a factor of zero has come.
* `Sift.Aggregation.OverflowsBeforeZero` — factors that overflow before the first zero.

## Main results

* `Sift.Field.isZero_amount_iff` — the worthless fields are those that hold the number zero.
* `Sift.Binary64.isSpent_foldl_mul` — a zero among the factors spends the total, for good.
* `Sift.Aggregation.combine_product_eq_nan_iff_overflowsBeforeZero` — when the total is not a
  number.
* `Sift.Rule.zero_factor_settles_product` — what the rules over such products match.
-/

namespace Sift

/-! ## Worthless fields -/

namespace Field

/-- A field counts as zero: it is missing or falsy, it is neither a number nor a text, or it is a
text in which the first number is zero or in which there is none. -/
inductive Worthless : Option Json → Prop
  /-- There is no field. -/
  | missing : Worthless none
  /-- The field is falsy. -/
  | falsy {v : Json} (h : isFalsy (some v) = true) : Worthless (some v)
  /-- The field is neither a number nor a text. -/
  | unnumbered {v : Json} (hnumber : ∀ n, v ≠ .number n) (htext : ∀ s, v ≠ .text s) :
      Worthless (some v)
  /-- The field is a text whose first number is zero, as it counts for one without a number. -/
  | text {s : String} (h : (Numeral.first s).isZero = true) : Worthless (some (.text s))

/-- **The worthless fields** are those that hold the number zero. -/
theorem isZero_amount_iff (field : Option Json) :
    (amount field).isZero = true ↔ Worthless field := by
  constructor
  · intro h
    rcases field with _ | v
    · exact .missing
    · by_cases hfalsy : isFalsy (some v) = true
      · exact .falsy hfalsy
      · unfold amount at h
        rw [if_neg hfalsy] at h
        cases v with
        | number n => exact absurd h hfalsy
        | text s => exact .text h
        | null | bool | array | object =>
          exact .unnumbered (by intro n; exact Json.noConfusion) (by intro s; exact Json.noConfusion)
  · intro h
    cases h with
    | missing => rfl
    | falsy hfalsy =>
      unfold amount
      rw [if_pos hfalsy]
      rfl
    | unnumbered hnumber htext =>
      rw [amount_eq_zero hnumber htext]
      rfl
    | @text s hfirst =>
      unfold amount
      by_cases hempty : isFalsy (some (.text s)) = true
      · rw [if_pos hempty]
        rfl
      · rw [if_neg hempty]
        exact hfirst

end Field

/-! ## Comparisons of zeros and of what is not a number -/

section Compares

variable {x y : Binary64} (e : String)

/-- What is not a number compares with nothing: not with a number, and even less with what denotes
none. -/
lemma compares_nan (comparison : Comparison) : compares comparison .nan e = false := by
  cases hread : Numeral.read? e with
  | none => cases comparison <;> simp [compares, Literal.ofText, Literal.isNumber, hread]
  | some x =>
    have hmem : comparison ∈ Comparison.all := by cases comparison <;> decide
    exact Bool.eq_false_iff.2 (List.countP_eq_zero.1 (countP_compares_nan hread) comparison hmem)

/-- Zero equals nothing. -/
lemma compares_equal_of_isZero (h : x.isZero = true) : compares .equal x e = false := by
  simp only [compares, h, Bool.not_true, Bool.false_and]

/-- In order both zeros compare alike, as all numbers with one place do. -/
lemma compares_congr_position? (h : x.position? = y.position?) (comparison : Comparison) :
    compares comparison x e = compares comparison y e := by
  cases comparison with
  | equal =>
    cases hliteral : Literal.ofText e <;>
      simp only [compares, hliteral, Literal.isNumber, Binary64.isZero, Binary64.eq, h]
  | greater | less => simp only [compares, Binary64.lt, h]

end Compares

/-! ## Spent totals -/

namespace Binary64

variable {x y : Binary64}

/-- A total is zero, of either sign, or it is not a number. -/
def IsSpent (x : Binary64) : Prop :=
  x = nan ∨ x.isZero = true

lemma IsInfinite.not_isSpent (h : x.IsInfinite) : ¬x.IsSpent := by
  obtain ⟨negative, rfl⟩ := h
  rintro (hnan | hzero)
  · exact Binary64.noConfusion hnan
  · rw [isZero_infinite] at hzero
    exact Bool.noConfusion hzero

/-- A product of no units has no units. -/
lemma isZero_ofQuotient_zero (negative : Bool) :
    (ofQuotient negative 0 unitsPerOne).isZero = true := by
  rw [ofQuotient_zero negative unitsPerOne_pos]
  cases negative <;> rfl

/-- A factor of zero spends any total: an overflow too, which is then not a number. -/
lemma isSpent_mul (hy : y.isFinite = true) (hzero : y.isZero = true) : (x.mul y).IsSpent := by
  cases y with
  | nan | infinite => exact Bool.noConfusion hy
  | finite t b hb =>
    obtain rfl := isZero_finite.1 hzero
    cases x with
    | nan => exact Or.inl rfl
    | infinite s => exact Or.inl (by rw [Binary64.mul, if_pos rfl])
    | finite s a _ => exact Or.inr (isZero_ofQuotient_zero (s != t))

/-- **What is spent stays spent**: no finite factor makes anything else of it. -/
lemma IsSpent.mul (hx : x.IsSpent) (hy : y.isFinite = true) : (x.mul y).IsSpent := by
  rcases hx with rfl | hzero
  · exact Or.inl rfl
  · cases y with
    | nan | infinite => exact Bool.noConfusion hy
    | finite t b hb =>
      cases x with
      | nan => exact Or.inl rfl
      | infinite s =>
        rw [isZero_infinite] at hzero
        exact Bool.noConfusion hzero
      | finite s a _ =>
        obtain rfl := isZero_finite.1 hzero
        rw [Binary64.mul, Nat.zero_mul]
        exact Or.inr (isZero_ofQuotient_zero (s != t))

/-- **A zero among the factors spends the total.**

**Proof sketch.** Induction on the factors, with the total so far generalized. A zero spends the
total (`isSpent_mul`), and every other factor leaves a spent total spent (`IsSpent.mul`). -/
theorem isSpent_foldl_mul {factors : List Binary64}
    (hfinite : ∀ factor ∈ factors, factor.isFinite = true) {start : Binary64}
    (h : start.IsSpent ∨ ∃ factor ∈ factors, factor.isZero = true) :
    (factors.foldl Binary64.mul start).IsSpent := by
  induction factors generalizing start with
  | nil => exact h.resolve_right fun ⟨_, hmem, _⟩ => List.not_mem_nil hmem
  | cons y rest ih =>
    obtain ⟨hy, hrest⟩ := List.forall_mem_cons.1 hfinite
    refine ih hrest ?_
    rcases h with hspent | ⟨factor, hmem, hzero⟩
    · exact Or.inl (hspent.mul hy)
    · rcases List.mem_cons.1 hmem with rfl | hlater
      · exact Or.inl (isSpent_mul hy hzero)
      · exact Or.inr ⟨factor, hlater, hzero⟩

end Binary64

namespace Aggregation

variable {factors : List Binary64}

/-- The product of the first few factors has overflowed, and none of them is zero. -/
def OverflowsBeforeZero (factors : List Binary64) : Prop :=
  ∃ part, part <+: factors.takeWhile (fun factor => !factor.isZero) ∧
    (product.combine part).IsInfinite

/-- A product of finite numbers with a zero among them is spent. -/
lemma isSpent_combine_product (hfinite : ∀ factor ∈ factors, factor.isFinite = true)
    (hzero : ∃ factor ∈ factors, factor.isZero = true) : (product.combine factors).IsSpent :=
  Binary64.isSpent_foldl_mul hfinite (Or.inr hzero)

/-- **Where a factor is zero**, the product is not a number iff the factors before the first zero
have overflowed: an overflow is not spent, so no zero comes before it. -/
theorem combine_product_eq_nan_iff_overflowsBeforeZero
    (hfinite : ∀ factor ∈ factors, factor.isFinite = true)
    (hzero : ∃ factor ∈ factors, factor.isZero = true) :
    product.combine factors = .nan ↔ OverflowsBeforeZero factors := by
  rw [combine_product_eq_nan_iff hfinite]
  constructor
  · rintro ⟨before, after, rfl, hinfinite, -⟩
    refine ⟨before, ?_, hinfinite⟩
    have hbefore : ∀ factor ∈ before, (!factor.isZero) = true := by
      intro factor hfactor
      by_contra hspent
      rw [Bool.not_eq_true, Bool.not_eq_false'] at hspent
      have hfinite' : ∀ y ∈ before, y.isFinite = true :=
        fun y hy => hfinite y (List.mem_append_left after hy)
      exact hinfinite.not_isSpent (isSpent_combine_product hfinite' ⟨factor, hfactor, hspent⟩)
    rw [List.takeWhile_append_of_pos hbefore]
    exact List.prefix_append _ _
  · rintro ⟨part, ⟨rest, hpart⟩, hinfinite⟩
    refine ⟨part, rest ++ factors.dropWhile (fun factor => !factor.isZero), ?_, hinfinite, ?_⟩
    · rw [← List.append_assoc, hpart, List.takeWhile_append_dropWhile]
    · obtain ⟨factor, hfactor, hzero⟩ := hzero
      refine ⟨factor, List.mem_append_right rest ?_, hzero⟩
      rw [← List.takeWhile_append_dropWhile (p := fun factor : Binary64 => !factor.isZero)
        (l := factors), List.mem_append] at hfactor
      refine hfactor.resolve_left fun hearly => ?_
      have hne := List.mem_takeWhile_imp hearly
      rw [hzero] at hne
      exact Bool.noConfusion hne

end Aggregation

namespace Rule

/-- **A factor of zero settles a product.** Where one of the fields is worthless, at whatever place
and whatever the others are, the product equals no expression. It compares in order as zero, unless
the product of the first few factors has overflowed before any of them was zero; then it does not
compare at all. -/
theorem zero_factor_settles_product (record : Json) (f e : String)
    (h : ∃ path ∈ entries f, Field.Worthless (record.resolve? path)) :
    let factors := (entries f).map record.amountAt
    Rule.matches ⟨f, "*=", e⟩ record = false ∧
    (Aggregation.OverflowsBeforeZero factors →
      Rule.matches ⟨f, "*>", e⟩ record = false ∧ Rule.matches ⟨f, "*<", e⟩ record = false) ∧
    (¬Aggregation.OverflowsBeforeZero factors →
      Rule.matches ⟨f, "*>", e⟩ record = compares .greater .zero e ∧
        Rule.matches ⟨f, "*<", e⟩ record = compares .less .zero e) := by
  intro factors
  have hfinite : ∀ factor ∈ factors, factor.isFinite = true := by
    intro factor hfactor
    obtain ⟨path, -, rfl⟩ := List.mem_map.1 hfactor
    exact Field.isFinite_amount _
  have hzero : ∃ factor ∈ factors, factor.isZero = true := by
    obtain ⟨path, hpath, hworthless⟩ := h
    exact ⟨_, List.mem_map_of_mem hpath, (Field.isZero_amount_iff _).2 hworthless⟩
  have hmatches : ∀ comparison : Comparison, Rule.matches ⟨f, "*" ++ comparison.symbol, e⟩ record =
      compares comparison (Aggregation.product.combine factors) e := fun comparison =>
    matches_aggregate .product comparison f e record
  have hnan := Aggregation.combine_product_eq_nan_iff_overflowsBeforeZero hfinite hzero
  rcases Aggregation.isSpent_combine_product hfinite hzero with htotal | htotal
  · have hnone : ∀ comparison : Comparison,
        Rule.matches ⟨f, "*" ++ comparison.symbol, e⟩ record = false := by
      intro comparison
      rw [hmatches, htotal, compares_nan]
    exact ⟨hnone .equal, fun _ => ⟨hnone .greater, hnone .less⟩,
      fun hkeeps => absurd (hnan.1 htotal) hkeeps⟩
  · have hplace : (Aggregation.product.combine factors).position? = Binary64.zero.position? :=
      beq_iff_eq.1 htotal
    refine ⟨(hmatches .equal).trans (compares_equal_of_isZero e htotal), fun hoverflow => ?_,
      fun _ => ⟨?_, ?_⟩⟩
    · rw [hnan.2 hoverflow] at htotal
      exact Bool.noConfusion htotal
    · exact (hmatches .greater).trans (compares_congr_position? e hplace .greater)
    · exact (hmatches .less).trans (compares_congr_position? e hplace .less)

/-- A truth value counts as zero. In front of two huge numbers it makes the product zero, which is
less than one; behind them it comes too late, and the product is not less than anything. -/
theorem zero_factor_settles_product_too_late :
    let record : Json := .object [("huge", .text "1e300"), ("sold", .bool true)]
    let early := (entries "sold,huge,huge").map record.amountAt
    let late := (entries "huge,huge,sold").map record.amountAt
    ((∃ path ∈ entries "sold,huge,huge", Field.Worthless (record.resolve? path)) ∧
      ¬Aggregation.OverflowsBeforeZero early ∧
      Rule.matches ⟨"sold,huge,huge", "*<", "1"⟩ record = true) ∧
    (∃ path ∈ entries "huge,huge,sold", Field.Worthless (record.resolve? path)) ∧
      Aggregation.OverflowsBeforeZero late ∧
      Rule.matches ⟨"huge,huge,sold", "*<", "1"⟩ record = false := by
  intro record early late
  have hsold : Field.Worthless (record.resolve? "sold") :=
    .unnumbered (by intro n; exact Json.noConfusion) (by intro s; exact Json.noConfusion)
  have hearly : ∃ path ∈ entries "sold,huge,huge", Field.Worthless (record.resolve? path) :=
    ⟨"sold", by decide, hsold⟩
  have hlate : ∃ path ∈ entries "huge,huge,sold", Field.Worthless (record.resolve? path) :=
    ⟨"sold", by decide, hsold⟩
  have hkeeps : ¬Aggregation.OverflowsBeforeZero early := by
    rintro ⟨part, hpart, negative, hinfinite⟩
    have hnone : early.takeWhile (fun factor => !factor.isZero) = [] := by decide +kernel
    rw [hnone, List.prefix_nil] at hpart
    simp only [hpart, Aggregation.combine, List.foldl_nil, Binary64.one_eq, reduceCtorEq]
      at hinfinite
  have hoverflows : Aggregation.OverflowsBeforeZero late :=
    ⟨_, List.prefix_rfl, false, by decide +kernel⟩
  refine ⟨⟨hearly, hkeeps, ?_⟩, hlate, hoverflows, ?_⟩
  · rw [((zero_factor_settles_product record "sold,huge,huge" "1" hearly).2.2 hkeeps).2]
    decide +kernel
  · exact ((zero_factor_settles_product record "huge,huge,sold" "1" hlate).2.1 hoverflows).2

end Rule

end Sift
