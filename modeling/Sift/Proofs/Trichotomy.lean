import Sift.Proofs.Alternatives
import Sift.Proofs.Finiteness
import Sift.Proofs.Numerals

set_option autoImplicit false
set_option relaxedAutoImplicit false

/-!
# Trichotomy

A number is equal to another one, greater or less, and rules that compare numbers keep to that, with
one exception that they make on purpose: zero equals nothing, so none of the three matches where
both numbers are zero. For fields that are combined the question is whether there is a number to
compare. A quotient always is one, since a total of zero is replaced before it could be divided. A
product is not a number only where it has overflowed and is then multiplied with zero, and then
nothing matches.

## Main definitions

* `Sift.Comparison.all`, `Sift.Operator.ofComparison` — the comparisons, and the tests of a field
  that make them.
* `Sift.Binary64.IsInfinite` — what has overflowed.

## Main results

* `Sift.countP_compares` — one comparison holds, unless both numbers are zero.
* `Sift.Operator.passes_ofComparison` — the tests of a field that holds a number are comparisons.
* `Sift.Aggregation.combine_quotient_ne_nan` — a quotient of finite numbers is a number.
* `Sift.Aggregation.combine_product_eq_nan_iff` — when a product of finite numbers is not a number.
* `Sift.Rule.exactly_one_comparison_matches` — trichotomy for rules.
-/

namespace Sift

/-! ## Comparisons -/

/-- All comparisons. -/
def Comparison.all : List Comparison :=
  [.equal, .greater, .less]

section Compares

variable {e : String} {x : Binary64}

/-- **One comparison of two numbers holds**, unless both are zero: then none does. -/
theorem countP_compares (hx : Numeral.read? e = some x) {actual : Binary64}
    (hactual : actual ≠ .nan) :
    Comparison.all.countP (fun comparison => compares comparison actual e) =
      if actual.isZero = true ∧ x.isZero = true then 0 else 1 := by
  obtain ⟨b, hb, -⟩ :=
    Binary64.exists_position?_of_isFinite (Numeral.isFinite_of_read?_eq_some hx)
  obtain ⟨a, ha⟩ : ∃ a, actual.position? = some a := by
    cases actual with
    | nan => exact absurd rfl hactual
    | infinite | finite => exact ⟨_, rfl⟩
  have hequal : compares .equal actual e = decide (a ≠ 0 ∧ b = a) := by
    rw [Bool.eq_iff_iff]
    simp [compares, Literal.ofText, hx, Literal.isNumber, Binary64.isZero, Binary64.eq, ha, hb]
  have hgreater : compares .greater actual e = decide (b < a) := by
    simp [compares, hx, Binary64.lt, ha, hb]
  have hless : compares .less actual e = decide (a < b) := by
    simp [compares, hx, Binary64.lt, ha, hb]
  simp only [Comparison.all, List.countP_cons, List.countP_nil, hequal, hgreater, hless,
    Binary64.isZero, ha, hb, decide_eq_true_eq, beq_iff_eq, Option.some.injEq]
  rcases Int.lt_trichotomy a b with hlt | rfl | hgt
  · rw [if_pos hlt, if_neg (by omega), if_neg (by omega), if_neg (by omega)]
  · by_cases hzero : a = 0 <;> simp [hzero]
  · rw [if_neg (by omega), if_pos hgt, if_neg (by omega), if_neg (by omega)]

/-- No comparison holds of what is not a number. -/
lemma countP_compares_nan (hx : Numeral.read? e = some x) :
    Comparison.all.countP (fun comparison => compares comparison .nan e) = 0 := by
  have hnone : ∀ y : Binary64,
      y.eq .nan = false ∧ y.lt .nan = false ∧ Binary64.nan.lt y = false := by
    intro y
    cases y <;> exact ⟨rfl, rfl, rfl⟩
  refine List.countP_eq_zero.2 fun comparison _ => Bool.eq_false_iff.1 ?_
  cases comparison with
  | equal =>
    simp only [compares, Literal.ofText, hx, Literal.isNumber, (hnone x).1, Bool.and_false]
  | greater => simp only [compares, hx, Option.any_some, (hnone x).2.1]
  | less => simp only [compares, hx, Option.any_some, (hnone x).2.2]

end Compares

namespace Operator

/-! ## Fields that hold numbers -/

/-- The test of a field that makes a comparison. -/
def ofComparison : Comparison → Operator
  | .equal => equal
  | .greater => greater
  | .less => less

/-- **The tests of a field that holds a number** are comparisons of that number. -/
theorem passes_ofComparison (comparison : Comparison) (n : Number) (candidate : String) :
    (ofComparison comparison).passes (some (.number n)) candidate =
      compares comparison (Field.amount (some (.number n))) candidate := by
  cases comparison with
  | greater | less => rfl
  | equal =>
    have hcomm : ∀ y : Binary64, n.toBinary64.eq y = y.eq n.toBinary64 := by
      intro y
      rw [Bool.eq_iff_iff, Binary64.eq_iff_exists_position?, Binary64.eq_iff_exists_position?]
      exact exists_congr fun _ => and_comm
    by_cases hzero : n.isZero = true
    · simp [ofComparison, passes, Field.equals, Field.isFalsy, compares, Field.amount, hzero]
    · have hactual : Field.amount (some (.number n)) = n.toBinary64 := if_neg hzero
      rw [compares, hactual]
      simp only [ofComparison, passes, Field.equals, Field.isFalsy, Number.isZero]
      cases Literal.ofText candidate with
      | number y => rw [Literal.isSame, Literal.isNumber, hcomm]
      | text s => rfl

end Operator

/-- A number is zero for a test iff it is zero. -/
lemma Field.isZero_amount_number (n : Number) :
    (amount (some (.number n))).isZero = n.isZero := by
  have hfalsy : isFalsy (some (.number n)) = n.isZero := rfl
  rw [amount, hfalsy]
  by_cases hzero : n.isZero = true
  · rw [if_pos hzero, hzero]
    rfl
  · rw [if_neg hzero]
    rfl

/-! ## Overflow -/

namespace Binary64

variable {x y : Binary64}

/-- The number has overflowed, on either side. -/
def IsInfinite (x : Binary64) : Prop :=
  ∃ negative, x = infinite negative

lemma isZero_finite {negative : Bool} {units : Nat} {fits : Representable units} :
    (finite negative units fits).isZero = true ↔ units = 0 := by
  cases negative <;> simp [isZero, position?]

lemma ne_nan_of_isFinite (h : x.isFinite = true) : x ≠ nan := by
  rintro rfl
  exact Bool.noConfusion h

lemma ofQuotient_ne_nan (negative : Bool) (num den : Nat) : ofQuotient negative num den ≠ nan := by
  rw [ofQuotient]
  split <;> exact Binary64.noConfusion

lemma one_ne_nan : one ≠ nan := by
  rw [one, ofInt]
  exact ofQuotient_ne_nan _ _ _

/-- Anything but zero can be divided by a finite number. -/
lemma div_ne_nan (hx : x ≠ nan) (hzero : x.isZero = false) (hy : y.isFinite = true) :
    x.div y ≠ nan := by
  cases y with
  | nan | infinite => exact Bool.noConfusion hy
  | finite t b _ =>
    cases x with
    | nan => exact absurd rfl hx
    | infinite s => exact Binary64.noConfusion
    | finite s a _ =>
      rw [Bool.eq_false_iff, ne_eq, isZero_finite] at hzero
      rw [div, if_neg hzero]
      split
      · exact Binary64.noConfusion
      · exact ofQuotient_ne_nan _ _ _

/-- A product with a finite number is not a number if the other factor is none, and if an overflow
is multiplied with zero. -/
lemma mul_eq_nan_iff (hy : y.isFinite = true) :
    x.mul y = nan ↔ x = nan ∨ x.IsInfinite ∧ y.isZero = true := by
  cases y with
  | nan | infinite => exact Bool.noConfusion hy
  | finite t b _ =>
    rw [isZero_finite]
    cases x with
    | nan => simp [mul]
    | infinite s => by_cases hb : b = 0 <;> simp [mul, IsInfinite, hb]
    | finite s a _ => simp [mul, IsInfinite, ofQuotient_ne_nan]

/-- What has overflowed stays so under multiplication with finite numbers other than zero. -/
lemma IsInfinite.mul (hx : x.IsInfinite) (hy : y.isFinite = true) (hzero : y.isZero = false) :
    (x.mul y).IsInfinite := by
  obtain ⟨s, rfl⟩ := hx
  cases y with
  | nan | infinite => exact Bool.noConfusion hy
  | finite t b _ =>
    rw [Bool.eq_false_iff, ne_eq, isZero_finite] at hzero
    exact ⟨s != t, if_neg hzero⟩

lemma foldl_mul_nan (factors : List Binary64) : factors.foldl Binary64.mul nan = nan := by
  induction factors with
  | nil => rfl
  | cons x rest ih => exact ih

/-- A product of finite numbers is not a number iff it has overflowed somewhere and a later factor
is zero. -/
lemma foldl_mul_eq_nan_iff {factors : List Binary64}
    (hfinite : ∀ factor ∈ factors, factor.isFinite = true) {start : Binary64}
    (hstart : start ≠ nan) :
    factors.foldl Binary64.mul start = nan ↔
      ∃ before after, factors = before ++ after ∧ (before.foldl Binary64.mul start).IsInfinite ∧
        ∃ factor ∈ after, factor.isZero = true := by
  induction factors generalizing start with
  | nil =>
    refine ⟨fun h => absurd h hstart, ?_⟩
    rintro ⟨before, after, hsplit, -, factor, hmem, -⟩
    obtain ⟨-, rfl⟩ := List.append_eq_nil_iff.1 hsplit.symm
    exact nomatch hmem
  | cons y rest ih =>
    obtain ⟨hy, hrest⟩ := List.forall_mem_cons.1 hfinite
    rw [List.foldl_cons]
    by_cases hnan : start.mul y = nan
    · -- the overflow was there before, and `y` is the zero
      rw [hnan, foldl_mul_nan]
      obtain ⟨hinfinite, hzero⟩ := ((mul_eq_nan_iff hy).1 hnan).resolve_left hstart
      exact ⟨fun _ => ⟨[], y :: rest, rfl, hinfinite, y, List.mem_cons_self, hzero⟩, fun _ => rfl⟩
    · rw [ih hrest hnan]
      constructor
      · rintro ⟨before, after, rfl, hinfinite, hlater⟩
        exact ⟨y :: before, after, rfl, hinfinite, hlater⟩
      · rintro ⟨before, after, hsplit, hinfinite, factor, hmem, hzero⟩
        rcases List.cons_eq_append_iff.1 hsplit with ⟨rfl, rfl⟩ | ⟨before, rfl, rfl⟩
        · have hne : y.isZero = false := Bool.eq_false_iff.2 fun hy' =>
            hnan ((mul_eq_nan_iff hy).2 (Or.inr ⟨hinfinite, hy'⟩))
          rcases List.mem_cons.1 hmem with rfl | hmem
          · exact absurd hzero (by rw [hne]; exact Bool.false_ne_true)
          · exact ⟨[], rest, rfl, hinfinite.mul hy hne, factor, hmem, hzero⟩
        · exact ⟨before, after, rfl, hinfinite, factor, hmem, hzero⟩

end Binary64

namespace Aggregation

variable {numbers : List Binary64}

/-- **A quotient of finite numbers is a number**: a total of zero is replaced by the next number and
never divided, and no total is divided by what has overflowed. -/
theorem combine_quotient_ne_nan (hfinite : ∀ x ∈ numbers, x.isFinite = true) :
    quotient.combine numbers ≠ .nan := by
  rw [combine]
  refine List.foldlRecOn (motive := fun total => total ≠ Binary64.nan) numbers _
    (Binary64.ne_nan_of_isFinite rfl) fun total htotal x hx => ?_
  have hx' : x.isFinite = true := hfinite x hx
  split
  · exact Binary64.ne_nan_of_isFinite hx'
  · exact Binary64.div_ne_nan htotal (Bool.eq_false_iff.2 ‹_›) hx'

/-- **A product of finite numbers is not a number** iff a product of the first of them has
overflowed and a later one is zero. -/
theorem combine_product_eq_nan_iff (hfinite : ∀ x ∈ numbers, x.isFinite = true) :
    product.combine numbers = .nan ↔
      ∃ before after, numbers = before ++ after ∧ (product.combine before).IsInfinite ∧
        ∃ factor ∈ after, factor.isZero = true :=
  Binary64.foldl_mul_eq_nan_iff hfinite Binary64.one_ne_nan

end Aggregation

namespace Rule

/-! ## Rules -/

/-- A rule that combines its fields compares the combination. -/
lemma matches_aggregate (aggregation : Aggregation) (comparison : Comparison) (f e : String)
    (record : Json) :
    Rule.matches ⟨f, (Operator.aggregate aggregation comparison).symbol, e⟩ record =
      compares comparison (aggregation.combine ((entries f).map record.amountAt)) e := by
  simp only [Rule.matches, CompiledRule.matches, compile, Operator.ofSymbol?_symbol]

/-- A rule over one path with one candidate that compares a number. -/
lemma matches_ofComparison (comparison : Comparison) {f e : String} {record : Json} {n : Number}
    (hf : ',' ∉ f.toList) (he : ',' ∉ e.toList)
    (hn : record.resolve? (Text.trim f) = some (.number n)) :
    Rule.matches ⟨f, (Operator.ofComparison comparison).symbol, e⟩ record =
      compares comparison (Field.amount (some (.number n))) (Text.trim e) := by
  have htries : (Operator.ofComparison comparison).triesCandidates = true := by
    cases comparison <;> rfl
  rw [matches_eq_passes (Operator.ofSymbol?_symbol _) htries hf he, hn,
    Operator.passes_ofComparison]

/-- The rules for all comparisons, where each compares one number with one expression. -/
lemma countP_matches {symbol : Comparison → String} {f e candidate : String} {record : Json}
    {actual : Binary64}
    (h : ∀ c, Rule.matches ⟨f, symbol c, e⟩ record = compares c actual candidate) :
    (Comparison.all.map symbol).countP (fun s => Rule.matches ⟨f, s, e⟩ record) =
      Comparison.all.countP fun c => compares c actual candidate := by
  rw [List.countP_map]
  exact List.countP_congr fun c _ => by rw [Function.comp_apply, h]

/-- **Trichotomy for rules** whose expression is a number. Of the rules that compare the number at a
path one matches, unless both numbers are zero. The same holds of a quotient, which always is a
number; and of a product, except that nothing matches where a product of the first factors has
overflowed and a later factor is zero. -/
theorem exactly_one_comparison_matches (record : Json) {e : String} {x : Binary64}
    (hx : Numeral.read? e = some x) :
    (∀ (f : String) (n : Number), ',' ∉ f.toList → ',' ∉ e.toList →
      record.resolve? (Text.trim f) = some (.number n) →
      ["=", ">", "<"].countP (fun symbol => Rule.matches ⟨f, symbol, e⟩ record) =
        if n.isZero = true ∧ x.isZero = true then 0 else 1) ∧
    (∀ f : String,
      let total := Aggregation.quotient.combine ((entries f).map record.amountAt)
      total ≠ .nan ∧
        ["/=", "/>", "/<"].countP (fun symbol => Rule.matches ⟨f, symbol, e⟩ record) =
          if total.isZero = true ∧ x.isZero = true then 0 else 1) ∧
    ∀ f : String,
      let factors := (entries f).map record.amountAt
      let total := Aggregation.product.combine factors
      (["*=", "*>", "*<"].countP (fun symbol => Rule.matches ⟨f, symbol, e⟩ record) =
        if total = .nan ∨ total.isZero = true ∧ x.isZero = true then 0 else 1) ∧
      (total = .nan ↔
        ∃ before after, factors = before ++ after ∧
          (Aggregation.product.combine before).IsInfinite ∧
          ∃ factor ∈ after, factor.isZero = true) := by
  have hfinite : ∀ f : String, ∀ y ∈ (entries f).map record.amountAt, y.isFinite = true := by
    intro f y hy
    obtain ⟨path, -, rfl⟩ := List.mem_map.1 hy
    exact Field.isFinite_amount _
  refine ⟨fun f n hf he hn => ?_, fun f => ?_, fun f => ?_⟩
  · have hnumber : Field.amount (some (.number n)) ≠ .nan :=
      Binary64.ne_nan_of_isFinite (Field.isFinite_amount _)
    rw [← Field.isZero_amount_number n,
      ← countP_compares ((Numeral.read?_trim e).trans hx) hnumber]
    exact countP_matches fun c => matches_ofComparison c hf he hn
  · have hnumber := Aggregation.combine_quotient_ne_nan (hfinite f)
    refine ⟨hnumber, ?_⟩
    rw [← countP_compares hx hnumber]
    exact countP_matches fun c => matches_aggregate .quotient c f e record
  · refine ⟨?_, Aggregation.combine_product_eq_nan_iff (hfinite f)⟩
    have hcount := countP_matches fun c => matches_aggregate .product c f e record
    refine Eq.trans hcount ?_
    by_cases hnan : Aggregation.product.combine ((entries f).map record.amountAt) = .nan
    · rw [if_pos (Or.inl hnan), hnan, countP_compares_nan hx]
    · rw [countP_compares hx hnan]
      simp only [hnan, false_or]

/-- A price compares with five, and so does a missing number divided by the price, since the price
takes its place. Two huge numbers overflow, and times a missing number they compare with nothing. -/
theorem exactly_one_comparison_matches_overflow :
    let price : Number := .integer 7 (by decide)
    let record : Json := .object [("price", .number price), ("huge", .text "1e300")]
    Numeral.read? "5" = some (.ofInt 5) ∧
      (',' ∉ "price".toList ∧ ',' ∉ "5".toList ∧
        record.resolve? (Text.trim "price") = some (.number price) ∧
        ["=", ">", "<"].countP (fun symbol => Rule.matches ⟨"price", symbol, "5"⟩ record) = 1) ∧
      ["/=", "/>", "/<"].countP (fun symbol => Rule.matches ⟨"free,price", symbol, "5"⟩ record) =
        1 ∧
      ["*=", "*>", "*<"].countP
        (fun symbol => Rule.matches ⟨"huge,huge,free", symbol, "5"⟩ record) = 0 := by
  intro price record
  have hfive : Numeral.read? "5" = some (.ofInt 5) := by decide +kernel
  have hfield : ',' ∉ "price".toList := by decide
  have hexpression : ',' ∉ "5".toList := by decide
  have hprice : record.resolve? (Text.trim "price") = some (.number price) := rfl
  obtain ⟨hpath, hquotient, hproduct⟩ := exactly_one_comparison_matches record hfive
  refine ⟨hfive, ⟨hfield, hexpression, hprice, ?_⟩, ?_, ?_⟩
  · rw [hpath "price" price hfield hexpression hprice]
    decide +kernel
  · rw [(hquotient "free,price").2]
    decide +kernel
  · rw [(hproduct "huge,huge,free").1]
    decide +kernel

end Rule

end Sift
