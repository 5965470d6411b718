import Sift.Proofs.RoundingOrder
import Sift.Proofs.Trichotomy

set_option autoImplicit false
set_option relaxedAutoImplicit false

/-!
# Division from left to right

A quotient of several numbers divides the first one by each of the others. A total of zero means that
there is none yet, and the next number takes its place. If no number is zero, a total becomes zero
only by underflow: the exact quotient is at most half of the smallest positive number. So the numbers
fall into runs. In each run but the last the plain quotient vanishes with the last number, and the
run is lost; the quotient of all numbers is the plain quotient of the last run. As long as nothing
vanishes before the last number, there is one run only.

## Main definitions

* `Sift.Binary64.leftQuotient` — the plain quotient, from left to right.
* `Sift.Binary64.Vanishes` — an exact quotient too small for the format.
* `Sift.Binary64.Lasts`, `Sift.Binary64.RunsOut` — numbers whose plain quotient never vanishes, and
  numbers where it does so with the last one.
* `Sift.Binary64.Restarts` — numbers taken apart into such runs.

## Main results

* `Sift.Binary64.roundUnits_eq_zero_iff`, `Sift.Binary64.isZero_div_iff` — when a quotient
  underflows.
* `Sift.Aggregation.exists_restarts` — the quotient of numbers is that of their last run.
* `Sift.Aggregation.combine_quotient_eq_leftQuotient` — without underflow it is the plain quotient.
* `Sift.Rule.quotient_restarts_after_underflow` — what the rules over quotients compare.
-/

namespace Sift

namespace Binary64

/-! ## Underflow -/

/-- **A quotient rounds to zero** if it is at most half a unit. -/
theorem roundUnits_eq_zero_iff {num den : Nat} (hden : 0 < den) :
    roundUnits num den = 0 ↔ 2 * num ≤ den := by
  rcases Nat.lt_or_ge num den with hlt | hge
  · -- below one unit there are no bits to cut off
    have hdiv : num / den = 0 := Nat.div_eq_of_lt hlt
    have hsurplus : surplusBits num den = 0 := by
      rw [surplusBits, hdiv, Nat.log2_zero]
    simp only [roundUnits, hsurplus, Nat.pow_zero, Nat.mul_one, roundHalfEven, hdiv,
      Nat.mod_eq_of_lt hlt, Nat.zero_mod, and_true]
    split <;> omega
  · have hone : 1 ≤ roundUnits num den := le_roundUnits representable_one hden (by omega)
    omega

lemma isZero_infinite (negative : Bool) : (infinite negative).isZero = false := by
  cases negative <;> decide +kernel

lemma isZero_ofQuotient_iff {num den : Nat} (hden : 0 < den) (negative : Bool) :
    (ofQuotient negative num den).isZero = true ↔ 2 * num ≤ den := by
  rw [← roundUnits_eq_zero_iff hden, ofQuotient]
  by_cases hlimit : roundUnits num den < limit
  · rw [dif_pos hlimit, isZero_finite]
  · have hpos : 0 < limit := Nat.two_pow_pos _
    rw [dif_neg hlimit, isZero_infinite]
    simp only [Bool.false_eq_true, false_iff]
    omega

/-- The exact quotient of two numbers is too small for the format: at most half of the smallest
positive number, on either side of zero. -/
def Vanishes (x y : Binary64) : Prop :=
  ∃ a b : Int, x.position? = some a ∧ y.position? = some b ∧
    2 * (a.natAbs * unitsPerOne) ≤ b.natAbs

lemma vanishes_iff {x y : Binary64} {a b : Int} (hx : x.position? = some a)
    (hy : y.position? = some b) : x.Vanishes y ↔ 2 * (a.natAbs * unitsPerOne) ≤ b.natAbs := by
  constructor
  · rintro ⟨a', b', ha, hb, hle⟩
    rw [hx, Option.some.injEq] at ha
    rw [hy, Option.some.injEq] at hb
    rwa [ha, hb]
  · exact fun hle => ⟨a, b, hx, hy, hle⟩

/-- The place of a finite number is as far from zero as it has units. -/
lemma exists_position?_finite (negative : Bool) {units : Nat} (fits : Representable units) :
    ∃ place : Int, (finite negative units fits).position? = some place ∧ place.natAbs = units := by
  cases negative
  · exact ⟨units, rfl, Int.natAbs_natCast units⟩
  · exact ⟨-units, rfl, by rw [Int.natAbs_neg, Int.natAbs_natCast]⟩

lemma exists_position?_infinite (negative : Bool) :
    ∃ place : Int, (infinite negative).position? = some place ∧ place.natAbs = limit := by
  cases negative
  · exact ⟨limit, rfl, Int.natAbs_natCast limit⟩
  · exact ⟨-limit, rfl, by rw [Int.natAbs_neg, Int.natAbs_natCast]⟩

/-- **A quotient is zero** if the exact quotient is too small for the format. -/
theorem isZero_div_iff {x y : Binary64} (hx : x ≠ nan) (hy : y.isFinite = true)
    (hzero : y.isZero = false) : (x.div y).isZero = true ↔ x.Vanishes y := by
  cases y with
  | nan | infinite => exact Bool.noConfusion hy
  | finite t b hb =>
    rw [Bool.eq_false_iff, ne_eq, isZero_finite] at hzero
    obtain ⟨place, hplace, hunits⟩ := exists_position?_finite t hb
    cases x with
    | nan => exact absurd rfl hx
    | infinite s =>
      -- what has overflowed stays beyond the limit, and no divisor lies there
      obtain ⟨beyond, hbeyond, hlimit⟩ := exists_position?_infinite s
      have hbelow : b < limit := hb.1
      have hmul : limit ≤ limit * unitsPerOne := Nat.le_mul_of_pos_right _ unitsPerOne_pos
      rw [vanishes_iff hbeyond hplace, hunits, hlimit, div, isZero_infinite]
      exact iff_of_false Bool.false_ne_true (by omega)
    | finite s a ha =>
      obtain ⟨place', hplace', hunits'⟩ := exists_position?_finite s ha
      rw [vanishes_iff hplace' hplace, hunits, hunits', div, if_neg hzero,
        isZero_ofQuotient_iff (Nat.pos_of_ne_zero hzero)]

/-! ## Plain quotients -/

/-- The quotient of numbers from left to right: the first one divided by each of the others. -/
def leftQuotient : List Binary64 → Binary64
  | [] => zero
  | x :: rest => rest.foldl div x

@[simp] lemma leftQuotient_singleton (x : Binary64) : leftQuotient [x] = x := rfl

/-- One more number divides the quotient. -/
lemma leftQuotient_concat {numbers : List Binary64} (hne : numbers ≠ []) (x : Binary64) :
    leftQuotient (numbers ++ [x]) = (leftQuotient numbers).div x := by
  cases numbers with
  | nil => exact absurd rfl hne
  | cons y rest => rw [List.cons_append, leftQuotient, leftQuotient, List.foldl_concat]

/-- No quotient of the first few numbers is zero, nor that of all of them. -/
def Lasts (numbers : List Binary64) : Prop :=
  ∀ part, part <+: numbers → part ≠ [] → (leftQuotient part).isZero = false

lemma lasts_nil : Lasts [] :=
  fun _ hpart hne => absurd (List.prefix_nil.1 hpart) hne

lemma Lasts.of_prefix {numbers part : List Binary64} (h : Lasts numbers) (hpart : part <+: numbers) :
    Lasts part :=
  fun shorter hshorter => h shorter (hshorter.trans hpart)

lemma lasts_concat {numbers : List Binary64} {x : Binary64} (h : Lasts numbers)
    (hzero : (leftQuotient (numbers ++ [x])).isZero = false) : Lasts (numbers ++ [x]) := by
  intro part hpart hne
  rcases List.prefix_concat_iff.1 hpart with rfl | hbefore
  · exact hzero
  · exact h part hbefore hne

/-- The quotient of the numbers vanishes with the last one and not before. -/
def RunsOut (run : List Binary64) : Prop :=
  ∃ kept x, run = kept ++ [x] ∧ kept ≠ [] ∧ Lasts kept ∧ (leftQuotient kept).Vanishes x

/-- Numbers taken apart into runs that run out, one after the other, and a last run where nothing
vanishes before the last number. -/
structure Restarts (numbers : List Binary64) (lost : List (List Binary64)) (last : List Binary64) :
    Prop where
  /-- The runs make up the numbers. -/
  split : numbers = lost.flatten ++ last
  /-- All runs before the last one run out. -/
  runsOut : ∀ run ∈ lost, RunsOut run
  /-- The last run has a number. -/
  last_ne_nil : last ≠ []
  /-- In the last run nothing vanishes before the last number. -/
  lasts : Lasts last.dropLast

section Restarts

variable {numbers last : List Binary64} {lost : List (List Binary64)} {x : Binary64}

/-- As long as nothing vanishes, the quotient is a number. -/
lemma leftQuotient_ne_nan (hfinite : ∀ y ∈ numbers, y.isFinite = true)
    (h : Lasts numbers.dropLast) : leftQuotient numbers ≠ nan := by
  induction numbers using List.reverseRecOn with
  | nil => exact ne_nan_of_isFinite rfl
  | append_singleton before y ih =>
    obtain ⟨hbefore, hy⟩ := List.forall_mem_append.1 hfinite
    have hy' : y.isFinite = true := hy y List.mem_cons_self
    rw [List.dropLast_concat] at h
    by_cases hne : before = []
    · rw [hne]
      exact ne_nan_of_isFinite hy'
    · rw [leftQuotient_concat hne]
      exact div_ne_nan (ih hbefore (h.of_prefix (List.dropLast_prefix before)))
        (h before List.prefix_rfl hne) hy'

/-- Where no number is zero, the numbers run out iff their quotient is zero and none before it is. -/
lemma runsOut_iff (hnumbers : ∀ y ∈ numbers, y.isFinite = true ∧ y.isZero = false) :
    RunsOut numbers ↔
      numbers ≠ [] ∧ Lasts numbers.dropLast ∧ (leftQuotient numbers).isZero = true := by
  induction numbers using List.reverseRecOn with
  | nil => simp [RunsOut]
  | append_singleton before y _ =>
    obtain ⟨hbefore, hy⟩ := List.forall_mem_append.1 hnumbers
    obtain ⟨hfinite, hzero⟩ := hy y List.mem_cons_self
    have hdiv : before ≠ [] → Lasts before →
        ((leftQuotient (before ++ [y])).isZero = true ↔ (leftQuotient before).Vanishes y) := by
      intro hne hlasts
      rw [leftQuotient_concat hne]
      refine isZero_div_iff (leftQuotient_ne_nan (fun z hz => (hbefore z hz).1) ?_) hfinite hzero
      exact hlasts.of_prefix (List.dropLast_prefix before)
    rw [List.dropLast_concat]
    constructor
    · rintro ⟨kept, z, hsplit, hne, hlasts, hvanishes⟩
      obtain ⟨rfl, hlast⟩ := List.append_inj' hsplit rfl
      obtain rfl := List.singleton_inj.1 hlast
      exact ⟨by simp, hlasts, (hdiv hne hlasts).2 hvanishes⟩
    · rintro ⟨-, hlasts, hquotient⟩
      have hne : before ≠ [] := by
        -- a single number is its own quotient
        rintro rfl
        rw [List.nil_append, leftQuotient_singleton, hzero] at hquotient
        exact Bool.noConfusion hquotient
      exact ⟨before, y, rfl, hne, hlasts, (hdiv hne hlasts).1 hquotient⟩

namespace Restarts

/-- The first number begins the last run. -/
lemma singleton (x : Binary64) : Restarts [x] [] [x] where
  split := rfl
  runsOut := fun _ hrun => absurd hrun List.not_mem_nil
  last_ne_nil := List.cons_ne_nil x []
  lasts := lasts_nil

/-- Where the last run has run out, the next number begins another one. -/
lemma concat_of_isZero (h : Restarts numbers lost last)
    (hnumbers : ∀ y ∈ numbers, y.isFinite = true ∧ y.isZero = false)
    (hzero : (leftQuotient last).isZero = true) :
    Restarts (numbers ++ [x]) (lost ++ [last]) [x] where
  split := by simp [h.split]
  runsOut := by
    have hlast : ∀ y ∈ last, y.isFinite = true ∧ y.isZero = false := fun y hy =>
      hnumbers y (by rw [h.split]; exact List.mem_append_right _ hy)
    rw [List.forall_mem_append, List.forall_mem_singleton]
    exact ⟨h.runsOut, (runsOut_iff hlast).2 ⟨h.last_ne_nil, h.lasts, hzero⟩⟩
  last_ne_nil := List.cons_ne_nil x []
  lasts := lasts_nil

/-- Otherwise it belongs to the last run. -/
lemma concat (h : Restarts numbers lost last) (hzero : (leftQuotient last).isZero = false) :
    Restarts (numbers ++ [x]) lost (last ++ [x]) where
  split := by rw [h.split, List.append_assoc]
  runsOut := h.runsOut
  last_ne_nil := by simp
  lasts := by
    have hlast : last.dropLast ++ [last.getLast h.last_ne_nil] = last :=
      List.dropLast_append_getLast h.last_ne_nil
    rw [List.dropLast_concat, ← hlast]
    exact lasts_concat h.lasts (by rwa [hlast])

/-- Nothing is lost iff nothing vanishes before the last number. -/
lemma lost_eq_nil_iff (h : Restarts numbers lost last)
    (hnumbers : ∀ y ∈ numbers, y.isFinite = true ∧ y.isZero = false) :
    lost = [] ↔ Lasts numbers.dropLast := by
  constructor
  · rintro rfl
    rw [h.split, List.flatten_nil, List.nil_append]
    exact h.lasts
  · intro hlasts
    cases lost with
    | nil => rfl
    | cons run rest =>
      have hsplit : numbers = run ++ (rest.flatten ++ last) := by
        rw [h.split, List.flatten_cons, List.append_assoc]
      have hrun : ∀ y ∈ run, y.isFinite = true ∧ y.isZero = false := fun y hy =>
        hnumbers y (by rw [hsplit]; exact List.mem_append_left _ hy)
      obtain ⟨hne, -, hzero⟩ := (runsOut_iff hrun).1 (h.runsOut run List.mem_cons_self)
      have hprefix : run <+: numbers.dropLast := by
        have hrest : rest.flatten ++ last ≠ [] := List.append_ne_nil_of_right_ne_nil _ h.last_ne_nil
        rw [hsplit, List.dropLast_append_of_ne_nil hrest]
        exact List.prefix_append _ _
      rw [hlasts run hprefix hne] at hzero
      exact Bool.noConfusion hzero

end Restarts

end Restarts

end Binary64

/-! ## Quotients of several fields -/

namespace Aggregation

open Binary64

variable {numbers : List Binary64}

/-- One more number divides the total or takes the place of a total of zero. -/
lemma combine_quotient_concat (numbers : List Binary64) (x : Binary64) :
    quotient.combine (numbers ++ [x]) =
      if (quotient.combine numbers).isZero then x else (quotient.combine numbers).div x := by
  rw [combine, List.foldl_concat, combine]

/-- **The quotient of numbers is that of their last run**, if no number is zero.

**Proof sketch.** Induction on the numbers from the right. The total so far is the quotient of the
last run, so if it is zero, this run has run out and the next number begins another one; otherwise
the next number divides the total and belongs to the same run. -/
theorem exists_restarts (hnumbers : ∀ y ∈ numbers, y.isFinite = true ∧ y.isZero = false)
    (hne : numbers ≠ []) :
    ∃ lost last, Restarts numbers lost last ∧ quotient.combine numbers = leftQuotient last := by
  induction numbers using List.reverseRecOn with
  | nil => exact absurd rfl hne
  | append_singleton before x ih =>
    obtain ⟨hbefore, -⟩ := List.forall_mem_append.1 hnumbers
    rw [combine_quotient_concat]
    by_cases hempty : before = []
    · rw [hempty]
      exact ⟨[], [x], Restarts.singleton x, rfl⟩
    · obtain ⟨lost, last, hrestarts, htotal⟩ := ih hbefore hempty
      rw [htotal]
      cases hzero : (leftQuotient last).isZero with
      | true => exact ⟨_, _, hrestarts.concat_of_isZero hbefore hzero, rfl⟩
      | false =>
        exact ⟨_, _, hrestarts.concat hzero, (leftQuotient_concat hrestarts.last_ne_nil x).symm⟩

/-- **Without underflow it is the plain quotient.** -/
theorem combine_quotient_eq_leftQuotient
    (hnumbers : ∀ y ∈ numbers, y.isFinite = true ∧ y.isZero = false) (hne : numbers ≠ [])
    (hlasts : Lasts numbers.dropLast) : quotient.combine numbers = leftQuotient numbers := by
  obtain ⟨lost, last, hrestarts, htotal⟩ := exists_restarts hnumbers hne
  obtain rfl := (hrestarts.lost_eq_nil_iff hnumbers).2 hlasts
  rw [htotal, hrestarts.split, List.flatten_nil, List.nil_append]

end Aggregation

namespace Rule

open Binary64

/-- **Rules over quotients** compare the plain quotient from left to right, if the numbers of all
fields differ from zero and nothing vanishes before the last of them. In general the numbers fall
into runs that run out and a last one, and the plain quotient of the last run is compared. -/
theorem quotient_restarts_after_underflow (record : Json) (f e : String)
    (h : ∀ path ∈ entries f, (record.amountAt path).isZero = false) :
    let numbers := (entries f).map record.amountAt
    (Lasts numbers.dropLast →
      ∀ comparison : Comparison, Rule.matches ⟨f, "/" ++ comparison.symbol, e⟩ record =
        compares comparison (leftQuotient numbers) e) ∧
    ∃ lost last, Restarts numbers lost last ∧
      ∀ comparison : Comparison, Rule.matches ⟨f, "/" ++ comparison.symbol, e⟩ record =
        compares comparison (leftQuotient last) e := by
  intro numbers
  have hnumbers : ∀ x ∈ numbers, x.isFinite = true ∧ x.isZero = false := by
    intro x hx
    obtain ⟨path, hpath, rfl⟩ := List.mem_map.1 hx
    exact ⟨Field.isFinite_amount _, h path hpath⟩
  have hne : numbers ≠ [] := by simp [numbers, entries_ne_nil]
  have hmatches : ∀ comparison : Comparison, Rule.matches ⟨f, "/" ++ comparison.symbol, e⟩ record =
      compares comparison (Aggregation.quotient.combine numbers) e := fun comparison =>
    matches_aggregate .quotient comparison f e record
  constructor
  · intro hlasts comparison
    rw [hmatches, Aggregation.combine_quotient_eq_leftQuotient hnumbers hne hlasts]
  · obtain ⟨lost, last, hrestarts, htotal⟩ := Aggregation.exists_restarts hnumbers hne
    exact ⟨lost, last, hrestarts, fun comparison => by rw [hmatches, htotal]⟩

/-- A price by a count is their plain quotient. A tiny number by a huge one vanishes, also as it is
divided by a third number after that; but then the third number has taken its place. -/
theorem quotient_restarts_after_underflow_tiny :
    let record : Json := .object [("price", .text "30 USD"), ("count", .text "4"),
      ("tiny", .text "1e-200"), ("huge", .text "1e200")]
    (∀ path ∈ entries "price,count", (record.amountAt path).isZero = false) ∧
      Lasts ((entries "price,count").map record.amountAt).dropLast ∧
      Rule.matches ⟨"price,count", "/=", "7.5"⟩ record = true ∧
    (∀ path ∈ entries "tiny,huge,count", (record.amountAt path).isZero = false) ∧
      ∃ lost last, Restarts ((entries "tiny,huge,count").map record.amountAt) lost last ∧
        ∀ comparison : Comparison,
          Rule.matches ⟨"tiny,huge,count", "/" ++ comparison.symbol, "4"⟩ record =
            compares comparison (leftQuotient last) "4" := by
  intro record
  have hordinary : ∀ path ∈ entries "price,count", (record.amountAt path).isZero = false := by
    decide +kernel
  have htiny : ∀ path ∈ entries "tiny,huge,count", (record.amountAt path).isZero = false := by
    decide +kernel
  have hnumbers : (entries "price,count").map record.amountAt =
      [record.amountAt "price", record.amountAt "count"] := by
    have hentries : entries "price,count" = ["price", "count"] := by decide
    rw [hentries]
    rfl
  have hlasts : Lasts ((entries "price,count").map record.amountAt).dropLast := by
    rw [hnumbers]
    exact lasts_concat lasts_nil (by decide +kernel)
  refine ⟨hordinary, hlasts, ?_, htiny, ?_⟩
  · have hplain := (quotient_restarts_after_underflow record "price,count" "7.5" hordinary).1 hlasts
    refine (hplain .equal).trans ?_
    rw [hnumbers]
    decide +kernel
  · exact (quotient_restarts_after_underflow record "tiny,huge,count" "4" htiny).2

/-- A later number does replace the total of a quotient: a tiny number by a huge one by five is zero,
which does not equal five, and yet the rule over them matches. -/
theorem total_is_replaced_after_underflow :
    let record : Json := .object [("a", .text "1e-200"), ("b", .text "1e200"), ("c", .text "5")]
    (∀ path ∈ entries "a,b,c", (record.amountAt path).isZero = false) ∧
      (leftQuotient ((entries "a,b,c").map record.amountAt)).isZero = true ∧
      compares .equal (leftQuotient ((entries "a,b,c").map record.amountAt)) "5" = false ∧
      Rule.matches ⟨"a,b,c", "/=", "5"⟩ record = true := by
  decide +kernel

end Rule

end Sift
