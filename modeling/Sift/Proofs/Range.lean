import Sift.Proofs.Duality
import Sift.Proofs.ScalarAggregates

set_option autoImplicit false
set_option relaxedAutoImplicit false

/-!
# Ranges

A range asks whether a field lies strictly between two bounds, and it reads its bounds by itself and
more leniently than a comparison reads its candidate. Where both bounds are numerals, that comes to
the same: a field is in the range if it is greater than the lower bound and less than the upper one.
With several fields a single one of them has to be both. It is not enough that one field is greater
and another one is less.

## Main results

* `Sift.Binary64.lt_trans`, `Sift.Binary64.lt_of_le_of_lt`, `Sift.Binary64.lt_of_lt_of_le` — the
  order of the numbers.
* `Sift.Rule.bounds?_append` — the bounds of a range that is written with two numerals.
* `Sift.Rule.matches_between_iff` — such a range looks for a field between its bounds.
* `Sift.Rule.range_is_both_comparisons` — ranges against comparisons, and against other ranges.
-/

namespace Sift

/-! ## The order of the numbers -/

namespace Binary64

variable {x y z : Binary64}

lemma lt_iff_exists_position? :
    x.lt y = true ↔ ∃ a b, x.position? = some a ∧ y.position? = some b ∧ a < b := by
  rw [Binary64.lt]
  cases x.position? <;> cases y.position? <;> simp

lemma le_iff_exists_position? :
    x.le y = true ↔ ∃ a b, x.position? = some a ∧ y.position? = some b ∧ a ≤ b := by
  rw [Binary64.le]
  cases x.position? <;> cases y.position? <;> simp

theorem lt_of_le_of_lt (hxy : x.le y = true) (hyz : y.lt z = true) : x.lt z = true := by
  obtain ⟨a, b, hx, hy, hab⟩ := le_iff_exists_position?.1 hxy
  obtain ⟨b', c, hy', hz, hbc⟩ := lt_iff_exists_position?.1 hyz
  obtain rfl : b = b' := Option.some.inj (hy.symm.trans hy')
  exact lt_iff_exists_position?.2 ⟨a, c, hx, hz, Int.lt_of_le_of_lt hab hbc⟩

theorem lt_of_lt_of_le (hxy : x.lt y = true) (hyz : y.le z = true) : x.lt z = true := by
  obtain ⟨a, b, hx, hy, hab⟩ := lt_iff_exists_position?.1 hxy
  obtain ⟨b', c, hy', hz, hbc⟩ := le_iff_exists_position?.1 hyz
  obtain rfl : b = b' := Option.some.inj (hy.symm.trans hy')
  exact lt_iff_exists_position?.2 ⟨a, c, hx, hz, Int.lt_of_lt_of_le hab hbc⟩

lemma le_of_lt (hxy : x.lt y = true) : x.le y = true := by
  obtain ⟨a, b, hx, hy, hab⟩ := lt_iff_exists_position?.1 hxy
  exact le_iff_exists_position?.2 ⟨a, b, hx, hy, Int.le_of_lt hab⟩

theorem lt_trans (hxy : x.lt y = true) (hyz : y.lt z = true) : x.lt z = true :=
  lt_of_le_of_lt (le_of_lt hxy) hyz

end Binary64

/-! ## Bounds and candidates -/

/-- A text that denotes a number begins with it. -/
lemma Numeral.first_of_read?_eq_some {s : String} {x : Binary64} (h : read? s = some x) :
    first s = x := by
  rw [first, h]

/-- A numeral has no comma. -/
lemma Numeral.notMem_of_read?_eq_some {s : String} {x : Binary64} (h : read? s = some x) :
    ',' ∉ s.toList := by
  intro hmem
  rw [read?_eq_none_of_mem hmem] at h
  exact nomatch h

lemma compares_greater {e : String} {x : Binary64} (h : Numeral.read? e = some x)
    (actual : Binary64) : compares .greater actual e = x.lt actual := by
  rw [compares, h, Option.any_some]

lemma compares_less {e : String} {x : Binary64} (h : Numeral.read? e = some x)
    (actual : Binary64) : compares .less actual e = actual.lt x := by
  rw [compares, h, Option.any_some]

namespace Rule

section Range

variable {lo hi : String} {low high : Binary64} (hlow : Numeral.read? lo = some low)
  (hhigh : Numeral.read? hi = some high)

include hlow hhigh

/-- **The bounds of a range** that is written with two numerals are the numbers these denote. -/
theorem bounds?_append : bounds? (lo ++ "," ++ hi) = some (low, high) := by
  rw [bounds?_eq, entries_append, entries_of_notMem (Numeral.notMem_of_read?_eq_some hlow),
    entries_of_notMem (Numeral.notMem_of_read?_eq_some hhigh)]
  simp only [List.singleton_append, Numeral.first_trim, Numeral.first_of_read?_eq_some hlow,
    Numeral.first_of_read?_eq_some hhigh]

/-- **A range looks for a field** that lies strictly between its bounds. -/
theorem matches_between_iff (f : String) (record : Json) :
    Rule.matches ⟨f, "><", lo ++ "," ++ hi⟩ record = true ↔
      ∃ path ∈ entries f,
        low.lt (record.amountAt path) = true ∧ (record.amountAt path).lt high = true := by
  have hop : Operator.ofSymbol? "><" = some .between := rfl
  rw [matches_eq_any hop rfl, List.any_eq_true]
  simp only [Operator.accepts, bounds?_append hlow hhigh, Option.any_some, Bool.and_eq_true]
  rfl

end Range

/-- A rule over one path that compares the number at it in order. -/
lemma matches_of_ne_equal {comparison : Comparison} (hne : comparison ≠ .equal) {path e : String}
    (hpath : ',' ∉ path.toList) (he : ',' ∉ e.toList) (record : Json) :
    Rule.matches ⟨path, comparison.symbol, e⟩ record =
      compares comparison (record.amountAt (Text.trim path)) e := by
  have htries : (Operator.ofComparison comparison).triesCandidates = true := by
    cases comparison <;> rfl
  have hsymbol : comparison.symbol = (Operator.ofComparison comparison).symbol := by
    cases comparison <;> rfl
  rw [hsymbol, matches_eq_passes (Operator.ofSymbol?_symbol _) htries hpath he,
    Operator.passes_eq_compares comparison fun hequal => absurd hequal hne,
    compares_congr (Numeral.read?_trim e)]
  rfl

section Comparisons

variable {e : String} {x : Binary64} (he : Numeral.read? e = some x) {path : String}
  (hpath : ',' ∉ path.toList) (record : Json)

include he hpath

lemma matches_greater_eq_lt :
    Rule.matches ⟨path, ">", e⟩ record = x.lt (record.amountAt (Text.trim path)) := by
  have hne : Comparison.greater ≠ .equal := by decide
  have hrule := matches_of_ne_equal hne hpath (Numeral.notMem_of_read?_eq_some he) record
  exact hrule.trans (compares_greater he _)

lemma matches_less_eq_lt :
    Rule.matches ⟨path, "<", e⟩ record = (record.amountAt (Text.trim path)).lt x := by
  have hne : Comparison.less ≠ .equal := by decide
  have hrule := matches_of_ne_equal hne hpath (Numeral.notMem_of_read?_eq_some he) record
  exact hrule.trans (compares_less he _)

end Comparisons

/-- **A range is both comparisons at once**, on one and the same field, where its bounds are
numerals (which have no comma). So without a comma in the field it is the conjunction of the two
rules. It never matches if the lower bound is not below the upper one, and moving the bounds apart
loses no match. -/
theorem range_is_both_comparisons (record : Json) {lo hi : String} {low high : Binary64}
    (hlow : Numeral.read? lo = some low) (hhigh : Numeral.read? hi = some high) (f : String) :
    (Rule.matches ⟨f, "><", lo ++ "," ++ hi⟩ record = true ↔
      ∃ path ∈ entries f, Rule.matches ⟨path, ">", lo⟩ record = true ∧
        Rule.matches ⟨path, "<", hi⟩ record = true) ∧
    (',' ∉ f.toList → Rule.matches ⟨f, "><", lo ++ "," ++ hi⟩ record =
      (Rule.matches ⟨f, ">", lo⟩ record && Rule.matches ⟨f, "<", hi⟩ record)) ∧
    (low.lt high = false → Rule.matches ⟨f, "><", lo ++ "," ++ hi⟩ record = false) ∧
    ∀ (lo' hi' : String) (low' high' : Binary64), Numeral.read? lo' = some low' →
      Numeral.read? hi' = some high' → low'.le low = true → high.le high' = true →
      Rule.matches ⟨f, "><", lo ++ "," ++ hi⟩ record = true →
        Rule.matches ⟨f, "><", lo' ++ "," ++ hi'⟩ record = true := by
  have hrange := matches_between_iff hlow hhigh f record
  refine ⟨?_, fun hf => ?_, fun hempty => ?_, fun lo' hi' low' high' hlow' hhigh' hle hle' h => ?_⟩
  · rw [hrange]
    refine exists_congr fun path => and_congr_right fun hpath => ?_
    rw [matches_greater_eq_lt hlow (notMem_of_mem_entries hpath),
      matches_less_eq_lt hhigh (notMem_of_mem_entries hpath), trim_of_mem_entries hpath]
  · rw [Bool.eq_iff_iff, hrange, Bool.and_eq_true, matches_greater_eq_lt hlow hf,
      matches_less_eq_lt hhigh hf, entries_of_notMem hf]
    simp only [List.mem_singleton, exists_eq_left]
  · rw [Bool.eq_false_iff, ne_eq, hrange]
    rintro ⟨path, -, habove, hbelow⟩
    rw [Binary64.lt_trans habove hbelow] at hempty
    exact Bool.noConfusion hempty
  · obtain ⟨path, hpath, habove, hbelow⟩ := hrange.1 h
    exact (matches_between_iff hlow' hhigh' f record).2 ⟨path, hpath,
      Binary64.lt_of_le_of_lt hle habove, Binary64.lt_of_lt_of_le hbelow hle'⟩

/-- One of two fields is greater than the lower bound and the other is less than the upper one, and
still the range holds neither. A size between the bounds is in the range, also after the lower bound
has moved further down, and it is in no range whose bounds are the wrong way round. -/
theorem range_is_both_comparisons_two_fields :
    let record : Json := .object [("least", .text "1 ft"), ("most", .text "20 ft"),
      ("size", .text "7.5 ft")]
    (Numeral.read? "5" = some (.ofInt 5) ∧ Numeral.read? " 1e1" = some (.ofInt 10) ∧
      Numeral.read? "-1" = some (.ofInt (-1))) ∧
    (Rule.matches ⟨"least,most", "><", "5" ++ "," ++ " 1e1"⟩ record = false ∧
      Rule.matches ⟨"least,most", ">", "5"⟩ record = true ∧
      Rule.matches ⟨"least,most", "<", " 1e1"⟩ record = true) ∧
    (',' ∉ "size".toList ∧ Rule.matches ⟨"size", "><", "5" ++ "," ++ " 1e1"⟩ record = true) ∧
    ((Binary64.ofInt 10).lt (.ofInt 5) = false ∧
      Rule.matches ⟨"size", "><", " 1e1" ++ "," ++ "5"⟩ record = false) ∧
    (Binary64.ofInt (-1)).le (.ofInt 5) = true ∧ (Binary64.ofInt 10).le (.ofInt 10) = true ∧
      Rule.matches ⟨"size", "><", "-1" ++ "," ++ " 1e1"⟩ record = true := by
  intro record
  have hfive : Numeral.read? "5" = some (.ofInt 5) := by decide +kernel
  have hten : Numeral.read? " 1e1" = some (.ofInt 10) := by decide +kernel
  have hminus : Numeral.read? "-1" = some (.ofInt (-1)) := by decide +kernel
  have hsize : ',' ∉ "size".toList := by decide
  have hwrong : (Binary64.ofInt 10).lt (.ofInt 5) = false := by decide +kernel
  have hlower : (Binary64.ofInt (-1)).le (.ofInt 5) = true := by decide +kernel
  have hupper : (Binary64.ofInt 10).le (.ofInt 10) = true := by decide +kernel
  obtain ⟨-, hboth, -, hwiden⟩ := range_is_both_comparisons record hfive hten "size"
  have hin : Rule.matches ⟨"size", "><", "5" ++ "," ++ " 1e1"⟩ record = true := by
    rw [hboth hsize]
    decide +kernel
  refine ⟨⟨hfive, hten, hminus⟩, ⟨?_, by decide +kernel, by decide +kernel⟩, ⟨hsize, hin⟩,
    ⟨hwrong, ?_⟩, hlower, hupper, hwiden "-1" " 1e1" _ _ hminus hten hlower hupper hin⟩
  · rw [Bool.eq_false_iff, ne_eq, (range_is_both_comparisons record hfive hten "least,most").1]
    decide +kernel
  · exact (range_is_both_comparisons record hten hfive "size").2.2.1 hwrong

end Rule

end Sift
