import Sift.Proofs.Spacing

set_option autoImplicit false
set_option relaxedAutoImplicit false

/-!
# Aggregates of a single field

A product and a quotient of one number are that number, so an aggregate over a single field compares
the number that the field holds. The order tests of a field do the same, and so does equality for
whatever is no text: a field that holds no number counts as zero, and zero equals nothing. A text is
the exception. As a field it equals its own characters, as a factor it is the first number in it.

## Main results

* `Sift.compares_equal_iff` — a finite number equals an expression that denotes it, unless it is zero.
* `Sift.Operator.passes_eq_compares` — the tests of a field compare the number it holds, but for the
  equality of a text.
* `Sift.Rule.single_field_aggregates_are_scalar` — aggregates over one field against the tests of it.
-/

namespace Sift

/-! ## Equality with an expression -/

/-- **A finite number equals an expression** if the expression denotes it and it is not zero. -/
theorem compares_equal_iff {actual : Binary64} (hfinite : actual.isFinite = true) {e : String} :
    compares .equal actual e = true ↔ actual.isZero = false ∧ Numeral.read? e = some actual := by
  rw [compares, Bool.and_eq_true, Bool.not_eq_true', and_congr_right_iff]
  intro hzero
  rw [Literal.ofText]
  cases hread : Numeral.read? e with
  | none => simp [Literal.isNumber]
  | some x =>
    rw [Literal.isNumber, Option.some.injEq, Binary64.eq_iff_exists_position?]
    constructor
    · -- numbers other than zero are known by their places
      rintro ⟨place, hx, hactual⟩
      exact (Binary64.eq_of_position?_eq hfinite (Numeral.isFinite_of_read?_eq_some hread) hzero
        (hactual.trans hx.symm)).symm
    · rintro rfl
      obtain ⟨place, hplace, -⟩ := Binary64.exists_position?_of_isFinite hfinite
      exact ⟨place, hplace, hplace⟩

namespace Field

/-- A field that is neither a number nor a text holds the number zero. -/
lemma amount_eq_zero {v : Json} (hnumber : ∀ n, v ≠ .number n) (htext : ∀ s, v ≠ .text s) :
    amount (some v) = .zero := by
  cases v with
  | number n => exact absurd rfl (hnumber n)
  | text s => exact absurd rfl (htext s)
  | bool b => cases b <;> rfl
  | null | array | object => rfl

/-- **Whatever is no text** equals a candidate if the number it holds does. -/
theorem equals_eq_compares {field : Option Json} (h : ∀ s, field ≠ some (.text s))
    (candidate : String) : equals field candidate = compares .equal (amount field) candidate := by
  rcases field with _ | v
  · rfl
  · cases v with
    | text s => exact absurd rfl (h s)
    | number n => exact Operator.passes_ofComparison .equal n candidate
    | null | bool | array | object =>
      rw [amount_eq_zero (by intro n; exact Json.noConfusion) (by intro s; exact Json.noConfusion)]
      simp [equals, compares]

end Field

/-- **The test of a field** that makes a comparison compares the number that the field holds, unless
it asks what a text equals. -/
theorem Operator.passes_eq_compares (comparison : Comparison) {field : Option Json}
    (h : comparison = .equal → ∀ s, field ≠ some (.text s)) (candidate : String) :
    (ofComparison comparison).passes field candidate =
      compares comparison (Field.amount field) candidate := by
  cases comparison with
  | equal => exact Field.equals_eq_compares (h rfl) candidate
  | greater | less => rfl

namespace Rule

section SingleField

variable {f e : String} (hf : ',' ∉ f.toList) (record : Json)

include hf in
/-- An aggregate over one path compares the number of the field itself. -/
lemma matches_aggregate_of_notMem (aggregation : Aggregation) (comparison : Comparison)
    (e : String) :
    Rule.matches ⟨f, (Operator.aggregate aggregation comparison).symbol, e⟩ record =
      compares comparison (Field.amount (record.resolve? (Text.trim f))) e := by
  rw [matches_of_entries_eq_singleton (entries_of_notMem hf), Operator.ofSymbol?_symbol]
  rfl

include hf in
/-- So it matches what the test of the field matches, unless it asks what a text equals. -/
lemma matches_aggregate_eq (he : ',' ∉ e.toList) (aggregation : Aggregation)
    (comparison : Comparison)
    (h : comparison = .equal → ∀ s, record.resolve? (Text.trim f) ≠ some (.text s)) :
    Rule.matches ⟨f, (Operator.aggregate aggregation comparison).symbol, e⟩ record =
      Rule.matches ⟨f, (Operator.ofComparison comparison).symbol, e⟩ record := by
  have htries : (Operator.ofComparison comparison).triesCandidates = true := by
    cases comparison <;> rfl
  rw [matches_aggregate_of_notMem hf, matches_eq_passes (Operator.ofSymbol?_symbol _) htries hf he,
    Operator.passes_eq_compares comparison h, compares_congr (Numeral.read?_trim e)]

include hf in
/-- **Aggregates over one field are tests of that field.** They compare it in order as the tests of a
field do, and a product equals what a quotient equals. Where the field is no text, that is what the
field equals; where it is one, they equal the number it holds, unless that is zero. -/
theorem single_field_aggregates_are_scalar (he : ',' ∉ e.toList) :
    (∀ symbol ∈ ["*>", "/>"],
      Rule.matches ⟨f, symbol, e⟩ record = Rule.matches ⟨f, ">", e⟩ record) ∧
    (∀ symbol ∈ ["*<", "/<"],
      Rule.matches ⟨f, symbol, e⟩ record = Rule.matches ⟨f, "<", e⟩ record) ∧
    Rule.matches ⟨f, "*=", e⟩ record = Rule.matches ⟨f, "/=", e⟩ record ∧
    ∀ symbol ∈ ["*=", "/="],
      ((∀ s, record.resolve? (Text.trim f) ≠ some (.text s)) →
        Rule.matches ⟨f, symbol, e⟩ record = Rule.matches ⟨f, "=", e⟩ record) ∧
      ∀ s, record.resolve? (Text.trim f) = some (.text s) →
        (Rule.matches ⟨f, symbol, e⟩ record = true ↔
          (Field.amount (some (.text s))).isZero = false ∧
            Numeral.read? e = some (Field.amount (some (.text s)))) := by
  have horder : ∀ (aggregation : Aggregation) (comparison : Comparison), comparison ≠ .equal →
      Rule.matches ⟨f, (Operator.aggregate aggregation comparison).symbol, e⟩ record =
        Rule.matches ⟨f, (Operator.ofComparison comparison).symbol, e⟩ record :=
    fun aggregation comparison hne =>
      matches_aggregate_eq hf record he aggregation comparison fun hequal => absurd hequal hne
  refine ⟨fun symbol hsymbol => ?_, fun symbol hsymbol => ?_, ?_, fun symbol hsymbol => ?_⟩
  · rcases List.mem_pair.1 hsymbol with rfl | rfl
    · exact horder .product .greater (by decide)
    · exact horder .quotient .greater (by decide)
  · rcases List.mem_pair.1 hsymbol with rfl | rfl
    · exact horder .product .less (by decide)
    · exact horder .quotient .less (by decide)
  · exact (matches_aggregate_of_notMem hf record .product .equal e).trans
      (matches_aggregate_of_notMem hf record .quotient .equal e).symm
  · obtain ⟨aggregation, rfl⟩ : ∃ a, symbol = (Operator.aggregate a .equal).symbol := by
      rcases List.mem_pair.1 hsymbol with rfl | rfl
      · exact ⟨.product, rfl⟩
      · exact ⟨.quotient, rfl⟩
    refine ⟨fun htext => ?_, fun s hs => ?_⟩
    · exact matches_aggregate_eq hf record he aggregation .equal fun _ => htext
    · rw [matches_aggregate_of_notMem hf, hs]
      exact compares_equal_iff (Field.isFinite_amount _)

end SingleField

/-- A weight in a text equals five as a factor but not as a field, and it is less than six as both.
A truth value equals nothing either way. -/
theorem single_field_aggregates_are_scalar_weight :
    let record : Json := .object [("weight", .text "5 kg"), ("sold", .bool true)]
    (',' ∉ "weight".toList ∧ ',' ∉ "sold".toList ∧ ',' ∉ " 5.0 ".toList ∧ ',' ∉ "6".toList) ∧
      (record.resolve? (Text.trim "weight") = some (.text "5 kg") ∧
        Rule.matches ⟨"weight", "*=", " 5.0 "⟩ record = true ∧
        Rule.matches ⟨"weight", "=", " 5.0 "⟩ record = false) ∧
      ("/<" ∈ ["*<", "/<"] ∧ Rule.matches ⟨"weight", "/<", "6"⟩ record = true) ∧
      "/=" ∈ ["*=", "/="] ∧ (∀ s, record.resolve? (Text.trim "sold") ≠ some (.text s)) ∧
        Rule.matches ⟨"sold", "/=", "6"⟩ record = false := by
  intro record
  have hweight : ',' ∉ "weight".toList := by decide
  have hsold : ',' ∉ "sold".toList := by decide
  have hfive : ',' ∉ " 5.0 ".toList := by decide
  have hsix : ',' ∉ "6".toList := by decide
  have htext : record.resolve? (Text.trim "weight") = some (.text "5 kg") := rfl
  have htruth : ∀ s, record.resolve? (Text.trim "sold") ≠ some (.text s) := by
    intro s hs
    have hvalue : record.resolve? (Text.trim "sold") = some (.bool true) := rfl
    rw [hvalue] at hs
    exact nomatch hs
  refine ⟨⟨hweight, hsold, hfive, hsix⟩, ⟨htext, ?_, by decide +kernel⟩, ⟨by decide, ?_⟩, by decide,
    htruth, ?_⟩
  · obtain ⟨-, -, -, hequal⟩ := single_field_aggregates_are_scalar hweight record hfive
    exact ((hequal "*=" (by decide)).2 "5 kg" htext).2 (by decide +kernel)
  · obtain ⟨-, hless, -, -⟩ := single_field_aggregates_are_scalar hweight record hsix
    rw [hless "/<" (by decide)]
    decide +kernel
  · obtain ⟨-, -, -, hequal⟩ := single_field_aggregates_are_scalar hsold record hsix
    rw [(hequal "/=" (by decide)).1 htruth]
    decide +kernel

end Rule

end Sift
