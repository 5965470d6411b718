import Sift.Proofs.Alternatives
import Sift.Proofs.Finiteness

set_option autoImplicit false
set_option relaxedAutoImplicit false

/-!
# Negated tests

A negated rule asks for one field and one candidate that do not pass the test, so it fails where all
fields pass the test with all candidates. It is the negation of the rule without "not" only where
there is one field and one candidate. With two candidates no field can equal both, unless they are
one text or stand for one number, and so a difference from one of them is no condition at all.

## Main results

* `Sift.Field.eq_of_equals` — what two candidates have in common that one field equals.
* `Sift.Rule.matches_eq_false_iff_of_passes_eq_not` — the dual of a test.
* `Sift.Rule.negated_rule_is_dual` — both negated tests, and differences from two candidates.
-/

namespace Sift

/-! ## Equality with candidates -/

/-- **Two candidates that one field equals** are one text, or they stand for one number other than
zero. -/
theorem Field.eq_of_equals {field : Option Json} {c d : String} (hc : equals field c = true)
    (hd : equals field d = true) :
    c = d ∨ ∃ x, Numeral.read? c = some x ∧ Numeral.read? d = some x ∧ x.isZero = false := by
  rcases field with _ | v
  · exact Bool.noConfusion hc
  · cases v with
    | text s =>
      simp only [equals, Bool.and_eq_true, beq_iff_eq] at hc hd
      exact Or.inl (hc.2.symm.trans hd.2)
    | number n =>
      refine Or.inr ?_
      have hread : ∀ e : String, equals (some (.number n)) e = true →
          ∃ x, Numeral.read? e = some x ∧ n.toBinary64.isZero = false ∧
            x.position? = n.toBinary64.position? := by
        intro e he
        simp only [equals, isFalsy, Number.isZero, Bool.and_eq_true, Bool.not_eq_true',
          Literal.ofText] at he
        cases hnumeral : Numeral.read? e with
        | none =>
          rw [hnumeral] at he
          exact Bool.noConfusion he.2
        | some x =>
          rw [hnumeral] at he
          obtain ⟨place, hn, hx⟩ := Binary64.eq_iff_exists_position?.1 he.2
          exact ⟨x, rfl, he.1, hx.trans hn.symm⟩
      obtain ⟨x, hx, hzero, hplace⟩ := hread c hc
      obtain ⟨y, hy, -, hplace'⟩ := hread d hd
      have hne : x.isZero = false := by
        rw [Binary64.isZero, hplace]
        exact hzero
      obtain rfl : x = y :=
        Binary64.eq_of_position?_eq (Numeral.isFinite_of_read?_eq_some hx)
          (Numeral.isFinite_of_read?_eq_some hy) hne (hplace.trans hplace'.symm)
      exact ⟨x, hx, hy, hne⟩
    | null | bool | array | object => simp [equals] at hc

namespace Rule

/-! ## Dual tests -/

section Dual

variable {positive negative : String} {op negated : Operator}

/-- A rule over one path with one candidate is one test. -/
lemma matches_of_mem_entries (hop : Operator.ofSymbol? positive = some op)
    (htries : op.triesCandidates = true) {f e path candidate : String} (hpath : path ∈ entries f)
    (hcandidate : candidate ∈ entries e) (record : Json) :
    Rule.matches ⟨path, positive, candidate⟩ record =
      op.passes (record.resolve? path) candidate := by
  rw [matches_eq_passes hop htries (notMem_of_mem_entries hpath)
    (notMem_of_mem_entries hcandidate), trim_of_mem_entries hpath, trim_of_mem_entries hcandidate]

/-- **The dual of a test.** Where one test is the negation of another, a rule with it fails iff the
rule with the other test matches for each path with each candidate. -/
theorem matches_eq_false_iff_of_passes_eq_not (hop : Operator.ofSymbol? positive = some op)
    (htries : op.triesCandidates = true) (hnegated : Operator.ofSymbol? negative = some negated)
    (htries' : negated.triesCandidates = true)
    (hdual : ∀ field candidate, negated.passes field candidate = !op.passes field candidate)
    (f e : String) (record : Json) :
    Rule.matches ⟨f, negative, e⟩ record = false ↔
      ∀ path ∈ entries f, ∀ candidate ∈ entries e,
        Rule.matches ⟨path, positive, candidate⟩ record = true := by
  rw [matches_eq_any_any hnegated htries', List.any_eq_false]
  refine forall₂_congr fun path hpath => ?_
  rw [Bool.not_eq_true, List.any_eq_false]
  refine forall₂_congr fun candidate hcandidate => ?_
  rw [hdual, Bool.not_eq_true, Bool.not_eq_false',
    matches_of_mem_entries hop htries hpath hcandidate]

/-- With one path and one candidate the dual of a test is its negation. -/
lemma matches_eq_not_of_passes_eq_not (hop : Operator.ofSymbol? positive = some op)
    (htries : op.triesCandidates = true) (hnegated : Operator.ofSymbol? negative = some negated)
    (htries' : negated.triesCandidates = true)
    (hdual : ∀ field candidate, negated.passes field candidate = !op.passes field candidate)
    {f e : String} (hf : ',' ∉ f.toList) (he : ',' ∉ e.toList) (record : Json) :
    Rule.matches ⟨f, negative, e⟩ record = !Rule.matches ⟨f, positive, e⟩ record := by
  rw [matches_eq_passes hnegated htries' hf he, matches_eq_passes hop htries hf he, hdual]

end Dual

/-! ## The negated tests -/

/-- **A negated rule is the dual of the rule without "not"**: it fails iff for each path and each
candidate that it lists the test passes. Where neither text has a comma, it is the negation. And a
rule that asks for a difference from two candidates, which are not one text and do not stand for one
number other than zero, matches every record. -/
theorem negated_rule_is_dual (f e : String) :
    (∀ record : Json,
      (Rule.matches ⟨f, "!=", e⟩ record = false ↔
        ∀ path ∈ entries f, ∀ candidate ∈ entries e,
          Rule.matches ⟨path, "=", candidate⟩ record = true) ∧
      (Rule.matches ⟨f, "!%", e⟩ record = false ↔
        ∀ path ∈ entries f, ∀ candidate ∈ entries e,
          Rule.matches ⟨path, "%", candidate⟩ record = true)) ∧
    (',' ∉ f.toList → ',' ∉ e.toList → ∀ record : Json,
      Rule.matches ⟨f, "!=", e⟩ record = !Rule.matches ⟨f, "=", e⟩ record ∧
        Rule.matches ⟨f, "!%", e⟩ record = !Rule.matches ⟨f, "%", e⟩ record) ∧
    ∀ c ∈ entries e, ∀ d ∈ entries e, c ≠ d →
      (¬∃ x, Numeral.read? c = some x ∧ Numeral.read? d = some x ∧ x.isZero = false) →
      ∀ record : Json, Rule.matches ⟨f, "!=", e⟩ record = true := by
  have hequal : ∀ field candidate,
      Operator.notEqual.passes field candidate = !Operator.equal.passes field candidate :=
    fun _ _ => rfl
  have hlike : ∀ field candidate,
      Operator.notLike.passes field candidate = !Operator.like.passes field candidate :=
    fun _ _ => rfl
  have hdiffer : ∀ record : Json, Rule.matches ⟨f, "!=", e⟩ record = false ↔
      ∀ path ∈ entries f, ∀ candidate ∈ entries e,
        Rule.matches ⟨path, "=", candidate⟩ record = true :=
    matches_eq_false_iff_of_passes_eq_not rfl rfl rfl rfl hequal f e
  refine ⟨fun record => ⟨hdiffer record, ?_⟩, fun hf he record => ⟨?_, ?_⟩, ?_⟩
  · exact matches_eq_false_iff_of_passes_eq_not rfl rfl rfl rfl hlike f e record
  · exact matches_eq_not_of_passes_eq_not rfl rfl rfl rfl hequal hf he record
  · exact matches_eq_not_of_passes_eq_not rfl rfl rfl rfl hlike hf he record
  · -- otherwise the value at any of the paths would equal both candidates
    intro c hc d hd hne hnumber record
    by_contra hfails
    rw [Bool.not_eq_true, hdiffer record] at hfails
    obtain ⟨path, hpath⟩ := List.exists_mem_of_ne_nil _ (entries_ne_nil f)
    have hfield : ∀ candidate ∈ entries e,
        Field.equals (record.resolve? path) candidate = true := by
      intro candidate hcandidate
      have hrule : Rule.matches ⟨path, "=", candidate⟩ record =
          Operator.equal.passes (record.resolve? path) candidate :=
        matches_of_mem_entries rfl rfl hpath hcandidate record
      exact hrule.symm.trans (hfails path hpath candidate hcandidate)
    rcases Field.eq_of_equals (hfield c hc) (hfield d hd) with heq | hsame
    · exact hne heq
    · exact hnumber hsame

/-- A record differs from one of the candidates `5.0` and `six`, whatever it is; `5` equals `5.0`
and `5`, and then it does not differ. -/
theorem negated_rule_is_dual_two_candidates :
    ("5.0" ∈ entries "5.0, six" ∧ "six" ∈ entries "5.0, six" ∧
      ∀ record : Json, Rule.matches ⟨"size", "!=", "5.0, six"⟩ record = true) ∧
    Rule.matches ⟨"size", "!=", "5.0,5"⟩
      (.object [("size", .number (.integer 5 (by decide)))]) = false ∧
    (',' ∉ "size".toList ∧ ',' ∉ "Six".toList ∧
      Rule.matches ⟨"size", "!%", "Six"⟩ (.object [("size", .text "sixty")]) = false) := by
  have hfirst : "5.0" ∈ entries "5.0, six" := by decide
  have hsecond : "six" ∈ entries "5.0, six" := by decide
  have hfield : ',' ∉ "size".toList := by decide
  have hexpression : ',' ∉ "Six".toList := by decide
  refine ⟨⟨hfirst, hsecond, fun record => ?_⟩, ?_, hfield, hexpression, ?_⟩
  · refine (negated_rule_is_dual "size" "5.0, six").2.2 "5.0" hfirst "six" hsecond (by decide) ?_
      record
    rintro ⟨x, -, hsix, -⟩
    have hnone : Numeral.read? "six" = none := by decide
    rw [hnone] at hsix
    exact nomatch hsix
  · refine (((negated_rule_is_dual "size" "5.0,5").1 _).1).2 ?_
    have hpaths : entries "size" = ["size"] := by decide
    have hcandidates : entries "5.0,5" = ["5.0", "5"] := by decide
    intro path hpath candidate hcandidate
    rw [hpaths, List.mem_singleton] at hpath
    rw [hcandidates, List.mem_pair] at hcandidate
    rcases hcandidate with rfl | rfl <;> subst hpath <;> decide +kernel
  · rw [((negated_rule_is_dual "size" "Six").2.1 hfield hexpression _).2]
    decide +kernel

end Rule

end Sift
