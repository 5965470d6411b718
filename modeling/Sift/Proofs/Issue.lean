import Sift.Rule.Issue
import Sift.Proofs.Selection
import Sift.Proofs.SingleField

set_option autoImplicit false
set_option relaxedAutoImplicit false

/-!
# What becomes of rules with issues

A rule with an unknown operator or a malformed range matches no record. A rule without a field is
different: its field lists the empty path, and matching follows it to the member of the record whose
name is empty. So such a rule matches the records whose unnamed member passes its test, and where
there is no such member, those whose test a missing field passes.

## Main definitions

* `Sift.RuleIssue.index` — the rule that an issue is about.
* `Sift.Rule.MatchesUnnamed` — the test of a rule passes for the member whose name is empty.

## Main results

* `Sift.Rule.mem_issues_iff`, `Sift.mem_validate_iff` — which issues a rule, and a list of rules, has.
* `Sift.Rule.matches_iff_of_mem_issues` — when a rule with an issue matches.
* `Sift.reported_rule_matches_iff` — the same for lists of rules, with what follows for selections.
-/

namespace Sift

/-! ## Issues -/

/-- The index of the rule that an issue is about. -/
def RuleIssue.index : RuleIssue → Nat
  | .unknownOperator index _ | .malformedRange index _ _ | .emptyField index => index

namespace Rule

/-- The issues of a rule: an unknown operator and nothing else, or for an operator that looks at
fields, a malformed range and a blank field. -/
theorem mem_issues_iff (r : Rule) (index : Nat) (issue : RuleIssue) :
    issue ∈ r.issues index ↔
      r.isActive = true ∧
        ((Operator.ofSymbol? r.operator = none ∧ issue = .unknownOperator index r.operator) ∨
          ∃ op, Operator.ofSymbol? r.operator = some op ∧ op.isWildcard = false ∧
            ((op = .between ∧ bounds? r.expression = none ∧
                issue = .malformedRange index r.field r.expression) ∨
              (Text.allBlank r.field = true ∧ issue = .emptyField index))) := by
  unfold issues
  by_cases hactive : r.isActive = true
  · cases Operator.ofSymbol? r.operator with
    | none => simp [hactive]
    | some op =>
      by_cases hwild : op.isWildcard = true
      · simp [hactive, hwild]
      · simp [hactive, hwild, and_assoc]
  · simp [hactive]

/-- An issue of a rule is about that rule. -/
lemma index_of_mem_issues {r : Rule} {index : Nat} {issue : RuleIssue}
    (h : issue ∈ r.issues index) : issue.index = index := by
  rw [mem_issues_iff] at h
  obtain ⟨-, ⟨-, rfl⟩ | ⟨-, -, -, ⟨-, -, rfl⟩ | ⟨-, rfl⟩⟩⟩ := h <;> rfl

end Rule

/-- The issues of a list of rules are those of its rules. -/
theorem mem_validate_iff (rules : List Rule) (issue : RuleIssue) :
    issue ∈ validate rules ↔
      ∃ r, rules[issue.index]? = some r ∧ issue ∈ r.issues issue.index := by
  simp only [validate, List.mem_flatMap, Prod.exists, List.mk_mem_zipIdx_iff_getElem?]
  constructor
  · rintro ⟨r, index, hr, hissue⟩
    obtain rfl := Rule.index_of_mem_issues hissue
    exact ⟨r, hr, hissue⟩
  · rintro ⟨r, hr, hissue⟩
    exact ⟨r, issue.index, hr, hissue⟩

/-! ## Matching -/

namespace Rule

/-- The test of a rule passes for the member of a record whose name is empty. -/
def MatchesUnnamed (r : Rule) (record : Json) : Prop :=
  ∃ op, Operator.ofSymbol? r.operator = some op ∧
    op.accepts r.expression (record.member? "") = true

/-- In a record without a member whose name is empty, the test has to pass for a missing field. -/
lemma matchesUnnamed_iff_of_member?_eq_none (r : Rule) {record : Json}
    (h : record.member? "" = none) :
    r.MatchesUnnamed record ↔
      ∃ op, Operator.ofSymbol? r.operator = some op ∧ op.AcceptsMissing r.expression := by
  simp only [MatchesUnnamed, h, Operator.accepts_none_iff]

/-- A rule with an unknown operator matches nothing. -/
lemma matches_eq_false_of_unknown {r : Rule} (h : Operator.ofSymbol? r.operator = none)
    (record : Json) : r.matches record = false := by
  simp only [Rule.matches, CompiledRule.matches, compile, h]

/-- A range without two bounds matches nothing, whatever fields it lists. -/
lemma matches_eq_false_of_malformed {r : Rule}
    (hop : Operator.ofSymbol? r.operator = some .between) (h : bounds? r.expression = none)
    (record : Json) : r.matches record = false := by
  simp only [Rule.matches, CompiledRule.matches, compile, hop, if_true, h]

/-- A rule with a blank field matches iff its test passes for the member whose name is empty. -/
lemma matches_iff_of_allBlank {r : Rule} (h : Text.allBlank r.field = true) (record : Json) :
    r.matches record = true ↔ r.MatchesUnnamed record := by
  rw [matches_of_entries_eq_singleton (entries_of_allBlank h), Json.resolve?_empty,
    Option.any_eq_true]
  rfl

/-- **When a rule with an issue matches**: the issue is that it has no field, and its test passes
for the member whose name is empty. -/
theorem matches_iff_of_mem_issues {r : Rule} {index : Nat} {issue : RuleIssue}
    (h : issue ∈ r.issues index) (record : Json) :
    r.matches record = true ↔ issue = .emptyField index ∧ r.MatchesUnnamed record := by
  rw [mem_issues_iff] at h
  obtain ⟨-, ⟨hop, rfl⟩ | ⟨op, hop, -, ⟨rfl, hbounds, rfl⟩ | ⟨hblank, rfl⟩⟩⟩ := h
  · simp [matches_eq_false_of_unknown hop]
  · simp [matches_eq_false_of_malformed hop hbounds]
  · simp [matches_iff_of_allBlank hblank]

end Rule

/-- **A reported rule matches a record in one case only**: it is reported for having no field, and its
test passes for the member of the record whose name is empty, or for a missing field in a record
without such a member. References each of whose records escapes this case for one of the reported
rules are not selected, and all of them are kept by a rejection. -/
theorem reported_rule_matches_iff (rules : List Rule) :
    (∀ issue ∈ validate rules, ∃ r, rules[issue.index]? = some r ∧ r.isActive = true ∧
      ∀ record : Json,
        (r.matches record = true ↔
          issue = .emptyField issue.index ∧ r.MatchesUnnamed record) ∧
        (record.member? "" = none → (r.MatchesUnnamed record ↔
          ∃ op, Operator.ofSymbol? r.operator = some op ∧ op.AcceptsMissing r.expression))) ∧
    ∀ (ι : Type) (e : Engine) (record : ι → Json) (refs : List ι),
      (∀ i ∈ refs, ∃ issue ∈ validate rules, ∃ r, rules[issue.index]? = some r ∧
        ¬(issue = .emptyField issue.index ∧ r.MatchesUnnamed (record i))) →
      (∀ i ∈ refs, matchesAll rules (record i) = false) ∧
        (e.select record refs rules).value = [] ∧ (e.reject record refs rules).value = refs := by
  refine ⟨fun issue hissue => ?_, fun ι e record refs hrefs => ?_⟩
  · obtain ⟨r, hr, hmem⟩ := (mem_validate_iff rules issue).1 hissue
    exact ⟨r, hr, ((r.mem_issues_iff _ _).1 hmem).1, fun record =>
      ⟨Rule.matches_iff_of_mem_issues hmem record, r.matchesUnnamed_iff_of_member?_eq_none⟩⟩
  · have hfalse : ∀ i ∈ refs, matchesAll rules (record i) = false := by
      intro i hi
      obtain ⟨issue, hissue, r, hr, hescapes⟩ := hrefs i hi
      obtain ⟨r', hr', hmem⟩ := (mem_validate_iff rules issue).1 hissue
      obtain rfl : r = r' := Option.some.inj (hr.symm.trans hr')
      have hactive : r.isActive = true := ((r.mem_issues_iff _ _).1 hmem).1
      refine matchesAll_eq_false_of_mem (List.mem_of_getElem? hr) hactive ?_
      rw [Bool.eq_false_iff, ne_eq, Rule.matches_iff_of_mem_issues hmem]
      exact hescapes
    refine ⟨hfalse, ?_, ?_⟩
    · rw [Engine.value_select, List.filter_eq_nil_iff]
      intro i hi
      rw [hfalse i hi]
      exact Bool.false_ne_true
    · rw [Engine.value_reject, List.filter_eq_self]
      intro i hi
      rw [hfalse i hi]
      rfl

/-- A rule that is reported for having no field matches the record without members, since it asks for a
difference; a rule with an unknown operator selects nothing. -/
theorem reported_rule_matches_iff_negated :
    RuleIssue.emptyField 0 ∈ validate [⟨"", "!=", "x"⟩] ∧
    Rule.matches ⟨"", "!=", "x"⟩ (.object []) = true ∧
    matchesAll [⟨"", "!=", "x"⟩] (.object []) = true ∧
    (Engine.select {} id [.object []] [⟨"price", ">=", "x"⟩]).value = [] := by
  have hreported : RuleIssue.emptyField 0 ∈ validate [⟨"", "!=", "x"⟩] := by decide
  obtain ⟨r, hr, -, hmatches⟩ := (reported_rule_matches_iff [⟨"", "!=", "x"⟩]).1 _ hreported
  obtain rfl : (⟨"", "!=", "x"⟩ : Rule) = r := Option.some.inj hr
  have hunnamed : Rule.MatchesUnnamed ⟨"", "!=", "x"⟩ (.object []) :=
    ((hmatches (.object [])).2 rfl).2 ⟨.notEqual, by decide, trivial⟩
  have hunknown : RuleIssue.unknownOperator 0 ">=" ∈ validate [⟨"price", ">=", "x"⟩] := by decide
  have hescapes : ∀ i ∈ [Json.object []], ∃ issue ∈ validate [⟨"price", ">=", "x"⟩],
      ∃ r, [(⟨"price", ">=", "x"⟩ : Rule)][issue.index]? = some r ∧
        ¬(issue = .emptyField issue.index ∧ r.MatchesUnnamed (id i)) :=
    fun _ _ => ⟨_, hunknown, _, rfl, fun h => RuleIssue.noConfusion h.1⟩
  exact ⟨hreported, (hmatches (.object [])).1.2 ⟨rfl, hunnamed⟩, by decide,
    ((reported_rule_matches_iff _).2 Json {} id [.object []] hescapes).2.1⟩

end Sift
