import Sift.Proofs.Issue
import Sift.Proofs.Partition

set_option autoImplicit false
set_option relaxedAutoImplicit false

/-!
# Validation and compilation

Rules are looked at twice, once to report what is wrong with them and once to take them apart, and
both times operators are looked up and ranges are read. The reports agree with the parts: an operator
is reported as unknown where a compiled rule has none, and a range as malformed where a compiled range
has no bounds. Only a blank field is seen by validation alone.

The issues of a list are those of its rules in order. A list behind another one has the issues that it
has by itself, each of a rule that stands further on.

## Main definitions

* `Sift.RuleIssue.shift` — the same issue of a rule that stands further on.
* `Sift.RuleIssue.Describe` — issues of a rule agree with the parts of the compiled rule.

## Main results

* `Sift.Rule.bounds?_eq_none_iff` — a range is malformed unless it has exactly one comma.
* `Sift.Rule.describe_issues` — the issues of one rule.
* `Sift.filter_index_validate` — the issues of a list that are about one of its rules.
* `Sift.validate_append` — the issues of two lists, one after the other.
* `Sift.validation_tells_what_compilation_finds` — all this for lists of rules.
-/

namespace Sift

/-! ## Commas -/

/-- There is one piece more than there are separators. -/
lemma Text.length_pieces (separator : Char) (s : String) :
    (pieces separator s).length = s.toList.count separator + 1 := by
  rw [pieces, List.length_map]
  induction s.toList with
  | nil => rfl
  | cons c rest ih =>
    rw [List.splitOn_cons_eq_if_modifyHead, List.count_cons]
    split
    · simp [ih]
    · simp [ih]

namespace Rule

/-- **A range is malformed** unless there is exactly one comma in it. -/
theorem bounds?_eq_none_iff (expression : String) :
    bounds? expression = none ↔ expression.toList.count ',' ≠ 1 := by
  have hlength := Text.length_pieces ',' expression
  unfold bounds?
  generalize Text.pieces ',' expression = pieces at hlength
  rcases pieces with _ | ⟨low, _ | ⟨high, _ | ⟨other, rest⟩⟩⟩
  · exact nomatch hlength
  all_goals
    simp only [List.length_cons, List.length_nil] at hlength
    simp
    omega

end Rule

/-! ## The issues of one rule -/

namespace RuleIssue

/-- The same issue of a rule that stands `n` places further on. -/
def shift (n : Nat) : RuleIssue → RuleIssue
  | unknownOperator index operator => unknownOperator (n + index) operator
  | malformedRange index field expression => malformedRange (n + index) field expression
  | emptyField index => emptyField (n + index)

@[simp] lemma index_shift (n : Nat) (issue : RuleIssue) :
    (issue.shift n).index = n + issue.index := by
  cases issue <;> rfl

/-- Issues of the rule at an index agree with the parts of the compiled rule. -/
structure Describe (issues : List RuleIssue) (index : Nat) (r : Rule) (c : CompiledRule) : Prop where
  /-- These are the possible issues, each of them once and in this order. -/
  sublist : issues.Sublist [unknownOperator index r.operator,
    malformedRange index r.field r.expression, emptyField index]
  /-- A rule that is not active has none. -/
  inactive : r.isActive = false → issues = []
  /-- An operator is unknown if the compiled rule has none, -/
  unknown : unknownOperator index r.operator ∈ issues ↔ r.isActive = true ∧ c.operator = none
  /-- and then there is no other issue. -/
  only : unknownOperator index r.operator ∈ issues → issues = [unknownOperator index r.operator]
  /-- A range is malformed if the compiled range has no bounds, -/
  malformed : malformedRange index r.field r.expression ∈ issues ↔
    r.isActive = true ∧ c.operator = some .between ∧ c.range = none
  /-- which is so unless its expression has exactly one comma. -/
  range : c.operator = some .between → (c.range = none ↔ r.expression.toList.count ',' ≠ 1)
  /-- A field is missing if it is blank and the operator looks at fields. -/
  empty : emptyField index ∈ issues ↔
    r.isActive = true ∧ (∃ op, c.operator = some op ∧ op.isWildcard = false) ∧
      Text.allBlank r.field = true

end RuleIssue

namespace Rule

/-- Where a rule stands shows in its issues only by its index. -/
lemma issues_add (r : Rule) (n index : Nat) :
    r.issues (n + index) = (r.issues index).map (RuleIssue.shift n) := by
  unfold issues
  split
  · rfl
  · split
    · rfl
    · split
      · rfl
      · rw [List.map_append]
        congr 1 <;> split <;> rfl

/-- A compiled range has the bounds that its expression gives. -/
lemma range_compile {r : Rule} (h : Operator.ofSymbol? r.operator = some .between) :
    r.compile.range = bounds? r.expression := if_pos h

/-- The possible issues of a rule in their order. -/
lemma issues_sublist (r : Rule) (index : Nat) :
    (r.issues index).Sublist [.unknownOperator index r.operator,
      .malformedRange index r.field r.expression, .emptyField index] := by
  have hreported : ∀ (p : Prop) [Decidable p] (issue : RuleIssue),
      (if p then [issue] else []).Sublist [issue] := by
    intro p _ issue
    split
    · exact .refl _
    · exact List.nil_sublist _
  unfold issues
  split
  · exact List.nil_sublist _
  · split
    · exact List.Sublist.cons_cons _ (List.nil_sublist _)
    · split
      · exact List.nil_sublist _
      · exact .cons _ ((hreported _ _).append (hreported _ _))

/-- **The issues of a rule agree with its parts.** -/
theorem describe_issues (r : Rule) (index : Nat) :
    RuleIssue.Describe (r.issues index) index r r.compile where
  sublist := r.issues_sublist index
  inactive h := by simp [issues, h]
  unknown := by simp [mem_issues_iff, compile]
  only h := by
    obtain ⟨hactive, ⟨hop, -⟩ | ⟨op, -, -, ⟨-, -, h⟩ | ⟨-, h⟩⟩⟩ := (r.mem_issues_iff _ _).1 h
    · simp [issues, hactive, hop]
    · exact RuleIssue.noConfusion h
    · exact RuleIssue.noConfusion h
  malformed := by
    rw [mem_issues_iff]
    refine and_congr_right fun _ => ?_
    constructor
    · rintro (⟨-, h⟩ | ⟨op, hop, -, ⟨rfl, hbounds, -⟩ | ⟨-, h⟩⟩)
      · exact RuleIssue.noConfusion h
      · exact ⟨hop, (range_compile hop).trans hbounds⟩
      · exact RuleIssue.noConfusion h
    · rintro ⟨hop, hrange⟩
      exact .inr ⟨.between, hop, rfl, .inl ⟨rfl, (range_compile hop).symm.trans hrange, rfl⟩⟩
  range h := by rw [range_compile h, bounds?_eq_none_iff]
  empty := by
    simp [mem_issues_iff, compile, ← exists_and_right, and_assoc]

end Rule

/-! ## The issues of several rules -/

/-- **The issues of two lists, one after the other**: those of the second list are of rules that stand
behind the first. -/
theorem validate_append (rules others : List Rule) :
    validate (rules ++ others) =
      validate rules ++ (validate others).map (RuleIssue.shift rules.length) := by
  simp only [validate, List.zipIdx_append, List.flatMap_append, List.map_flatMap]
  congr 1
  rw [List.zipIdx_eq_map_add, List.flatMap_map]
  refine List.flatMap_congr fun x _ => ?_
  rw [Nat.zero_add]
  exact x.1.issues_add rules.length x.2

lemma validate_cons (r : Rule) (rest : List Rule) :
    validate (r :: rest) = r.issues 0 ++ (validate rest).map (RuleIssue.shift 1) := by
  have hsingle : validate [r] = r.issues 0 := List.append_nil _
  rw [← List.singleton_append, validate_append, hsingle]
  rfl

/-- **The issues of a list that are about one of its rules** are those of that rule.

**Proof sketch.** Induction on the list. The issues of the first rule have the index 0, and those of
the others are shifted by one. -/
theorem filter_index_validate {rules : List Rule} {index : Nat} {r : Rule}
    (hr : rules[index]? = some r) :
    (validate rules).filter (fun issue => issue.index = index) = r.issues index := by
  induction rules generalizing index with
  | nil => exact nomatch hr
  | cons first rest ih =>
    rw [validate_cons, List.filter_append, List.filter_map]
    cases index with
    | zero =>
      obtain rfl : first = r := Option.some.inj hr
      have hall : ∀ issue ∈ first.issues 0, decide (issue.index = 0) = true :=
        fun issue h => decide_eq_true (Rule.index_of_mem_issues h)
      rw [List.filter_eq_self.2 hall]
      simp [Function.comp_def]
    | succ index =>
      have hnone : ∀ issue ∈ first.issues 0, ¬decide (issue.index = index + 1) = true := by
        intro issue h
        simp [Rule.index_of_mem_issues h]
      have hshift : ((fun issue => decide (issue.index = index + 1)) ∘ RuleIssue.shift 1) =
          fun issue => decide (issue.index = index) := by
        funext issue
        simp only [Function.comp_apply, RuleIssue.index_shift, decide_eq_decide]
        omega
      rw [List.filter_eq_nil_iff.2 hnone, List.nil_append, hshift, ih hr, ← Rule.issues_add,
        Nat.add_comm]

/-- The issues of a list are in the order of the rules. -/
lemma pairwise_index_validate (rules : List Rule) :
    (validate rules).Pairwise fun x y => x.index ≤ y.index := by
  rw [validate, List.pairwise_flatMap]
  constructor
  · rintro ⟨r, index⟩ -
    refine List.pairwise_of_forall_mem_list fun x hx y hy => ?_
    rw [Rule.index_of_mem_issues hx, Rule.index_of_mem_issues hy]
  · refine (pairwise_zipIdx rules).imp fun hlt x hx y hy => ?_
    rw [Rule.index_of_mem_issues hx, Rule.index_of_mem_issues hy]
    exact Nat.le_of_lt hlt

lemma index_lt_of_mem_validate {rules : List Rule} {issue : RuleIssue} (h : issue ∈ validate rules) :
    issue.index < rules.length := by
  obtain ⟨r, hr, -⟩ := (mem_validate_iff rules issue).1 h
  exact (List.getElem?_eq_some_iff.1 hr).1

/-- Rules pass the check iff they have no issues. -/
lemma check_eq_ok_iff (rules : List Rule) : check rules = .ok () ↔ validate rules = [] := by
  unfold check
  cases validate rules <;> simp

/-- Rules that do not pass the check fail it with the first of their issues. -/
lemma check_eq_error_iff (rules : List Rule) (error : RuleError) :
    check rules = .error error ↔
      ∃ issue rest, validate rules = issue :: rest ∧ error = issue.toError := by
  unfold check
  cases validate rules with
  | nil => simp
  | cons issue rest => simp [eq_comm]

/-- **Validation tells what compilation finds.** The issues of a list are in the order of its rules,
and those about one rule agree with the parts of that rule in the compiled list, under any settings.
Lists one after the other have the issues of each of them, in which the rules of the second list
stand further on. A list passes the check iff it has no issues, and otherwise the check fails with
the first of them. -/
theorem validation_tells_what_compilation_finds (rules : List Rule) :
    ((validate rules).Pairwise (fun x y => x.index ≤ y.index) ∧
      ∀ issue ∈ validate rules, issue.index < rules.length) ∧
    (∀ (e : Engine) (index : Nat) (r : Rule), rules[index]? = some r →
      ∃ c, (e.compile rules).value[index]? = some c ∧
        RuleIssue.Describe ((validate rules).filter fun issue => issue.index = index) index r c) ∧
    (∀ others : List Rule, validate (rules ++ others) =
      validate rules ++ (validate others).map (RuleIssue.shift rules.length)) ∧
    (check rules = .ok () ↔ validate rules = []) ∧
    ∀ error, check rules = .error error ↔
      ∃ issue rest, validate rules = issue :: rest ∧ error = issue.toError := by
  refine ⟨⟨pairwise_index_validate rules, fun issue => index_lt_of_mem_validate⟩,
    fun e index r hr => ?_, validate_append rules, check_eq_ok_iff rules, check_eq_error_iff rules⟩
  refine ⟨r.compile, ?_, ?_⟩
  · rw [Engine.value_compile, List.getElem?_map, hr]
    rfl
  · rw [filter_index_validate hr]
    exact r.describe_issues index

/-- Behind a rule without an expression there is a range with two commas and a blank field, which has
both issues, the one about the range first; the check fails with that one, and the rules in front of
others do not change what is wrong with these. -/
theorem validation_tells_what_compilation_finds_two_issues :
    let rules : List Rule := [⟨"price", "~", ""⟩, ⟨" ", "><", "1,2,3"⟩, ⟨"", "*", "_"⟩]
    rules[1]? = some ⟨" ", "><", "1,2,3"⟩ ∧
      validate rules = [.malformedRange 1 " " "1,2,3", .emptyField 1] ∧
      (.malformedRange 1 " " "1,2,3") ∈ (validate rules).filter (fun issue => issue.index = 1) ∧
      (.emptyField 1) ∈ (validate rules).filter (fun issue => issue.index = 1) ∧
      check rules = .error (.malformedRange " " "1,2,3") ∧
      validate (rules ++ [⟨"x", ">=", "1"⟩]) = validate rules ++ [.unknownOperator 3 ">="] := by
  intro rules
  have hrule : rules[1]? = some ⟨" ", "><", "1,2,3"⟩ := rfl
  have hissues : validate rules = [.malformedRange 1 " " "1,2,3", .emptyField 1] := by decide
  obtain ⟨-, hdescribe, happend, -, hcheck⟩ := validation_tells_what_compilation_finds rules
  obtain ⟨c, hc, h⟩ := hdescribe {} 1 _ hrule
  obtain rfl : Rule.compile ⟨" ", "><", "1,2,3"⟩ = c := Option.some.inj hc
  refine ⟨hrule, hissues, h.malformed.2 ⟨rfl, rfl, rfl⟩, h.empty.2 ⟨rfl, ⟨_, rfl, rfl⟩, rfl⟩, ?_, ?_⟩
  · exact (hcheck _).2 ⟨_, _, hissues, rfl⟩
  · rw [happend]
    rfl

end Sift
