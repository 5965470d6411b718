import Mathlib.Logic.Basic
import Sift.Engine.Report

set_option autoImplicit false
set_option relaxedAutoImplicit false

/-!
# Rules tried together

The trial of a list of rules on a record passes over the rules that are not active, remembers the
verdict of the last active one, and stops at the first that does not match. Its outcome depends on
the set of active rules alone: there has to be one, and every one has to match.

Matching and match reports each run this trial; the two runs are compared step by step.

## Main results

* `Sift.verdict_eq_true_iff` — what the trial finds out, from any state of it on.
* `Sift.matchesAll_iff` — rules match a record iff there is an active one and every active one
  matches.
* `Sift.matchesAll_congr` — the order, the repetitions and the inactive rules of a list do not
  matter.
* `Sift.MatchReport.matched_ofRules` — the trial of a match report has the same outcome.
-/

namespace Sift

@[simp] lemma Rule.rule_compile (r : Rule) : r.compile.rule = r := rfl

@[simp] lemma Rule.fields_compile (r : Rule) : r.compile.fields = Rule.entries r.field := rfl

/-! ## The trial -/

/-- From any state on, the trial ends well iff a rule has matched or is still to be tried, and
every active rule that is still to be tried matches. -/
theorem verdict_eq_true_iff (record : Json) (rules : List CompiledRule) (matched : Bool) :
    verdict record matched rules = true ↔
      (matched = true ∨ ∃ r ∈ rules, r.rule.isActive = true) ∧
        ∀ r ∈ rules, r.rule.isActive = true → r.matches record = true := by
  induction rules generalizing matched with
  | nil => simp [verdict]
  | cons r rest ih =>
    by_cases hactive : r.rule.isActive = true
    · by_cases hmatches : r.matches record = true
      · -- the remembered verdict is replaced, and `r` is the active rule that is asked for
        simp [verdict, hactive, hmatches, ih]
      · simp [verdict, hactive, hmatches]
    · simp [verdict, hactive, ih]

/-- **Rules match a record** iff one of them is active and every active one matches. -/
theorem matchesAll_iff (rules : List Rule) (record : Json) :
    matchesAll rules record = true ↔
      (∃ r ∈ rules, r.isActive = true) ∧
        ∀ r ∈ rules, r.isActive = true → r.matches record = true := by
  rw [matchesAll, matchesCompiled, verdict_eq_true_iff]
  simp [Rule.matches]

@[simp] lemma matchesAll_nil (record : Json) : matchesAll [] record = false := rfl

/-- An active rule that does not match decides the trial. -/
lemma matchesAll_eq_false_of_mem {rules : List Rule} {record : Json} {r : Rule} (hr : r ∈ rules)
    (hactive : r.isActive = true) (h : r.matches record = false) :
    matchesAll rules record = false := by
  rw [Bool.eq_false_iff, ne_eq, matchesAll_iff]
  rintro ⟨-, hall⟩
  rw [hall r hr hactive] at h
  exact Bool.noConfusion h

/-- **Only the set of active rules counts**: lists that have the same active rules, in whatever
order and however often, match the same records. -/
theorem matchesAll_congr {rules others : List Rule}
    (h : ∀ r, r.isActive = true → (r ∈ rules ↔ r ∈ others)) (record : Json) :
    matchesAll rules record = matchesAll others record := by
  have hexists : (∃ r ∈ rules, r.isActive = true) ↔ ∃ r ∈ others, r.isActive = true :=
    exists_congr fun r => and_congr_left (h r)
  have hforall : (∀ r ∈ rules, r.isActive = true → r.matches record = true) ↔
      ∀ r ∈ others, r.isActive = true → r.matches record = true := by
    refine forall_congr' fun r => ?_
    constructor
    · intro hall hr hactive
      exact hall ((h r hactive).2 hr) hactive
    · intro hall hr hactive
      exact hall ((h r hactive).1 hr) hactive
  rw [Bool.eq_iff_iff, matchesAll_iff, matchesAll_iff, hexists, hforall]

/-! ## Match reports -/

/-- A match report, which counts and lists the rules on its way, runs the same trial. -/
theorem MatchReport.matched_ofRules (record : Json) (matched : Bool) (index : Nat)
    (rules : List CompiledRule) :
    (MatchReport.ofRules record matched index rules).matched = verdict record matched rules := by
  induction rules generalizing matched index with
  | nil => rfl
  | cons r rest ih =>
    simp only [MatchReport.ofRules, verdict]
    split
    · exact ih matched (index + 1)
    · split
      · exact ih true (index + 1)
      · rfl

namespace Engine

@[simp] lemma value_compile (e : Engine) (rules : List Rule) :
    (e.compile rules).value = rules.map Rule.compile := rfl

@[simp] lemma value_accepts (e : Engine) (record : Json) (rules : List Rule) :
    (e.accepts record rules).value = matchesAll rules record := rfl

/-- The verdict of a report is that of matching, under any settings. -/
lemma matched_explain (e : Engine) (record : Json) (rules : List Rule) :
    (e.explain record rules).value.matched = matchesAll rules record := by
  have hmatched := MatchReport.matched_ofRules record false 0 (rules.map Rule.compile)
  simp only [explain, Logged.value_bind, Logged.value_pure, value_compile]
  split <;> exact hmatched

end Engine

end Sift
