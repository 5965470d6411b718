import Sift.Engine.Basic

set_option autoImplicit false
set_option relaxedAutoImplicit false

/-!
# Match reports

An account of how rules fared on one record: which were tried, which matched, and where trying
stopped. Rules are tried in order, and the first active rule that does not match ends it.

## Main definitions

* `Sift.MatchReport`: the account.
* `Sift.TraceLine`: what became of one rule.
* `Sift.Engine.explain`: the account of rules on a record.
-/

namespace Sift

/-- What became of the rule at an index. -/
inductive TraceLine
  /-- The rule is not active. -/
  | skipped (index : Nat)
  /-- The rule was tried. -/
  | tried (index : Nat) (rule : Rule) (matched : Bool)
  /-- The rule did not match, and no further rule was tried. -/
  | stopped (index : Nat)
deriving DecidableEq

/-- The text of a line. -/
def TraceLine.text : TraceLine → String
  | skipped index => s!"#{index}: 跳过（表达式或操作符为空）"
  | tried index rule matched =>
    let verdict := if matched then "MATCHED" else "NOT_MATCHED"
    s!"#{index}: {rule.shown} => {verdict}"
  | stopped index => s!"AND 短路 - 规则 #{index} 不匹配"

/-- How rules fared on a record. -/
structure MatchReport where
  /-- The record matches. -/
  matched : Bool
  /-- The number of active rules that were tried. -/
  evaluatedRules : Nat
  /-- The rules that matched. -/
  matchedRules : List String
  /-- What became of each rule, if this is asked for. -/
  trace : List TraceLine
deriving DecidableEq

namespace MatchReport

/-- One more line in front of the account. -/
def addLine (line : TraceLine) (report : MatchReport) : MatchReport :=
  { report with trace := line :: report.trace }

/-- One more rule that matched in front of the account. -/
def addMatch (rule : Rule) (report : MatchReport) : MatchReport :=
  { report with
    evaluatedRules := report.evaluatedRules + 1
    matchedRules := rule.shown :: report.matchedRules }

/-- The account of the rules from an index on, where `matched` tells whether a rule before them has
matched. -/
def ofRules (record : Json) (matched : Bool) : Nat → List CompiledRule → MatchReport
  | _, [] => ⟨matched, 0, [], []⟩
  | index, r :: rest =>
    if !r.rule.isActive then
      (ofRules record matched (index + 1) rest).addLine (.skipped index)
    else if r.matches record then
      ((ofRules record true (index + 1) rest).addMatch r.rule).addLine (.tried index r.rule true)
    else
      ⟨false, 1, [], [.tried index r.rule false, .stopped index]⟩

end MatchReport

/-- The account of rules on a record. -/
def Engine.explain (e : Engine) (record : Json) (rules : List Rule) : Logged MatchReport := do
  let report := MatchReport.ofRules record false 0 (← e.compile rules)
  return if e.settings.traceEnabled then report else { report with trace := [] }

end Sift
