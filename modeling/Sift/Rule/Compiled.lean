import Sift.Rule.Basic
import Sift.Rule.Operator
import Sift.Record.Numeral
import Sift.Text.Split

set_option autoImplicit false
set_option relaxedAutoImplicit false

/-!
# Compiled rules

A rule taken apart once, so that it can be tried on many records: its operator looked up, its lists
divided, its range read.

## Main definitions

* `Sift.CompiledRule`: a rule with its parts.
* `Sift.Rule.compile`: the parts of a rule.
* `Sift.requiredFields`: the paths that a list of rules names, without the empty one.
-/

namespace Sift

/-- A rule with its parts. -/
structure CompiledRule where
  /-- The rule itself. -/
  rule : Rule
  /-- The operator that the rule's symbol stands for, if it stands for one. -/
  operator : Option Operator
  /-- The paths that the field lists. -/
  fields : List String
  /-- The candidates that the expression lists. -/
  values : List String
  /-- The two bounds of a range. -/
  range : Option (Binary64 × Binary64)

namespace Rule

/-- The entries of a list with commas between them, without the blanks around each entry. -/
def entries (s : String) : List String :=
  (Text.pieces ',' s).map Text.trim

/-- The bounds of a range, which are two numbers with one comma between them. -/
def bounds? (expression : String) : Option (Binary64 × Binary64) :=
  match Text.pieces ',' expression with
  | [low, high] => some (Numeral.first low, Numeral.first high)
  | _ => none

/-- The parts of a rule. Every rule has them: what cannot be read is absent. -/
def compile (r : Rule) : CompiledRule :=
  let operator := Operator.ofSymbol? r.operator
  { rule := r
    operator
    fields := entries r.field
    values := entries r.expression
    range := if operator = some .between then bounds? r.expression else none }

end Rule

/-- The paths that the active rules name, in the order of their code points. The empty path is left
out, although matching looks at it like at any other. -/
def requiredFields (rules : List Rule) : List String :=
  let fields := (rules.filter Rule.isActive).flatMap fun r => r.compile.fields
  ((fields.filter (!·.isEmpty)).eraseDups).mergeSort fun a b => decide (a ≤ b)

end Sift
