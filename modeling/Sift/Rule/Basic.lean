set_option autoImplicit false
set_option relaxedAutoImplicit false

/-!
# Rules

A rule of a filter as it is written: three texts.

## Main definitions

* `Sift.Rule`: a field, an operator and an expression.
* `Sift.Rule.isActive`: the rule takes part in matching.
-/

namespace Sift

/-- One rule of a filter. The field may list several paths and the expression several candidates,
with commas between them. -/
structure Rule where
  /-- The paths of the fields that the rule looks at. -/
  field : String
  /-- The symbol of the test that the rule makes. -/
  operator : String
  /-- What the fields are tested against. -/
  expression : String
deriving DecidableEq

namespace Rule

/-- A rule without an operator or without an expression is passed over in matching. -/
def isActive (r : Rule) : Bool :=
  !r.expression.isEmpty && !r.operator.isEmpty

/-- The rule as it is shown in reports. -/
def shown (r : Rule) : String :=
  r.field ++ " " ++ r.operator ++ " " ++ r.expression

end Rule

end Sift
