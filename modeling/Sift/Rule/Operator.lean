set_option autoImplicit false
set_option relaxedAutoImplicit false

/-!
# Operators

The tests that a rule can make, and the symbols they are written with. An aggregate operator first
combines the numbers of several fields into one.

## Main definitions

* `Sift.Operator`: the tests.
* `Sift.Operator.table`: the symbol of every operator.
* `Sift.Operator.ofSymbol?`, `Sift.Operator.symbol`: between symbols and operators.

## Main results

* `Sift.Operator.ofSymbol?_symbol`: the symbol of an operator stands for that operator.
-/

namespace Sift

/-- How two numbers are compared. -/
inductive Comparison
  /-- The numbers are equal. -/
  | equal
  /-- The first number is the greater one. -/
  | greater
  /-- The first number is the lesser one. -/
  | less
deriving DecidableEq

/-- How the numbers of several fields are combined into one. -/
inductive Aggregation
  /-- The numbers are multiplied. -/
  | product
  /-- The first number is divided by each of the others. -/
  | quotient
deriving DecidableEq

/-- The test that a rule makes. -/
inductive Operator
  /-- Every record passes. -/
  | includeAll
  /-- No record passes. -/
  | excludeAll
  /-- A field equals a candidate. -/
  | equal
  /-- A field differs from a candidate. -/
  | notEqual
  /-- A field contains a candidate. -/
  | like
  /-- A field does not contain a candidate. -/
  | notLike
  /-- A field is greater than a candidate. -/
  | greater
  /-- A field is less than a candidate. -/
  | less
  /-- A field lies strictly between two bounds. -/
  | between
  /-- A field has a truth value. -/
  | boolEqual
  /-- A combination of fields compares with a number. -/
  | aggregate (aggregation : Aggregation) (comparison : Comparison)
deriving DecidableEq

/-- The symbol of a comparison. -/
def Comparison.symbol : Comparison → String
  | equal => "="
  | greater => ">"
  | less => "<"

namespace Operator

/-- The symbol of every operator. -/
def table : List (String × Operator) :=
  [("*", includeAll),
   ("!*", excludeAll),
   ("=", equal),
   ("!=", notEqual),
   ("%", like),
   ("!%", notLike),
   (">", greater),
   ("<", less),
   ("===", boolEqual),
   ("><", between),
   ("*=", aggregate .product .equal),
   ("*>", aggregate .product .greater),
   ("*<", aggregate .product .less),
   ("/=", aggregate .quotient .equal),
   ("/>", aggregate .quotient .greater),
   ("/<", aggregate .quotient .less)]

/-- All operators, in the order of the table. -/
def all : List Operator :=
  table.map (·.2)

/-- The operator that a symbol stands for. -/
def ofSymbol? (symbol : String) : Option Operator :=
  table.lookup symbol

/-- The symbol of an operator. -/
def symbol : Operator → String
  | includeAll => "*"
  | excludeAll => "!*"
  | equal => "="
  | notEqual => "!="
  | like => "%"
  | notLike => "!%"
  | greater => ">"
  | less => "<"
  | boolEqual => "==="
  | between => "><"
  | aggregate .product c => "*" ++ c.symbol
  | aggregate .quotient c => "/" ++ c.symbol

/-- The comparison of an operator that combines fields. -/
def comparison? : Operator → Option Comparison
  | aggregate _ c => some c
  | _ => none

/-- Whether an operator combines fields before it compares. -/
def isAggregate (op : Operator) : Bool :=
  op.comparison?.isSome

/-- Whether an operator looks at no field. -/
def isWildcard (op : Operator) : Bool :=
  op = includeAll ∨ op = excludeAll

/-- The symbol of an operator stands for that operator. -/
theorem ofSymbol?_symbol (op : Operator) : ofSymbol? op.symbol = some op := by
  cases op with
  | aggregate a c => cases a <;> cases c <;> rfl
  | _ => rfl

end Operator

end Sift
