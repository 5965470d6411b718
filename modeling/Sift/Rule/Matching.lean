import Sift.Rule.Compiled
import Sift.Record.Path
import Sift.Record.Field
import Sift.Binary64.Arithmetic
import Sift.Text.Case

set_option autoImplicit false
set_option relaxedAutoImplicit false

/-!
# Matching records

Whether a rule matches a record. A rule over several fields and several candidates matches if one
field passes the test with one candidate; an aggregate compares the combination of all fields. What
cannot be tested does not match: matching never fails.

## Main definitions

* `Sift.Field.equals`, `Sift.Field.isLike`, `Sift.Field.hasTruth`, `Sift.compares`: the tests of one
  field.
* `Sift.Aggregation.combine`: one number from several.
* `Sift.CompiledRule.matches`, `Sift.Rule.matches`: one rule on one record.
* `Sift.verdict`, `Sift.matchesCompiled`, `Sift.matchesAll`: all active rules on one record.
-/

namespace Sift

/-! ## Tests of one field -/

namespace Field

/-- A field equals a candidate: a text by its characters, a number by its value. Falsy fields equal
nothing. -/
def equals (field : Option Json) (candidate : String) : Bool :=
  !isFalsy field &&
    match field with
    | some (.text s) => s == candidate
    | some (.number n) => (Literal.ofText candidate).isSame (.number n)
    | _ => false

/-- A field is open to a search: it is there and not falsy, or it is a truth value. -/
def searchable? : Option Json → Option Json
  | some (.bool b) => some (.bool b)
  | some v => if isFalsy (some v) then none else some v
  | none => none

/-- A field contains a candidate, upper and lower case aside. -/
def isLike (field : Option Json) (candidate : String) : Bool :=
  match searchable? field with
  | some v => Text.contains (Text.lower v.shown) (Text.lower candidate)
  | none => false

/-- A field has the truth value that the expression names: `true` is true and every other expression
is false. A falsy field is false, and a field that is neither falsy nor a truth value has none. -/
def hasTruth (field : Option Json) (expression : String) : Bool :=
  let wanted := expression == "true"
  if isFalsy field then !wanted
  else
    match field with
    | some (.bool b) => b == wanted
    | _ => false

end Field

/-- A number compares with an expression. The expression has to be a number, and a zero equals
nothing. -/
def compares (comparison : Comparison) (actual : Binary64) (expression : String) : Bool :=
  match comparison with
  | .equal => !actual.isZero && (Literal.ofText expression).isNumber actual
  | .greater => (Numeral.read? expression).any fun expected => expected.lt actual
  | .less => (Numeral.read? expression).any fun expected => actual.lt expected

/-- One number from several: their product, or the first divided by the others from left to right.
In a division a total of zero is replaced by the next number. -/
def Aggregation.combine (aggregation : Aggregation) (numbers : List Binary64) : Binary64 :=
  match aggregation with
  | .product => numbers.foldl .mul .one
  | .quotient =>
    numbers.foldl (fun total x => if total.isZero then x else total.div x) .zero

/-! ## Rules -/

/-- One field passes a test with one candidate. Operators that do not test a single field with a
single candidate pass nothing here. -/
def Operator.passes (op : Operator) (field : Option Json) (candidate : String) : Bool :=
  match op with
  | .equal => Field.equals field candidate
  | .notEqual => !Field.equals field candidate
  | .like => Field.isLike field candidate
  | .notLike => !Field.isLike field candidate
  | .greater => compares .greater (Field.amount field) candidate
  | .less => compares .less (Field.amount field) candidate
  | .boolEqual => Field.hasTruth field candidate
  | .includeAll | .excludeAll | .between | .aggregate .. => false

/-- The number that the field at a path holds. -/
def Json.amountAt (record : Json) (path : String) : Binary64 :=
  Field.amount (record.resolve? path)

/-- A rule, taken apart, matches a record. A rule with an unknown operator matches none. -/
def CompiledRule.matches (r : CompiledRule) (record : Json) : Bool :=
  match r.operator with
  | none => false
  | some .includeAll => true
  | some .excludeAll => false
  | some (.aggregate aggregation comparison) =>
    compares comparison (aggregation.combine (r.fields.map record.amountAt)) r.rule.expression
  | some .between =>
    match r.range with
    | some (low, high) =>
      r.fields.any fun path =>
        let actual := record.amountAt path
        low.lt actual && actual.lt high
    | none => false
  | some op =>
    r.fields.any fun path =>
      r.values.any fun candidate => op.passes (record.resolve? path) candidate

/-- A rule matches a record. Activity plays no part here. -/
def Rule.matches (r : Rule) (record : Json) : Bool :=
  r.compile.matches record

/-- The verdict of rules, taken apart, that are tried on a record one after the other. A rule that is
not active is passed over, and the first active one that does not match ends the trial; `matched` is
the verdict of the rules before them. -/
def verdict (record : Json) (matched : Bool) : List CompiledRule → Bool
  | [] => matched
  | r :: rest =>
    if !r.rule.isActive then verdict record matched rest
    else if r.matches record then verdict record true rest
    else false

/-- Rules, taken apart, match a record. Where none is active nothing matches. -/
def matchesCompiled (rules : List CompiledRule) (record : Json) : Bool :=
  verdict record false rules

/-- Rules match a record. -/
def matchesAll (rules : List Rule) (record : Json) : Bool :=
  matchesCompiled (rules.map Rule.compile) record

end Sift
