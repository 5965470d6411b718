import Mathlib.Data.List.TakeWhile
import Sift.Rule.Matching
import Sift.Proofs.Exactness
import Sift.Proofs.Listing

set_option autoImplicit false
set_option relaxedAutoImplicit false

/-!
# Rules over a single field

A rule that lists one path is a test of the value at that path. The test compares an aggregate as it
compares the number of the field itself, since a product and a quotient of one number are that
number.

## Main definitions

* `Sift.Operator.accepts` — the test of an operator with the whole expression of a rule.
* `Sift.Operator.AcceptsMissing` — the expressions with which a missing field passes it.

## Main results

* `Sift.Rule.matches_of_entries_eq_singleton` — a rule over one path is the test of its operator.
* `Sift.Operator.accepts_none_iff` — which tests a missing field passes.
* `Sift.Rule.entries_of_allBlank`, `Sift.Json.resolve?_empty` — a blank field lists the empty path,
  which leads to the member whose name is empty.
-/

namespace Sift

/-! ## The test of one field -/

/-- A combination of one number is that number. -/
lemma Aggregation.combine_singleton (aggregation : Aggregation) (x : Binary64) :
    aggregation.combine [x] = x := by
  cases aggregation with
  | product => simp only [combine, List.foldl_cons, List.foldl_nil, Binary64.one_mul]
  | quotient => rfl

namespace Operator

/-- The test that an operator makes of a field with the whole expression of a rule. -/
def accepts (op : Operator) (expression : String) (field : Option Json) : Bool :=
  match op with
  | .includeAll => true
  | .excludeAll => false
  | .aggregate _ comparison => compares comparison (Field.amount field) expression
  | .between =>
    (Rule.bounds? expression).any fun (low, high) =>
      low.lt (Field.amount field) && (Field.amount field).lt high
  | op => (Rule.entries expression).any fun candidate => op.passes field candidate

end Operator

namespace Rule

/-- **A rule over one path** tests the value at that path; one with an unknown operator matches
nothing. -/
theorem matches_of_entries_eq_singleton {r : Rule} {path : String} (h : entries r.field = [path])
    (record : Json) :
    r.matches record =
      (Operator.ofSymbol? r.operator).any fun op =>
        op.accepts r.expression (record.resolve? path) := by
  simp only [Rule.matches, CompiledRule.matches, compile, h]
  cases Operator.ofSymbol? r.operator with
  | none => rfl
  | some op =>
    cases op with
    | aggregate aggregation comparison =>
      simp only [List.map_cons, List.map_nil, Aggregation.combine_singleton]
      rfl
    | between =>
      simp only [if_true, List.any_cons, List.any_nil, Bool.or_false, Option.any_some,
        Operator.accepts]
      cases bounds? r.expression <;> rfl
    | _ =>
      simp only [List.any_cons, List.any_nil, Bool.or_false, Option.any_some, Operator.accepts]

lemma entries_ne_nil (s : String) : entries s ≠ [] := by
  simp [entries, Text.pieces, List.splitOn_ne_nil]

end Rule

/-! ## Missing fields -/

namespace Operator

/-- The expressions with which a missing field passes the test of an operator. It differs from every
candidate and contains none, it is false, and its number is zero, which equals nothing. -/
def AcceptsMissing (expression : String) : Operator → Prop
  | .includeAll | .notEqual | .notLike => True
  | .excludeAll | .equal | .like | .aggregate _ .equal => False
  | .greater =>
    ∃ candidate ∈ Rule.entries expression, ∃ x, Numeral.read? candidate = some x ∧ x.lt .zero
  | .less =>
    ∃ candidate ∈ Rule.entries expression, ∃ x, Numeral.read? candidate = some x ∧
      Binary64.zero.lt x
  | .boolEqual => ∃ candidate ∈ Rule.entries expression, candidate ≠ "true"
  | .between =>
    ∃ low high, Rule.bounds? expression = some (low, high) ∧ low.lt .zero ∧ Binary64.zero.lt high
  | .aggregate _ .greater => ∃ x, Numeral.read? expression = some x ∧ x.lt .zero
  | .aggregate _ .less => ∃ x, Numeral.read? expression = some x ∧ Binary64.zero.lt x

@[simp] lemma amount_none : Field.amount none = .zero := rfl

/-- **A missing field passes a test** with the expressions listed above and no others. -/
theorem accepts_none_iff (op : Operator) (expression : String) :
    op.accepts expression none = true ↔ op.AcceptsMissing expression := by
  -- the negated tests pass with the first candidate, and there is always one
  have hsome : ∃ candidate, candidate ∈ Rule.entries expression :=
    List.exists_mem_of_ne_nil _ (Rule.entries_ne_nil expression)
  cases op with
  | includeAll => simp [accepts, AcceptsMissing]
  | excludeAll => simp [accepts, AcceptsMissing]
  | equal => simp [accepts, AcceptsMissing, passes, Field.equals, Field.isFalsy]
  | notEqual => simpa [accepts, AcceptsMissing, passes, Field.equals, Field.isFalsy] using hsome
  | like => simp [accepts, AcceptsMissing, passes, Field.isLike, Field.searchable?]
  | notLike =>
    simpa [accepts, AcceptsMissing, passes, Field.isLike, Field.searchable?] using hsome
  | greater => simp [accepts, AcceptsMissing, passes, compares, Option.any_eq_true]
  | less => simp [accepts, AcceptsMissing, passes, compares, Option.any_eq_true]
  | boolEqual => simp [accepts, AcceptsMissing, passes, Field.hasTruth, Field.isFalsy]
  | between => simp [accepts, AcceptsMissing, Option.any_eq_true]
  | aggregate aggregation comparison =>
    cases comparison <;> simp [accepts, AcceptsMissing, compares, Option.any_eq_true]

end Operator

namespace Rule

/-! ## Blank fields -/

/-- Cutting the blanks off a text of blanks leaves nothing. -/
lemma trim_of_allBlank {s : String} (h : Text.allBlank s = true) : Text.trim s = "" := by
  have hdrop : s.toList.dropWhile Text.isBlank = [] := by
    rw [List.dropWhile_eq_nil_iff]
    exact List.all_eq_true.1 h
  rw [Text.trim, Text.trimChars, hdrop]
  rfl

/-- A text of blanks has no comma, so it lists one entry, which is empty. -/
theorem entries_of_allBlank {s : String} (h : Text.allBlank s = true) : entries s = [""] := by
  have hcomma : ',' ∉ s.toList := by
    intro hmem
    have hblank : Text.isBlank ',' = true := List.all_eq_true.1 h ',' hmem
    exact absurd hblank (by decide)
  rw [entries_of_notMem hcomma, trim_of_allBlank h]

end Rule

/-- The empty path leads to the member whose name is empty. -/
theorem Json.resolve?_empty (record : Json) : record.resolve? "" = record.member? "" := by
  have hpieces : Text.pieces '.' "" = [""] := by decide
  have hword : Text.word? "" = none := by decide
  rw [resolve?, hpieces]
  cases record with
  | object members => simp [step?, member?]
  | array elements => simp [step?, member?, hword]
  | _ => rfl

end Sift
