import Sift.Proofs.Listing
import Sift.Proofs.SingleField

set_option autoImplicit false
set_option relaxedAutoImplicit false

/-!
# Alternatives

A comma means "or". A rule that does not combine its fields matches if the value at one of its paths
passes the test, and most tests pass if they pass with one of the candidates. So a comma in the
field, and in the expression of such a test, divides the rule into two rules of which one has to
match, whatever is written on either side of it.

## Main definitions

* `Sift.Operator.triesCandidates` — the tests that pass if they pass with one candidate.

## Main results

* `Sift.Operator.ofSymbol?_eq_some_iff` — every operator has one symbol.
* `Sift.Rule.matches_eq_any` — a rule that does not combine its fields tests each of them.
* `Sift.Rule.matches_eq_any_any`, `Sift.Rule.matches_eq_passes` — the same with one candidate at a
  time, and without any comma.
* `Sift.Rule.comma_separates_alternatives` — a comma means "or".
-/

namespace Sift

namespace Operator

/-! ## Symbols -/

/-- Every operator has one symbol. -/
theorem ofSymbol?_eq_some_iff {symbol : String} {op : Operator} :
    ofSymbol? symbol = some op ↔ symbol = op.symbol := by
  constructor
  · intro h
    have htable : ∀ entry ∈ table, entry.1 = entry.2.symbol := by decide
    rw [ofSymbol?, List.lookup_eq_some_iff] at h
    obtain ⟨before, after, hsplit, -⟩ := h
    exact htable (symbol, op) (by rw [hsplit]; simp)
  · rintro rfl
    exact ofSymbol?_symbol op

/-- What is not the symbol of an aggregate stands for no aggregate. -/
lemma isAggregate_eq_false {symbol : String} {op : Operator}
    (h : symbol ∉ ["*=", "*>", "*<", "/=", "/>", "/<"]) (hop : ofSymbol? symbol = some op) :
    op.isAggregate = false := by
  rw [ofSymbol?_eq_some_iff] at hop
  subst hop
  cases op with
  | aggregate a c => exact absurd (by cases a <;> cases c <;> decide) h
  | _ => rfl

/-! ## Tests with one candidate at a time -/

/-- The tests that pass if they pass with one of the candidates that an expression lists. -/
def triesCandidates : Operator → Bool
  | equal | notEqual | like | notLike | greater | less | boolEqual => true
  | includeAll | excludeAll | between | aggregate .. => false

lemma accepts_eq_any {op : Operator} (h : op.triesCandidates = true) (expression : String)
    (field : Option Json) :
    op.accepts expression field =
      (Rule.entries expression).any fun candidate => op.passes field candidate := by
  cases op with
  | includeAll | excludeAll | between | aggregate => exact Bool.noConfusion h
  | _ => rfl

/-- No aggregate tries candidates. -/
lemma isAggregate_eq_false_of_triesCandidates {op : Operator} (h : op.triesCandidates = true) :
    op.isAggregate = false := by
  cases op with
  | aggregate => exact Bool.noConfusion h
  | _ => rfl

/-- A test that tries candidates passes with two lists of them put together if it passes with one of
the lists. -/
lemma accepts_append {op : Operator} (h : op.triesCandidates = true) (e₁ e₂ : String)
    (field : Option Json) :
    op.accepts (e₁ ++ "," ++ e₂) field = (op.accepts e₁ field || op.accepts e₂ field) := by
  simp only [accepts_eq_any h, Rule.entries_append, List.any_append]

end Operator

namespace Rule

variable {r : Rule} {op : Operator}

/-! ## Rules over several fields -/

/-- **A rule that does not combine its fields** matches if the value at one of its paths passes its
test. -/
theorem matches_eq_any (hop : Operator.ofSymbol? r.operator = some op)
    (h : op.isAggregate = false) (record : Json) :
    r.matches record =
      (entries r.field).any fun path => op.accepts r.expression (record.resolve? path) := by
  simp only [Rule.matches, CompiledRule.matches, compile, hop]
  cases op with
  | aggregate => exact Bool.noConfusion h
  | includeAll =>
    -- there is always a path, so the wildcard passes for one
    obtain ⟨path, hpath⟩ := List.exists_mem_of_ne_nil _ (entries_ne_nil r.field)
    exact (List.any_eq_true.2 ⟨path, hpath, rfl⟩).symm
  | excludeAll => exact (List.any_eq_false.2 fun _ _ => Bool.false_ne_true).symm
  | between =>
    simp only [if_true, Operator.accepts]
    cases bounds? r.expression with
    | none => exact (List.any_eq_false.2 fun _ _ => Bool.false_ne_true).symm
    | some bounds => rfl
  | _ => rfl

/-- A rule whose operator tries candidates matches if the value at one of its paths passes the test
with one of its candidates. -/
theorem matches_eq_any_any (hop : Operator.ofSymbol? r.operator = some op)
    (h : op.triesCandidates = true) (record : Json) :
    r.matches record =
      (entries r.field).any fun path =>
        (entries r.expression).any fun candidate => op.passes (record.resolve? path) candidate := by
  rw [matches_eq_any hop (Operator.isAggregate_eq_false_of_triesCandidates h)]
  simp only [Operator.accepts_eq_any h]

/-- Without a comma such a rule is one test, of the value at its path with its candidate. -/
theorem matches_eq_passes {f symbol e : String} (hop : Operator.ofSymbol? symbol = some op)
    (h : op.triesCandidates = true) (hf : ',' ∉ f.toList) (he : ',' ∉ e.toList) (record : Json) :
    Rule.matches ⟨f, symbol, e⟩ record =
      op.passes (record.resolve? (Text.trim f)) (Text.trim e) := by
  rw [matches_eq_any_any hop h, entries_of_notMem hf, entries_of_notMem he]
  simp only [List.any_cons, List.any_nil, Bool.or_false]

/-- Two tests of which one has to pass somewhere in a list. -/
lemma any_or {α : Type} (l : List α) (p q : α → Bool) :
    (l.any fun a => p a || q a) = (l.any p || l.any q) := by
  induction l with
  | nil => rfl
  | cons a rest ih =>
    rw [List.any_cons, List.any_cons, List.any_cons, ih]
    cases p a <;> cases q a <;> simp

/-- **A comma means "or".** In the field of a rule that does not combine its fields, also of one
whose operator is unknown, a comma divides the rule into two rules of which one has to match; and so
does a comma in the expression of a rule that tests a field with one candidate at a time. The texts
on either side of the comma may be anything. -/
theorem comma_separates_alternatives (record : Json) :
    (∀ symbol : String, symbol ∉ ["*=", "*>", "*<", "/=", "/>", "/<"] →
      ∀ f₁ f₂ e : String,
        Rule.matches ⟨f₁ ++ "," ++ f₂, symbol, e⟩ record =
          (Rule.matches ⟨f₁, symbol, e⟩ record || Rule.matches ⟨f₂, symbol, e⟩ record)) ∧
    ∀ symbol ∈ ["=", "!=", "%", "!%", ">", "<", "==="],
      ∀ f e₁ e₂ : String,
        Rule.matches ⟨f, symbol, e₁ ++ "," ++ e₂⟩ record =
          (Rule.matches ⟨f, symbol, e₁⟩ record || Rule.matches ⟨f, symbol, e₂⟩ record) := by
  constructor
  · intro symbol hsymbol f₁ f₂ e
    cases hop : Operator.ofSymbol? symbol with
    | none => simp only [Rule.matches, CompiledRule.matches, compile, hop, Bool.or_false]
    | some op =>
      have haggregate : op.isAggregate = false := Operator.isAggregate_eq_false hsymbol hop
      rw [matches_eq_any hop haggregate, matches_eq_any hop haggregate,
        matches_eq_any hop haggregate, entries_append, List.any_append]
  · intro symbol hsymbol f e₁ e₂
    obtain ⟨op, hop, htries⟩ : ∃ op, Operator.ofSymbol? symbol = some op ∧
        op.triesCandidates = true := by
      simp only [List.mem_cons, List.not_mem_nil, or_false] at hsymbol
      rcases hsymbol with rfl | rfl | rfl | rfl | rfl | rfl | rfl <;> exact ⟨_, rfl, rfl⟩
    have haggregate := Operator.isAggregate_eq_false_of_triesCandidates htries
    rw [matches_eq_any hop haggregate, matches_eq_any hop haggregate,
      matches_eq_any hop haggregate, ← any_or]
    simp only [Operator.accepts_append htries]

/-- A range with a stray comma in front of its field, and a difference from one of two
candidates. -/
theorem comma_separates_alternatives_stray_comma :
    let record : Json := .object [("price", .text "25 kg"), ("tag", .text "x")]
    ("><" ∉ ["*=", "*>", "*<", "/=", "/>", "/<"] ∧
      Rule.matches ⟨"" ++ "," ++ " price", "><", "20,30"⟩ record = true ∧
      Rule.matches ⟨"", "><", "20,30"⟩ record = false) ∧
    "!=" ∈ ["=", "!=", "%", "!%", ">", "<", "==="] ∧
      Rule.matches ⟨"tag", "!=", "x" ++ "," ++ " y "⟩ record = true ∧
      Rule.matches ⟨"tag", "!=", "x"⟩ record = false := by
  intro record
  obtain ⟨hfields, hcandidates⟩ := comma_separates_alternatives record
  have hrange : "><" ∉ ["*=", "*>", "*<", "/=", "/>", "/<"] := by decide
  have hdiffer : "!=" ∈ ["=", "!=", "%", "!%", ">", "<", "==="] := by decide
  refine ⟨⟨hrange, ?_, by decide +kernel⟩, hdiffer, ?_, by decide +kernel⟩
  · rw [hfields "><" hrange "" " price" "20,30", Bool.or_eq_true]
    exact Or.inr (by decide +kernel)
  · rw [hcandidates "!=" hdiffer "tag" "x" " y ", Bool.or_eq_true]
    exact Or.inr (by decide +kernel)

end Rule

end Sift
