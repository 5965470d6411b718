import Sift.Proofs.Alternatives
import Sift.Proofs.Criteria
import Sift.Proofs.Finiteness

set_option autoImplicit false
set_option relaxedAutoImplicit false

/-!
# Two equalities

A member of a record can be compared with a name in two ways: by a criterion with a state of that
name, and by a rule that asks for equality. The criterion takes the name at its true type, a number
or a text, and compares whatever the member is with it. The rule passes over falsy members, and it
takes the name at its true type only where the member is a number; a text is compared as it is
written. So there are two sorts of members on which they disagree. The rule is never true of a
zero or of the empty text, which the criterion may find equal to the name; and it is true of a text
that reads as a number and is written like the name, which the criterion takes for another kind of
value.

## Main definitions

* `Sift.Literal.admits` — a field has the value of a literal.

## Main results

* `Sift.Json.resolve?_object` — a path without a point is the name of a member.
* `Sift.Field.equals_iff_admits` — a rule's test of a field, told by the criterion's.
* `Sift.Field.equals_ne_admits_iff` — the fields on which the two tests disagree.
* `Sift.Engine.equality_differs_from_criterion` — hence the records on which a rule and a criterion
  disagree.
-/

namespace Sift

/-! ## The two tests of a field -/

/-- A field has the value of a literal. -/
def Literal.admits (l : Literal) (field : Option Json) : Bool :=
  field.any l.isSame

/-- A text has the value of a literal iff the literal is no number and has the same characters. -/
lemma Literal.admits_text_iff {name s : String} :
    (ofText name).admits (some (.text s)) = true ↔ s = name ∧ Numeral.read? name = none := by
  rw [admits, Option.any_some, ofText]
  cases h : Numeral.read? name with
  | none => simp only [isSame, beq_iff_eq, and_true, eq_comm (a := s)]
  | some x => simp only [isSame, Bool.false_eq_true, reduceCtorEq, and_false]

/-- A number has the value of a literal iff the literal is a number in the same place. -/
lemma Literal.admits_number_iff {name : String} {n : Number} :
    (ofText name).admits (some (.number n)) = true ↔
      ∃ x, Numeral.read? name = some x ∧ n.toBinary64.eq x = true := by
  rw [admits, Option.any_some, ofText]
  cases h : Numeral.read? name with
  | none => simp only [isSame, Bool.false_eq_true, reduceCtorEq, false_and, exists_false]
  | some x => simp only [isSame, Option.some.injEq, exists_eq_left']

namespace Field

variable {field : Option Json} {name : String}

/-- **The test of a rule** is that of a criterion, except that falsy fields do not pass it, and that
a text which is written like the name passes it also where both read as a number. -/
theorem equals_iff_admits :
    equals field name = true ↔
      isFalsy field = false ∧
        ((Literal.ofText name).admits field = true ∨
          field = some (.text name) ∧ (Numeral.read? name).isSome = true) := by
  cases field with
  | none => simp [equals, isFalsy]
  | some v =>
    cases v with
    | text s =>
      rw [Literal.admits_text_iff, equals, Bool.and_eq_true, Bool.not_eq_true', beq_iff_eq]
      refine and_congr_right fun _ => ?_
      cases h : Numeral.read? name <;> simp
    | number n =>
      rw [equals, Bool.and_eq_true, Bool.not_eq_true', Literal.admits, Option.any_some]
      simp
    | null | bool | array | object =>
      -- a value of another kind has the value of no literal
      cases h : Literal.ofText name <;> simp [equals, Literal.admits, Literal.isSame]

/-- A falsy field has the value of a literal iff both are zero or both are the empty text. -/
lemma admits_iff_of_isFalsy (hfalsy : isFalsy field = true) :
    (Literal.ofText name).admits field = true ↔
      (∃ n x, field = some (.number n) ∧ n.isZero = true ∧ Numeral.read? name = some x ∧
        x.isZero = true) ∨
      field = some (.text "") ∧ name = "" := by
  cases field with
  | none => simp [Literal.admits]
  | some v =>
    cases v with
    | text s =>
      obtain rfl : s = "" := String.isEmpty_iff.1 hfalsy
      have hempty : Numeral.read? "" = none := by decide
      rw [Literal.admits_text_iff]
      constructor
      · rintro ⟨rfl, -⟩
        exact Or.inr ⟨rfl, rfl⟩
      · rintro (⟨n, x, hn, -⟩ | ⟨-, rfl⟩)
        · cases hn
        · exact ⟨rfl, hempty⟩
    | number n =>
      have hzero : n.toBinary64.position? = some 0 := beq_iff_eq.1 hfalsy
      have heq (x : Binary64) : n.toBinary64.eq x = true ↔ x.isZero = true := by
        rw [Binary64.eq_iff_exists_position?, hzero, Binary64.isZero, beq_iff_eq]
        simp only [Option.some.injEq, exists_eq_left']
      rw [Literal.admits_number_iff]
      simp only [heq]
      constructor
      · rintro ⟨x, hread, hx⟩
        exact Or.inl ⟨n, x, rfl, hfalsy, hread, hx⟩
      · rintro (⟨-, x, -, -, hread, hx⟩ | ⟨hn, -⟩)
        · exact ⟨x, hread, hx⟩
        · cases hn
    | null | bool | array | object =>
      cases h : Literal.ofText name <;> simp [Literal.admits, Literal.isSame]

/-- **Where the two tests disagree**: on a zero if the name reads as zero, on the empty text if the
name is empty, and on a text that reads as a number if the name is that text. -/
theorem equals_ne_admits_iff :
    equals field name ≠ (Literal.ofText name).admits field ↔
      (∃ n x, field = some (.number n) ∧ n.isZero = true ∧ Numeral.read? name = some x ∧
        x.isZero = true) ∨
      field = some (.text "") ∧ name = "" ∨
      field = some (.text name) ∧ (Numeral.read? name).isSome = true := by
  have hempty : Numeral.read? "" = none := by decide
  cases hfalsy : isFalsy field with
  | true =>
    have hfails : equals field name = false := by
      rw [Bool.eq_false_iff, ne_eq, equals_iff_admits, hfalsy]
      exact fun h => Bool.noConfusion h.1
    rw [hfails, ne_comm, ne_eq, Bool.not_eq_false, admits_iff_of_isFalsy hfalsy]
    refine or_congr_right ⟨Or.inl, fun h => h.elim id ?_⟩
    rintro ⟨rfl, hread⟩
    obtain rfl : name = "" := String.isEmpty_iff.1 hfalsy
    rw [hempty] at hread
    exact Bool.noConfusion hread
  | false =>
    have hpasses : equals field name = true ↔ _ := equals_iff_admits
    constructor
    · intro hne
      refine Or.inr (Or.inr ?_)
      cases hadmits : (Literal.ofText name).admits field with
      | true => exact absurd (hpasses.2 ⟨hfalsy, Or.inl hadmits⟩) (hadmits ▸ hne)
      | false =>
        rw [hadmits, ne_eq, Bool.not_eq_false, hpasses] at hne
        exact hne.2.resolve_left (by rw [hadmits]; exact Bool.false_ne_true)
    · rintro (⟨n, x, rfl, hzero, -⟩ | ⟨rfl, -⟩ | ⟨rfl, hread⟩)
      · exact absurd (hzero.symm.trans hfalsy) Bool.noConfusion
      · exact Bool.noConfusion hfalsy
      · have hlacks : (Literal.ofText name).admits (some (.text name)) ≠ true := by
          rw [ne_eq, Literal.admits_text_iff]
          rintro ⟨-, hnone⟩
          rw [hnone] at hread
          exact Bool.noConfusion hread
        rw [hpasses.2 ⟨hfalsy, Or.inr ⟨rfl, hread⟩⟩]
        exact hlacks.symm

end Field

/-! ## Rules and criteria -/

/-- **A path without a point** is the name of a member. -/
theorem Json.resolve?_object {key : String} (h : '.' ∉ key.toList)
    (members : List (String × Json)) :
    (object members).resolve? key = (object members).member? key := by
  rw [resolve?, Text.pieces_of_notMem h, List.foldlM_cons, step?, member?]
  cases members.lookup key <;> rfl

namespace Engine

/-- A state that is no master state compares the member with its name alone. -/
lemma value_exactMatch_singleton (e : Engine) {s : State} (hmaster : s.isMaster = false)
    (record : Json) (criterion : String) :
    (e.exactMatch record [s] criterion).value =
      (Literal.ofText s.name).admits (record.member? (Text.camel criterion)) := by
  rw [value_exactMatch, List.any_cons, List.any_nil, Bool.or_false, PreparedState.accepts,
    State.prepared, hmaster]
  rfl

/-- **A rule that asks for equality and a criterion** look at the same member and compare it with
the same name. The rule matches iff the member is not falsy and either the criterion matches or the
member is a text, the same as the name, that reads as a number. So they disagree on a zero whose
name reads as zero, on the empty text with the empty name, and on a text that reads as a number and
is the same as the name, and nowhere else. -/
theorem equality_differs_from_criterion (e : Engine) {criterion : String} {s : State}
    (hpoint : '.' ∉ (Text.camel criterion).toList) (hcomma : ',' ∉ (Text.camel criterion).toList)
    (htrim : Text.trim (Text.camel criterion) = Text.camel criterion)
    (hmaster : s.isMaster = false) (hname : ',' ∉ s.name.toList)
    (hname' : Text.trim s.name = s.name) (members : List (String × Json)) :
    let record : Json := .object members
    let field := record.member? (Text.camel criterion)
    let rule : Rule := ⟨Text.camel criterion, "=", s.name⟩
    (rule.matches record = true ↔
      Field.isFalsy field = false ∧
        ((e.exactMatch record [s] criterion).value = true ∨
          field = some (.text s.name) ∧ (Numeral.read? s.name).isSome = true)) ∧
    (rule.matches record ≠ (e.exactMatch record [s] criterion).value ↔
      (∃ n x, field = some (.number n) ∧ n.isZero = true ∧ Numeral.read? s.name = some x ∧
        x.isZero = true) ∨
      field = some (.text "") ∧ s.name = "" ∨
      field = some (.text s.name) ∧ (Numeral.read? s.name).isSome = true) := by
  intro record field rule
  have hrule : rule.matches record = Field.equals field s.name := by
    rw [Rule.matches_eq_passes rfl rfl hcomma hname, htrim, hname', Json.resolve?_object hpoint]
    rfl
  rw [hrule, e.value_exactMatch_singleton hmaster]
  exact ⟨Field.equals_iff_admits, Field.equals_ne_admits_iff⟩

/-- Three states of one criterion: one that names a number in another spelling, where rule and
criterion agree; one that names zero, which only the criterion finds; and one that names digits,
which only the rule finds in a text. -/
theorem equality_differs_from_criterion_digits :
    let state (name : String) : State := ⟨name, "criteria", []⟩
    let rule (name : String) : Rule := ⟨Text.camel "Unit price", "=", name⟩
    let record (v : Json) : Json := .object [("unit price", .null), ("unitPrice", v)]
    let five : Json := .number (.integer 5 (by decide))
    let zero : Json := .number (.integer 0 (by decide))
    ('.' ∉ (Text.camel "Unit price").toList ∧ ',' ∉ (Text.camel "Unit price").toList ∧
      Text.trim (Text.camel "Unit price") = Text.camel "Unit price") ∧
    (∀ name ∈ ["5.0", "-0", "5"],
      (state name).isMaster = false ∧ ',' ∉ name.toList ∧ Text.trim name = name) ∧
    (rule "5.0").matches (record five) = true ∧
    (rule "-0").matches (record zero) ≠
      (exactMatch {} (record zero) [state "-0"] "Unit price").value ∧
    (rule "5").matches (record (.text "5")) ≠
      (exactMatch {} (record (.text "5")) [state "5"] "Unit price").value := by
  intro state rule record five zero
  have hkey : '.' ∉ (Text.camel "Unit price").toList ∧ ',' ∉ (Text.camel "Unit price").toList ∧
      Text.trim (Text.camel "Unit price") = Text.camel "Unit price" := by decide +kernel
  have hstates : ∀ name ∈ ["5.0", "-0", "5"],
      (state name).isMaster = false ∧ ',' ∉ name.toList ∧ Text.trim name = name := by decide +kernel
  obtain ⟨hpoint, hcomma, htrim⟩ := hkey
  have hcompare (name : String) (hmem : name ∈ ["5.0", "-0", "5"]) :=
    equality_differs_from_criterion {} hpoint hcomma htrim (hstates name hmem).1
      (hstates name hmem).2.1 (hstates name hmem).2.2
  have hmember (v : Json) : (record v).member? (Text.camel "Unit price") = some v := by
    have hcamel : Text.camel "Unit price" = "unitPrice" := by decide +kernel
    rw [hcamel]
    rfl
  refine ⟨⟨hpoint, hcomma, htrim⟩, hstates, ?_, ?_, ?_⟩
  · refine ((hcompare "5.0" (by decide) _).1).2 ⟨by decide +kernel, Or.inl ?_⟩
    decide +kernel
  · refine (hcompare "-0" (by decide) _).2.2 (Or.inl ?_)
    exact ⟨.integer 0 (by decide), .signedZero true, hmember zero, by decide +kernel,
      by decide +kernel, by decide +kernel⟩
  · refine (hcompare "5" (by decide) _).2.2 (Or.inr (Or.inr ?_))
    exact ⟨hmember (.text "5"), by decide +kernel⟩

end Engine

end Sift
