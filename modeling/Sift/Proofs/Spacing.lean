import Mathlib.Data.List.Forall2
import Sift.Proofs.Selection
import Sift.Proofs.Trichotomy

set_option autoImplicit false
set_option relaxedAutoImplicit false

/-!
# Blanks around commas

Blanks may be put around the entries of a list as one likes. Most tests see the entries only without
these blanks. A range cuts its expression at the comma by itself and an aggregate takes the whole
expression as one number, but both come to what the entries say: the bounds of a range are the
numbers of its two entries, and a whole expression denotes a number only if it has no comma, and then
it is its own single entry.

## Main definitions

* `Sift.Rule.SameEntries` — rules that differ in the blanks around their entries at most.
* `Sift.Rule.FareAlike` — rules that a trial of a record does not tell apart.

## Main results

* `Sift.Rule.length_entries_eq_one_iff` — a text without a comma is the one that lists one entry.
* `Sift.Rule.read?_eq_of_entries_eq`, `Sift.Rule.bounds?_eq_of_entries_eq` — the number and the range
  that an expression denotes depend on its entries alone.
* `Sift.Operator.accepts_congr` — so does every test.
* `Sift.Rule.SameEntries.matches_eq` — such rules match the same records.
* `Sift.MatchReport.ofRules_forall₂` — lists of rules that fare alike have the same trial.
* `Sift.spacing_is_irrelevant` — what this says of rules, selections and reports.
-/

namespace Sift

namespace Rule

/-! ## What the entries of an expression tell -/

/-- **A text without a comma** is one that lists one entry. -/
theorem length_entries_eq_one_iff {s : String} : (entries s).length = 1 ↔ ',' ∉ s.toList := by
  constructor
  · intro hlength hmem
    obtain ⟨before, after, hs⟩ := List.append_of_mem hmem
    have hjoined : s = String.ofList before ++ "," ++ String.ofList after := by
      rw [← String.toList_inj]
      simp [hs]
    have hbefore := List.length_pos_of_ne_nil (entries_ne_nil (String.ofList before))
    have hafter := List.length_pos_of_ne_nil (entries_ne_nil (String.ofList after))
    rw [hjoined, entries_append, List.length_append] at hlength
    omega
  · intro hcomma
    rw [entries_of_notMem hcomma]
    rfl

section Expressions

variable {e e' : String}

/-- **The number that an expression denotes** depends on its entries alone: with a comma there is
none, and without a comma the only entry is the expression without the blanks at its ends. -/
theorem read?_eq_of_entries_eq (h : entries e = entries e') :
    Numeral.read? e = Numeral.read? e' := by
  have hcomma : ',' ∉ e.toList ↔ ',' ∉ e'.toList := by
    rw [← length_entries_eq_one_iff, ← length_entries_eq_one_iff, h]
  by_cases he : ',' ∈ e.toList
  · have he' : ',' ∈ e'.toList := by
      by_contra hnot
      exact hcomma.2 hnot he
    rw [Numeral.read?_eq_none_of_mem he, Numeral.read?_eq_none_of_mem he']
  · rw [entries_of_notMem he, entries_of_notMem (hcomma.1 he), List.singleton_inj] at h
    rw [← Numeral.read?_trim e, h, Numeral.read?_trim]

/-- The bounds of a range are the numbers of its two entries. -/
lemma bounds?_eq (e : String) :
    bounds? e =
      match entries e with
      | [low, high] => some (Numeral.first low, Numeral.first high)
      | _ => none := by
  rw [bounds?, entries]
  rcases Text.pieces ',' e with _ | ⟨low, _ | ⟨high, _ | ⟨other, rest⟩⟩⟩
  · rfl
  · rfl
  · simp only [List.map_cons, List.map_nil, Numeral.first_trim]
  · rfl

/-- **The range that an expression denotes** depends on its entries alone. -/
theorem bounds?_eq_of_entries_eq (h : entries e = entries e') : bounds? e = bounds? e' := by
  rw [bounds?_eq, bounds?_eq, h]

end Expressions

end Rule

/-- A comparison with an expression depends on the number that the expression denotes. -/
lemma compares_congr {e e' : String} (h : Numeral.read? e = Numeral.read? e')
    (comparison : Comparison) (actual : Binary64) :
    compares comparison actual e = compares comparison actual e' := by
  cases comparison with
  | equal =>
    simp only [compares, Literal.ofText, h]
    cases Numeral.read? e' <;> rfl
  | greater | less => simp only [compares, h]

/-- **A test depends on the entries of its expression alone.** -/
theorem Operator.accepts_congr {e e' : String} (h : Rule.entries e = Rule.entries e')
    (op : Operator) (field : Option Json) : op.accepts e field = op.accepts e' field := by
  cases op with
  | aggregate _ comparison => exact compares_congr (Rule.read?_eq_of_entries_eq h) comparison _
  | between => simp only [accepts, Rule.bounds?_eq_of_entries_eq h]
  | _ => simp only [accepts, h]

/-! ## Rules with the same entries -/

/-- Two rules have one operator, and their fields and their expressions list the same entries. So
they differ in the blanks around these entries at most. -/
structure Rule.SameEntries (r r' : Rule) : Prop where
  /-- The operators are written alike. -/
  operator : r.operator = r'.operator
  /-- The same paths are listed. -/
  fields : Rule.entries r.field = Rule.entries r'.field
  /-- The same candidates are listed. -/
  candidates : Rule.entries r.expression = Rule.entries r'.expression

/-- **Rules with the same entries match the same records.** -/
theorem Rule.SameEntries.matches_eq {r r' : Rule} (h : r.SameEntries r') (record : Json) :
    r.matches record = r'.matches record := by
  obtain ⟨f, symbol, e⟩ := r
  obtain ⟨f', symbol', e'⟩ := r'
  obtain ⟨rfl, hfields, hcandidates⟩ := h
  cases hop : Operator.ofSymbol? symbol with
  | none => simp only [Rule.matches, CompiledRule.matches, compile, hop]
  | some op =>
    cases haggregate : op.isAggregate with
    | false =>
      rw [matches_eq_any hop haggregate, matches_eq_any hop haggregate, hfields]
      simp only [Operator.accepts_congr hcandidates]
    | true =>
      cases op with
      | aggregate aggregation comparison =>
        obtain rfl := Operator.ofSymbol?_eq_some_iff.1 hop
        rw [matches_aggregate, matches_aggregate, hfields,
          compares_congr (read?_eq_of_entries_eq hcandidates)]
      | _ => exact Bool.noConfusion haggregate

/-! ## Lists of rules that fare alike -/

/-- Two rules fare alike on a record: both are active or neither is, and both match the record or
neither does. -/
structure Rule.FareAlike (record : Json) (r r' : Rule) : Prop where
  /-- Both are active or neither is. -/
  isActive_eq : r.isActive = r'.isActive
  /-- Both match or neither does. -/
  matches_eq : r.matches record = r'.matches record

/-- **Lists of rules that fare alike**, each with the one at its place in the other list, have the
same trial: it ends with the same verdict after as many rules. -/
theorem MatchReport.ofRules_forall₂ {record : Json} {rules others : List Rule}
    (h : List.Forall₂ (Rule.FareAlike record) rules others)
    (matched : Bool) (index : Nat) :
    (ofRules record matched index (rules.map Rule.compile)).matched =
        (ofRules record matched index (others.map Rule.compile)).matched ∧
      (ofRules record matched index (rules.map Rule.compile)).evaluatedRules =
        (ofRules record matched index (others.map Rule.compile)).evaluatedRules := by
  induction h generalizing matched index with
  | nil => exact ⟨rfl, rfl⟩
  | @cons r r' rest rest' hrules _ ih =>
    obtain ⟨hactive, hmatches⟩ := hrules
    rw [Rule.matches, Rule.matches] at hmatches
    rw [List.map_cons, List.map_cons, ofRules, ofRules, Rule.rule_compile, Rule.rule_compile,
      hactive, hmatches]
    split
    · exact ih matched (index + 1)
    · split
      · exact ⟨(ih true (index + 1)).1, congrArg (· + 1) (ih true (index + 1)).2⟩
      · exact ⟨rfl, rfl⟩

/-- Lists of rules that fare alike match the same records. -/
lemma matchesAll_eq_of_forall₂ {record : Json} {rules others : List Rule}
    (h : List.Forall₂ (Rule.FareAlike record) rules others) :
    matchesAll rules record = matchesAll others record := by
  have htrial := (MatchReport.ofRules_forall₂ h false 0).1
  rwa [MatchReport.matched_ofRules, MatchReport.matched_ofRules] at htrial

/-- The counts of reports on lists of rules that fare alike. -/
lemma Engine.evaluatedRules_explain_eq_of_forall₂ {record : Json} {rules others : List Rule}
    (h : List.Forall₂ (Rule.FareAlike record) rules others) (e : Engine) :
    (e.explain record rules).value.evaluatedRules =
      (e.explain record others).value.evaluatedRules := by
  have htrial := (MatchReport.ofRules_forall₂ h false 0).2
  simp only [explain, Logged.value_bind, Logged.value_pure, value_compile]
  split <;> exact htrial

/-- **Blanks around commas are irrelevant.** Rules with one operator, known or not, whose fields and
whose expressions list the same entries match the same records. Where such rules are active, they
can take each other's places in a list of rules, one or several of them: all selections keep the same
references, and the reports have the same verdict and count as many rules. -/
theorem spacing_is_irrelevant :
    (∀ r r' : Rule, r.SameEntries r' → ∀ record : Json, r.matches record = r'.matches record) ∧
    ∀ rules others : List Rule,
      List.Forall₂ (fun r r' : Rule =>
        r = r' ∨ r.isActive = true ∧ r'.isActive = true ∧ r.SameEntries r') rules others →
      (∀ (ι : Type) (e : Engine) (record : ι → Json) (refs : List ι),
        (e.select record refs rules).value = (e.select record refs others).value ∧
        (e.reject record refs rules).value = (e.reject record refs others).value ∧
        (e.partition record refs rules).value = (e.partition record refs others).value ∧
        (e.matchRatio record refs rules).value = (e.matchRatio record refs others).value) ∧
      ∀ (e : Engine) (record : Json),
        (e.explain record rules).value.matched = (e.explain record others).value.matched ∧
        (e.explain record rules).value.evaluatedRules =
          (e.explain record others).value.evaluatedRules := by
  refine ⟨fun r r' h record => h.matches_eq record, fun rules others h => ?_⟩
  have hfare : ∀ record : Json, List.Forall₂ (Rule.FareAlike record) rules others := by
    intro record
    refine h.imp fun r r' hrules => ?_
    rcases hrules with rfl | ⟨hactive, hactive', hentries⟩
    · exact ⟨rfl, rfl⟩
    · exact ⟨hactive.trans hactive'.symm, hentries.matches_eq record⟩
  have hmatches : matchesAll rules = matchesAll others :=
    funext fun record => matchesAll_eq_of_forall₂ (hfare record)
  refine ⟨fun ι e record refs => ?_, fun e record => ⟨?_, ?_⟩⟩
  · simp only [Engine.value_select, Engine.value_reject, Engine.value_partition,
      Engine.value_matchRatio, hmatches, and_self]
  · rw [Engine.matched_explain, Engine.matched_explain, hmatches]
  · exact Engine.evaluatedRules_explain_eq_of_forall₂ (hfare record) e

/-- A range and an aggregate with blanks of several kinds around their commas take the places of
those without any. -/
theorem spacing_is_irrelevant_padded :
    let range : Rule := ⟨"price,weight", "><", "20 kg,30 kg"⟩
    let padded : Rule := ⟨"\u3000price ,\u00a0weight", "><", "\t20 kg ,\u2003 30 kg"⟩
    let share : Rule := ⟨"price,weight", "/<", "2"⟩
    let padded' : Rule := ⟨"price , weight\u2028", "/<", "\u3000 2\n"⟩
    let record : Json := .object [("price", .text "35 USD"), ("weight", .text "about 25 kg")]
    range.SameEntries padded ∧ share.SameEntries padded' ∧
      padded.matches record = true ∧ padded'.matches record = true ∧
      List.Forall₂ (fun r r' : Rule =>
          r = r' ∨ r.isActive = true ∧ r'.isActive = true ∧ r.SameEntries r')
        [range, ⟨"tag", "", "x"⟩, share] [padded, ⟨"tag", "", "x"⟩, padded'] ∧
      (Engine.explain {} record [padded, ⟨"tag", "", "x"⟩, padded']).value.evaluatedRules = 2 := by
  intro range padded share padded' record
  have hrange : range.SameEntries padded := ⟨rfl, by decide +kernel, by decide +kernel⟩
  have hshare : share.SameEntries padded' := ⟨rfl, by decide +kernel, by decide +kernel⟩
  have hrules : List.Forall₂ (fun r r' : Rule =>
      r = r' ∨ r.isActive = true ∧ r'.isActive = true ∧ r.SameEntries r')
      [range, ⟨"tag", "", "x"⟩, share] [padded, ⟨"tag", "", "x"⟩, padded'] :=
    .cons (.inr ⟨by decide, by decide, hrange⟩)
      (.cons (.inl rfl) (.cons (.inr ⟨by decide, by decide, hshare⟩) .nil))
  obtain ⟨hmatches, hlists⟩ := spacing_is_irrelevant
  refine ⟨hrange, hshare, ?_, ?_, hrules, ?_⟩
  · rw [← hmatches range padded hrange]
    decide +kernel
  · rw [← hmatches share padded' hshare]
    decide +kernel
  · rw [← ((hlists _ _ hrules).2 {} record).2]
    decide +kernel

end Sift
