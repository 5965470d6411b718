import Mathlib.Tactic.Tauto
import Sift.Proofs.Concatenation
import Sift.Proofs.FirstOccurrence

set_option autoImplicit false
set_option relaxedAutoImplicit false

/-!
# States as alternatives

For a criterion the states of a list are alternatives: a record matches if it satisfies one of them.
So two lists together select what either of them selects, and reject what they reject in turn. This
also holds without any states, where nothing matches and a rejection does not even drop repetitions:
another rejection in front of it or behind it does.

The rules of all states taken together are one condition, which a record meets only if it matches the
rules of every state that has active ones. If there is a master state among these, the record
satisfies that state, so selecting by states is stricter than selecting by criteria.

## Main results

* `Sift.Engine.value_exactMatch_append` — two lists of states are alternatives.
* `Sift.Engine.value_selectByCriteria_append`, `Sift.Engine.value_rejectByCriteria_append` — what two
  lists of states select, and what they reject.
* `Sift.Engine.states_are_alternatives` — all this for a criterion.
* `Sift.matchesAll_of_matchesAll_flatten` — the rules of all states ask for those of each.
* `Sift.Engine.states_are_stricter_than_criteria` — selections by states and by criteria compared.
-/

namespace Sift

/-- First occurrences depend on the test of the entries alone. -/
lemma firstOccurrences_congr {ι : Type} [DecidableEq ι] {p q : ι → Bool} {l : List ι}
    (h : ∀ i ∈ l, p i = q i) : firstOccurrences p l = firstOccurrences q l := by
  rw [← eraseDups_filter, ← eraseDups_filter, List.filter_congr h]

namespace Engine

variable (e : Engine)

/-! ## Alternatives -/

/-- **Two lists of states are alternatives.** -/
theorem value_exactMatch_append (record : Json) (states others : List State) (criterion : String) :
    (e.exactMatch record (states ++ others) criterion).value =
      ((e.exactMatch record states criterion).value ||
        (e.exactMatch record others criterion).value) := by
  simp only [value_exactMatch, List.any_append]

/-- The order of the states and their repetitions do not matter. -/
lemma value_exactMatch_congr_states {states others : List State} (h : ∀ s, s ∈ others ↔ s ∈ states)
    (record : Json) (criterion : String) :
    (e.exactMatch record others criterion).value = (e.exactMatch record states criterion).value := by
  rw [value_exactMatch, value_exactMatch, Bool.eq_iff_iff, List.any_eq_true, List.any_eq_true]
  simp only [h]

section Selection

variable {ι : Type} [DecidableEq ι] (record : ι → Json) (refs : List ι) (criterion : String)

lemma value_keepByCriteria_congr_states {states others : List State}
    (h : ∀ s, s ∈ others ↔ s ∈ states) (exclude : Bool) :
    (e.keepByCriteria record exclude refs criterion others).value =
      (e.keepByCriteria record exclude refs criterion states).value := by
  have hempty : others.isEmpty = states.isEmpty := by
    rw [Bool.eq_iff_iff, List.isEmpty_iff, List.isEmpty_iff, List.eq_nil_iff_forall_not_mem,
      List.eq_nil_iff_forall_not_mem]
    simp only [h]
  simp only [value_keepByCriteria, e.value_exactMatch_congr_states h, hempty]

/-- A selection by criteria keeps first occurrences, also without any states. -/
lemma value_selectByCriteria_eq (states : List State) :
    (e.selectByCriteria record refs criterion states).value =
      firstOccurrences (fun i => (e.exactMatch (record i) states criterion).value) refs := by
  by_cases hstates : states = []
  · subst hstates
    rw [← eraseDups_filter]
    simp [selectByCriteria, value_keepByCriteria]
  · exact e.value_selectByCriteria record refs criterion hstates

lemma mem_selectByCriteria_iff (states : List State) (i : ι) :
    i ∈ (e.selectByCriteria record refs criterion states).value ↔
      i ∈ refs ∧ (e.exactMatch (record i) states criterion).value = true := by
  rw [value_selectByCriteria_eq, mem_firstOccurrences]

/-- **Two lists of states select** what one of them selects, in the order of the references. -/
theorem value_selectByCriteria_append (states others : List State) :
    (e.selectByCriteria record refs criterion (states ++ others)).value =
      firstOccurrences
        (fun i => decide (i ∈ (e.selectByCriteria record refs criterion states).value ∨
          i ∈ (e.selectByCriteria record refs criterion others).value)) refs := by
  rw [value_selectByCriteria_eq]
  refine firstOccurrences_congr fun i hi => ?_
  rw [value_exactMatch_append, Bool.eq_iff_iff]
  simp [mem_selectByCriteria_iff, hi]

/-- **Two lists of states reject** in turn: the second rejects from what the first has left.

**Proof sketch.** If one of the lists is empty, its rejection does nothing. Otherwise repetitions are
dropped on both sides, on one of them twice. -/
theorem value_rejectByCriteria_append (states others : List State) :
    (e.rejectByCriteria record refs criterion (states ++ others)).value =
      (e.rejectByCriteria record (e.rejectByCriteria record refs criterion states).value criterion
        others).value := by
  by_cases hstates : states = []
  · subst hstates
    rfl
  · by_cases hothers : others = []
    · subst hothers
      rw [List.append_nil]
      rfl
    · have hboth : states ++ others ≠ [] := List.append_ne_nil_of_left_ne_nil hstates others
      rw [value_rejectByCriteria _ _ _ _ hboth, value_rejectByCriteria _ _ _ _ hstates,
        value_rejectByCriteria _ _ _ _ hothers, ← eraseDups_filter, ← eraseDups_filter,
        ← eraseDups_filter, filter_eraseDups, eraseDups_eraseDups, List.filter_filter]
      simp only [value_exactMatch_append, Bool.not_or, Bool.and_comm]

end Selection

/-- **States are alternatives.** A record matches two lists of states of a criterion iff it matches
one of them. Two lists select the references that one of them selects, each where it first occurs,
and they reject as the second one does after the first, be there states in them or not. Neither the
order of the states nor their repetitions matter. -/
theorem states_are_alternatives {ι : Type} [DecidableEq ι] (record : ι → Json) (criterion : String)
    (states others : List State) :
    (∀ r : Json, (e.exactMatch r (states ++ others) criterion).value =
      ((e.exactMatch r states criterion).value || (e.exactMatch r others criterion).value)) ∧
    (∀ refs : List ι,
      (e.selectByCriteria record refs criterion (states ++ others)).value =
        firstOccurrences
          (fun i => decide (i ∈ (e.selectByCriteria record refs criterion states).value ∨
            i ∈ (e.selectByCriteria record refs criterion others).value)) refs ∧
      (e.rejectByCriteria record refs criterion (states ++ others)).value =
        (e.rejectByCriteria record (e.rejectByCriteria record refs criterion states).value criterion
          others).value) ∧
    ((∀ s, s ∈ others ↔ s ∈ states) →
      (∀ r : Json,
        (e.exactMatch r others criterion).value = (e.exactMatch r states criterion).value) ∧
      ∀ refs : List ι,
        (e.selectByCriteria record refs criterion others).value =
          (e.selectByCriteria record refs criterion states).value ∧
        (e.rejectByCriteria record refs criterion others).value =
          (e.rejectByCriteria record refs criterion states).value) := by
  refine ⟨fun r => e.value_exactMatch_append r states others criterion, fun refs => ⟨?_, ?_⟩,
    fun h => ⟨fun r => e.value_exactMatch_congr_states h r criterion, fun refs => ⟨?_, ?_⟩⟩⟩
  · exact e.value_selectByCriteria_append record refs criterion states others
  · exact e.value_rejectByCriteria_append record refs criterion states others
  · exact e.value_keepByCriteria_congr_states record refs criterion h false
  · exact e.value_keepByCriteria_congr_states record refs criterion h true

/-- A master state and another one are alternatives also in the other order, with one of them
repeated. Of two references, one of which is repeated, each is selected by one of the states; the
third is left by both. -/
theorem states_are_alternatives_repeated :
    let brand : State := ⟨"Acme", "MASTER", [⟨"brand", "=", "Acme"⟩]⟩
    let stock : State := ⟨"Yes", "", []⟩
    let record : Nat → Json := fun i =>
      match i with
      | 0 => .object [("brand", .text "Acme")]
      | 1 => .object [("stock", .text "Yes")]
      | _ => .object [("stock", .text "No")]
    (∀ s, s ∈ [stock, brand, stock] ↔ s ∈ [brand, stock]) ∧
      (exactMatch {} (record 0) [stock, brand, stock] "Stock").value = true ∧
      (rejectByCriteria {} record [2, 0, 2, 1] "Stock" [stock, brand, stock]).value = [2] ∧
      (selectByCriteria {} record [1, 0, 1, 2] "Stock" ([brand] ++ [stock])).value = [1, 0] ∧
      (rejectByCriteria {} record [2, 0, 1, 2] "Stock" ([brand] ++ [])).value = [2, 1] := by
  intro brand stock record
  have hsame : ∀ s, s ∈ [stock, brand, stock] ↔ s ∈ [brand, stock] := by
    intro s
    simp only [List.mem_cons, List.not_mem_nil, or_false]
    tauto
  obtain ⟨hmatch, hkeep⟩ :=
    (states_are_alternatives {} record "Stock" [brand, stock] [stock, brand, stock]).2.2 hsame
  refine ⟨hsame, ?_, ?_, ?_, ?_⟩
  · rw [hmatch]
    decide
  · rw [(hkeep _).2]
    decide
  · rw [((states_are_alternatives {} record "Stock" [brand] [stock]).2.1 _).1]
    decide
  · rw [((states_are_alternatives {} record "Stock" [brand] []).2.1 _).2]
    decide

end Engine

/-! ## Rules of states -/

/-- **The rules of all states ask for those of each** state that has active rules. -/
theorem matchesAll_of_matchesAll_flatten {states : List State} {s : State} (hs : s ∈ states)
    (hactive : HasActive s.filters) {record : Json}
    (h : matchesAll (State.flatten states) record = true) : matchesAll s.filters record = true := by
  rw [matchesAll_iff] at h ⊢
  refine ⟨hactive, fun r hr => h.2 r ?_⟩
  exact List.mem_flatMap.2 ⟨s, hs, hr⟩

/-- A record that matches the rules of a master state satisfies the state. -/
lemma State.accepts_prepared_of_isMaster {s : State} (hmaster : s.isMaster = true) {record : Json}
    (h : matchesAll s.filters record = true) (key : String) :
    s.prepared.accepts key record = true := by
  rw [matchesAll] at h
  simp [PreparedState.accepts, State.prepared, hmaster, h]

namespace Engine

/-- Where a master state has an active rule, a record that meets the condition of all states matches
the criterion, whatever it is. -/
lemma value_exactMatch_of_matchesAll_flatten (e : Engine) {states : List State}
    (hmaster : ∃ s ∈ states, s.isMaster = true ∧ HasActive s.filters) {record : Json}
    (h : matchesAll (State.flatten states) record = true) (criterion : String) :
    (e.exactMatch record states criterion).value = true := by
  obtain ⟨s, hs, hs_master, hs_active⟩ := hmaster
  rw [value_exactMatch, List.any_eq_true]
  refine ⟨s, hs, State.accepts_prepared_of_isMaster hs_master ?_ _⟩
  exact matchesAll_of_matchesAll_flatten hs hs_active h

/-- **States are stricter than criteria.** If some master state has an active rule, every reference
that is selected by the states is also selected by the criterion, and every reference that is
rejected by the criterion is also rejected by the states, whatever the criterion is and under any
settings. -/
theorem states_are_stricter_than_criteria {states : List State}
    (hmaster : ∃ s ∈ states, s.isMaster = true ∧ HasActive s.filters) {ι : Type} [DecidableEq ι]
    (e e' : Engine) (record : ι → Json) (refs : List ι) (criterion : String) :
    (∀ i ∈ (e.selectByStates record refs states).value,
      i ∈ (e'.selectByCriteria record refs criterion states).value) ∧
    ∀ i ∈ (e'.rejectByCriteria record refs criterion states).value,
      i ∈ (e.rejectByStates record refs states).value := by
  have hne : states ≠ [] := by
    rintro rfl
    obtain ⟨s, hs, -⟩ := hmaster
    exact absurd hs List.not_mem_nil
  constructor
  · intro i hi
    rw [selectByStates, value_select, List.mem_filter] at hi
    rw [mem_selectByCriteria_iff]
    exact ⟨hi.1, e'.value_exactMatch_of_matchesAll_flatten hmaster hi.2 criterion⟩
  · intro i hi
    rw [e'.value_rejectByCriteria record refs criterion hne, mem_firstOccurrences] at hi
    rw [rejectByStates, value_reject, List.mem_filter]
    refine ⟨hi.1, ?_⟩
    rw [Bool.not_eq_true', Bool.eq_false_iff]
    intro hmatches
    have haccepted := e'.value_exactMatch_of_matchesAll_flatten hmaster hmatches criterion
    simp [haccepted] at hi

/-- A record of the right brand that is in stock is selected by a master state for the brand and
another state for the stock, so it is selected by any criterion; a record that no state names is
rejected by both. -/
theorem states_are_stricter_than_criteria_unnamed :
    let brand : State := ⟨"", "Master", [⟨"brand", "=", "Acme"⟩]⟩
    let stock : State := ⟨"No", "", [⟨"stock", "=", "Yes"⟩]⟩
    let record : Bool → Json := fun i =>
      if i then .object [("brand", .text "Acme"), ("stock", .text "Yes")] else .null
    (∃ s ∈ [brand, stock], s.isMaster = true ∧ HasActive s.filters) ∧
      true ∈ (selectByStates {} record [false, true] [brand, stock]).value ∧
      true ∈ (selectByCriteria {} record [false, true] "Stock" [brand, stock]).value ∧
      false ∈ (rejectByCriteria {} record [false, true] "Stock" [brand, stock]).value ∧
      false ∈ (rejectByStates {} record [false, true] [brand, stock]).value := by
  intro brand stock record
  have hmaster : ∃ s ∈ [brand, stock], s.isMaster = true ∧ HasActive s.filters :=
    ⟨brand, List.mem_cons_self, by decide, by decide⟩
  obtain ⟨hselect, hreject⟩ :=
    states_are_stricter_than_criteria hmaster {} {} record [false, true] "Stock"
  have hselected : true ∈ (selectByStates {} record [false, true] [brand, stock]).value := by decide
  have hrejected :
      false ∈ (rejectByCriteria {} record [false, true] "Stock" [brand, stock]).value := by decide
  exact ⟨hmaster, hselected, hselect true hselected, hrejected, hreject false hrejected⟩

end Engine

end Sift
