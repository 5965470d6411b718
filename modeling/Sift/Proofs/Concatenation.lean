import Sift.State.Selection
import Sift.Proofs.Selection

set_option autoImplicit false
set_option relaxedAutoImplicit false

/-!
# Rules of several lists

A list of rules is a condition, and two lists one after the other are both conditions at once, as
long as each of them has an active rule: a list without active rules is no condition by itself,
since nothing matches it, but it adds nothing to another list. So the rules of several states select
what the rules of each state select in turn, in whatever order, and a state without active rules may
be left out.

## Main definitions

* `Sift.HasActive` — a list of rules with an active rule.

## Main results

* `Sift.matchesAll_append` — two lists of rules are two conditions.
* `Sift.matchesAll_flatten` — the rules of states are the conditions of the states.
* `Sift.Engine.states_select_in_turn` — what this says of selections.
-/

namespace Sift

/-- Some rule of a list is active. -/
def HasActive (rules : List Rule) : Prop :=
  ∃ r ∈ rules, r.isActive = true

instance (rules : List Rule) : Decidable (HasActive rules) :=
  inferInstanceAs (Decidable (∃ r ∈ rules, r.isActive = true))

/-! ## Matching -/

/-- **Two lists of rules are two conditions** if each of them has an active rule. -/
theorem matchesAll_append {rules others : List Rule} (h : HasActive rules) (h' : HasActive others)
    (record : Json) :
    matchesAll (rules ++ others) record =
      (matchesAll rules record && matchesAll others record) := by
  have hactive : ∃ r ∈ rules ++ others, r.isActive = true := by
    obtain ⟨r, hr, hr_active⟩ := h
    exact ⟨r, List.mem_append_left others hr, hr_active⟩
  rw [Bool.eq_iff_iff, Bool.and_eq_true, matchesAll_iff, matchesAll_iff, matchesAll_iff,
    List.forall_mem_append]
  constructor
  · rintro ⟨-, hrules, hothers⟩
    exact ⟨⟨h, hrules⟩, h', hothers⟩
  · rintro ⟨⟨-, hrules⟩, -, hothers⟩
    exact ⟨hactive, hrules, hothers⟩

/-- Where no rule of a list is active, the list can be left out among others. -/
lemma matchesAll_append_of_inactive {rules : List Rule} (h : ¬HasActive rules)
    (before after : List Rule) :
    matchesAll (before ++ (rules ++ after)) = matchesAll (before ++ after) := by
  have hinactive : ∀ r, r.isActive = true → r ∉ rules := fun r hr hmem => h ⟨r, hmem, hr⟩
  refine funext fun record => matchesAll_congr (fun r hr => ?_) record
  simp [hinactive r hr]

namespace State

@[simp] lemma flatten_cons (s : State) (states : List State) :
    flatten (s :: states) = s.filters ++ flatten states := List.flatMap_cons

@[simp] lemma flatten_append (states others : List State) :
    flatten (states ++ others) = flatten states ++ flatten others := List.flatMap_append

/-- The rules of states are those of the lists that the states have. -/
lemma flatten_eq_flatten_map (states : List State) :
    flatten states = (states.map State.filters).flatten := List.flatMap_def

end State

/-- **The rules of states are the conditions of the states**, if each state has an active rule. -/
theorem matchesAll_flatten {states : List State} (hne : states ≠ [])
    (h : ∀ s ∈ states, HasActive s.filters) (record : Json) :
    matchesAll (State.flatten states) record =
      states.all fun s => matchesAll s.filters record := by
  induction states with
  | nil => exact absurd rfl hne
  | cons s rest ih =>
    obtain ⟨hs, hrest⟩ := List.forall_mem_cons.1 h
    cases rest with
    | nil =>
      rw [State.flatten_cons, List.all_cons, List.all_nil, Bool.and_true]
      exact congrArg (matchesAll · record) (List.append_nil s.filters)
    | cons s' rest' =>
      have hactive : HasActive (State.flatten (s' :: rest')) := by
        obtain ⟨r, hr, hr_active⟩ := hrest s' List.mem_cons_self
        exact ⟨r, List.mem_append_left (State.flatten rest') hr, hr_active⟩
      rw [State.flatten_cons, matchesAll_append hs hactive, ih (List.cons_ne_nil s' rest') hrest]
      rfl

/-- States that have the same lists of rules, in whatever order, match the same records. -/
lemma matchesAll_flatten_perm {states others : List State}
    (h : (states.map State.filters).Perm (others.map State.filters)) :
    matchesAll (State.flatten states) = matchesAll (State.flatten others) := by
  refine funext fun record => matchesAll_congr (fun r _ => ?_) record
  rw [State.flatten_eq_flatten_map, State.flatten_eq_flatten_map]
  exact h.flatten.mem_iff

/-! ## Selecting -/

namespace Engine

variable {ι : Type} (e : Engine) (record : ι → Json)

/-- Selecting by lists of rules one after the other keeps what matches all of them. -/
lemma foldl_select (lists : List (List Rule)) (refs : List ι) :
    lists.foldl (fun kept rules => (e.select record kept rules).value) refs =
      refs.filter fun i => lists.all fun rules => matchesAll rules (record i) := by
  induction lists generalizing refs with
  | nil => exact (List.filter_eq_self.2 fun _ _ => rfl).symm
  | cons rules rest ih =>
    rw [List.foldl_cons, ih, value_select, List.filter_filter]
    refine List.filter_congr fun i _ => ?_
    rw [List.all_cons, Bool.and_comm]

/-- What a rejection keeps is what the selection by the same rules drops. -/
lemma reject_eq_filter_not_mem [DecidableEq ι] (refs : List ι) (rules : List Rule) :
    (e.reject record refs rules).value =
      refs.filter fun i => i ∉ (e.select record refs rules).value := by
  rw [value_reject, value_select]
  refine List.filter_congr fun i hi => ?_
  simp [List.mem_filter, hi]

/-- **Rules of several lists select what the lists select in turn.** For two lists with an active
rule each, the rules of both select what the second list selects from what the first one has
selected, and the rejection keeps just the references that are dropped there. For states with an
active rule each, of which there is one at least, selecting by the states is selecting by the rules
of each of them in turn, rejecting by them keeps what this drops, and only the lists of rules
matter, in whatever order. A state without active rules can be left out among any others. -/
theorem states_select_in_turn :
    (∀ (ι : Type) [DecidableEq ι] (e : Engine) (record : ι → Json) (refs : List ι)
      (rules others : List Rule), HasActive rules → HasActive others →
      let inTurn := (e.select record (e.select record refs rules).value others).value
      (e.select record refs (rules ++ others)).value = inTurn ∧
      (e.reject record refs (rules ++ others)).value = refs.filter fun i => i ∉ inTurn) ∧
    (∀ (ι : Type) [DecidableEq ι] (e : Engine) (record : ι → Json) (refs : List ι)
      (states : List State), states ≠ [] → (∀ s ∈ states, HasActive s.filters) →
      let inTurn := states.foldl (fun kept s => (e.select record kept s.filters).value) refs
      (e.selectByStates record refs states).value = inTurn ∧
      (e.rejectByStates record refs states).value = refs.filter (fun i => i ∉ inTurn) ∧
      ∀ others : List State, (others.map State.filters).Perm (states.map State.filters) →
        (e.selectByStates record refs others).value = inTurn ∧
        (e.rejectByStates record refs others).value = refs.filter fun i => i ∉ inTurn) ∧
    ∀ (ι : Type) (e : Engine) (record : ι → Json) (refs : List ι) (before after : List State)
      (s : State), ¬HasActive s.filters →
      (e.selectByStates record refs (before ++ s :: after)).value =
        (e.selectByStates record refs (before ++ after)).value ∧
      (e.rejectByStates record refs (before ++ s :: after)).value =
        (e.rejectByStates record refs (before ++ after)).value := by
  refine ⟨?_, ?_, ?_⟩
  · intro ι _ e record refs rules others h h' inTurn
    have hselect : (e.select record refs (rules ++ others)).value = inTurn := by
      simp only [inTurn, value_select, List.filter_filter, matchesAll_append h h', Bool.and_comm]
    refine ⟨hselect, ?_⟩
    rw [reject_eq_filter_not_mem, hselect]
  · intro ι _ e record refs states hne h inTurn
    have hinTurn : inTurn = refs.filter fun i => matchesAll (State.flatten states) (record i) := by
      have hlists := e.foldl_select record (states.map State.filters) refs
      simp only [List.foldl_map, List.all_map] at hlists
      simp only [matchesAll_flatten hne h]
      exact hlists
    have hperm : ∀ others : List State,
        (others.map State.filters).Perm (states.map State.filters) →
        (e.selectByStates record refs others).value = inTurn ∧
        (e.rejectByStates record refs others).value = refs.filter fun i => i ∉ inTurn := by
      intro others hothers
      have hselect : (e.selectByStates record refs others).value = inTurn := by
        rw [selectByStates, value_select, matchesAll_flatten_perm hothers, hinTurn]
      refine ⟨hselect, ?_⟩
      rw [rejectByStates, reject_eq_filter_not_mem, ← selectByStates, hselect]
    exact ⟨(hperm states (.refl _)).1, (hperm states (.refl _)).2, hperm⟩
  · intro ι e record refs before after s h
    have hflatten : matchesAll (State.flatten (before ++ s :: after)) =
        matchesAll (State.flatten (before ++ after)) := by
      rw [State.flatten_append, State.flatten_append, State.flatten_cons]
      exact matchesAll_append_of_inactive h _ _
    simp only [selectByStates, rejectByStates, value_select, value_reject, hflatten, and_self]

/-- Of two references, one to a record that both states admit and one to a record that only the
first admits, the states select the former; with the states in the other order and under other names
and targets they do the same, also with a state in between that has a rule without an expression. -/
theorem states_select_in_turn_two :
    let first : State := ⟨"5", "master", [⟨"a", "=", "x"⟩]⟩
    let second : State := ⟨"Yes", "", [⟨"b", "=", "y"⟩]⟩
    let idle : State := ⟨"", "", [⟨"c", "=", ""⟩]⟩
    let both : Json := .object [("a", .text "x"), ("b", .text "y")]
    let record : Bool → Json := fun i => if i then both else .object [("a", .text "x")]
    HasActive first.filters ∧ HasActive second.filters ∧ ¬HasActive idle.filters ∧
    (select {} record [true, false, true] (first.filters ++ second.filters)).value =
      [true, true] ∧
    (rejectByStates {} record [true, false, true] [second, { first with name := "" }]).value =
      [false] ∧
    (selectByStates {} record [true, false, true] [first, idle, second]).value = [true, true] := by
  intro first second idle both record
  have hfirst : HasActive first.filters := by decide
  have hsecond : HasActive second.filters := by decide
  have hidle : ¬HasActive idle.filters := by decide
  have hstates : ∀ s ∈ [first, second], HasActive s.filters := by
    simp only [List.forall_mem_cons, List.not_mem_nil, false_implies, implies_true, and_true]
    exact ⟨hfirst, hsecond⟩
  have hperm : ([second, { first with name := "" }].map State.filters).Perm
      ([first, second].map State.filters) := List.Perm.swap _ _ _
  obtain ⟨hlists, hturn, hleft⟩ := states_select_in_turn
  refine ⟨hfirst, hsecond, hidle, ?_, ?_, ?_⟩
  · rw [(hlists Bool {} record _ _ _ hfirst hsecond).1]
    decide
  · rw [((hturn Bool {} record _ _ (List.cons_ne_nil _ _) hstates).2.2 _ hperm).2]
    decide
  · refine (hleft Bool {} record [true, false, true] [first] [second] idle hidle).1.trans ?_
    decide

end Engine

end Sift
