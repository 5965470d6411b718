import Sift.Proofs.Reading
import Sift.Proofs.Rejection

set_option autoImplicit false
set_option relaxedAutoImplicit false

/-!
# Round trips

What is written for rules, states and transforms is one of their spellings, it has no numbers in it,
and it is nowhere near the limits of what is accepted. So it is read back as what was written,
whatever characters the texts in it have.

## Main results

* `Sift.Json.Document.denotes_ofJson` — what is written denotes a value.
* `Sift.Rule.spelled_ofJson`, `Sift.State.spelled_ofJson`, `Sift.Transform.spelled_ofJson` — what is
  written is a spelling.
* `Sift.Transform.ofDocument_ofJson` — what is written for a transform is decoded to it.
* `Sift.Transform.read_back_from_json` — what is written is read back.
-/

namespace Sift

namespace Json

/-! ## The documents of values -/

namespace Document

/-- What a value without numbers is written as denotes a value. -/
theorem denotes_ofJson {v : Json} (h : v.Plain) : (ofJson v).Denotes := by
  induction h with
  | null => exact .null
  | bool b => exact .bool b
  | text s => exact .text s
  | array _ ih =>
    rw [ofJson, ofElements_eq_map]
    exact .array (List.forall_mem_map.2 ih)
  | object _ ih =>
    rw [ofJson, ofMembers_eq_map]
    exact .object (List.forall_mem_map.2 fun _ _ => rfl) (List.forall_mem_map.2 ih)

/-- A list is no deeper than its entries. -/
lemma depthOfAll_le {l : List Document} {n : Nat} (h : ∀ e ∈ l, e.depth ≤ n) :
    depthOfAll l ≤ n := by
  induction l with
  | nil => exact Nat.zero_le n
  | cons e rest ih =>
    obtain ⟨he, hrest⟩ := List.forall_mem_cons.1 h
    exact Nat.max_le.2 ⟨he, ih hrest⟩

section List

variable {α : Type} {toJson : α → Json}

/-- The list of what is written for each entry. -/
lemma ofJson_array_map (l : List α) :
    ofJson (.array (l.map toJson)) = array (l.map fun a => ofJson (toJson a)) := by
  rw [ofJson, ofElements_eq_map, List.map_map]
  rfl

/-- A list is spelled if its entries are. -/
lemma isList_ofJson {Spells : α → Document → Prop} (h : ∀ a, Spells a (ofJson (toJson a)))
    (l : List α) : IsList Spells l (ofJson (.array (l.map toJson))) := by
  rw [ofJson_array_map, IsList, List.forall₂_map_right_iff, List.forall₂_same]
  exact fun a _ => h a

/-- A list is one deeper than its entries. -/
lemma depth_ofJson_array_le {n : Nat} (h : ∀ a, (ofJson (toJson a)).depth ≤ n) (l : List α) :
    (ofJson (.array (l.map toJson))).depth ≤ n + 1 := by
  rw [ofJson_array_map, depth]
  refine Nat.succ_le_succ (depthOfAll_le ?_)
  rw [List.forall_mem_map]
  exact fun a _ => h a

end List

end Document

end Json

open Json

/-! ## Rules and states -/

namespace Rule

lemma plain_toJson (r : Rule) : r.toJson.Plain :=
  .object (by simp [Plain.text])

/-- What is written for a rule spells the rule. -/
theorem spelled_ofJson (r : Rule) : r.Spelled (.ofJson r.toJson) :=
  ⟨by simp [toJson, Document.ofJson, Document.ofMembers, Document.IsStructure], rfl, rfl, rfl⟩

lemma depth_ofJson (r : Rule) : (Document.ofJson r.toJson).depth ≤ 1 :=
  Nat.le_refl 1

end Rule

namespace State

lemma plain_toJson (s : State) : s.toJson.Plain := by
  have hfilters : Plain (.array (s.filters.map Rule.toJson)) :=
    .array (List.forall_mem_map.2 fun r _ => r.plain_toJson)
  exact .object (by simp [Plain.text, hfilters])

/-- What is written for a state spells the state. -/
theorem spelled_ofJson (s : State) : s.Spelled (.ofJson s.toJson) :=
  ⟨by simp [toJson, Document.ofJson, Document.ofMembers, Document.IsStructure], rfl, rfl,
    Document.isList_ofJson Rule.spelled_ofJson s.filters⟩

lemma depth_ofJson (s : State) : (Document.ofJson s.toJson).depth ≤ 3 := by
  have hfilters : (Document.ofJson (.array (s.filters.map Rule.toJson))).depth ≤ 2 :=
    Document.depth_ofJson_array_le Rule.depth_ofJson s.filters
  simp only [toJson, Document.ofJson, Document.ofMembers, Document.depth,
    Document.depthOfMembers] at hfilters ⊢
  omega

end State

/-! ## Transforms -/

namespace Transform

lemma plain_toJson (t : Transform) : t.toJson.Plain := by
  have hrules : ∀ filters : List Rule, Plain (.array (filters.map Rule.toJson)) :=
    fun filters => .array (List.forall_mem_map.2 fun r _ => r.plain_toJson)
  have hstates : ∀ states : List State, Plain (.array (states.map State.toJson)) :=
    fun states => .array (List.forall_mem_map.2 fun s _ => s.plain_toJson)
  cases t <;> exact .object (by simp [Plain.text, hrules, hstates])

/-- What is written for a transform spells the transform. -/
theorem spelled_ofJson (t : Transform) : t.Spelled (.ofJson t.toJson) := by
  have hrules := Document.isList_ofJson Rule.spelled_ofJson
  have hstates := Document.isList_ofJson State.spelled_ofJson
  cases t with
  | select filters | reject filters =>
    exact ⟨rfl, by simp [Document.ofMembers, Document.IsStructure], hrules filters⟩
  | selectByStates states | rejectByStates states =>
    exact ⟨rfl, by simp [Document.ofMembers, Document.IsStructure], hstates states⟩
  | selectByCriteria criterion states | rejectByCriteria criterion states =>
    exact ⟨rfl, by simp [Document.ofMembers, Document.IsStructure], rfl, hstates states⟩

lemma depth_ofJson (t : Transform) : (Document.ofJson t.toJson).depth ≤ 5 := by
  have hrules := Document.depth_ofJson_array_le Rule.depth_ofJson
  have hstates := Document.depth_ofJson_array_le State.depth_ofJson
  simp only [Document.ofJson, Document.depth] at hrules hstates
  cases t with
  | select filters | reject filters =>
    have hle := hrules filters
    simp only [toJson, Document.ofJson, Document.ofMembers, Document.depth,
      Document.depthOfMembers]
    omega
  | selectByStates states | rejectByStates states =>
    have hle := hstates states
    simp only [toJson, Document.ofJson, Document.ofMembers, Document.depth,
      Document.depthOfMembers]
    omega
  | selectByCriteria criterion states | rejectByCriteria criterion states =>
    have hle := hstates states
    simp only [toJson, Document.ofJson, Document.ofMembers, Document.depth,
      Document.depthOfMembers]
    omega

/-- What is written for a transform is decoded to the transform. -/
theorem ofDocument_ofJson {outer : Nat} (h : outer ≤ 1) (t : Transform) :
    ofDocument outer (.ofJson t.toJson) = .ok t := by
  have hdenotes := Document.denotes_ofJson t.plain_toJson
  have hdepth := t.depth_ofJson
  refine (ofDocument_eq_ok_iff outer _ t).2 ⟨⟨hdenotes.isSome_value?, ?_⟩, t.spelled_ofJson⟩
  rw [depthLimit]
  omega

/-- **What is written is read back**: pipelines and transforms, the tag of which is their name,
lists of rules, and states, whatever their texts are. -/
theorem read_back_from_json :
    (∀ pipeline : List Transform,
      pipelineOfJson (written (.array (pipeline.map toJson))) = .ok pipeline) ∧
    (∀ t : Transform, ofJson (written t.toJson) = .ok t ∧
      t.toJson.member? "name" = some (.text t.name)) ∧
    (∀ rules : List Rule, Rule.listOfJson (written (.array (rules.map Rule.toJson))) = .ok rules) ∧
    ∀ s : State, State.ofJson (written s.toJson) = .ok s := by
  refine ⟨fun pipeline => ?_, fun t => ⟨?_, ?_⟩, fun rules => ?_, fun s => ?_⟩
  · have hplain : Plain (.array (pipeline.map toJson)) :=
      .array (List.forall_mem_map.2 fun t _ => t.plain_toJson)
    rw [pipelineOfJson, decode_eq hplain.isValue_written]
    have hdecodes : Decodes (ofDocument 1) fun t d => ofDocument 1 d = .ok t := fun _ _ => Iff.rfl
    exact (hdecodes.list _ pipeline).2
      (Document.isList_ofJson (fun t => t.ofDocument_ofJson (Nat.le_refl 1)) pipeline)
  · rw [ofJson, decode_eq t.plain_toJson.isValue_written]
    exact t.ofDocument_ofJson (Nat.zero_le 1)
  · cases t <;> rfl
  · have hplain : Plain (.array (rules.map Rule.toJson)) :=
      .array (List.forall_mem_map.2 fun r _ => r.plain_toJson)
    rw [Rule.listOfJson, decode_eq hplain.isValue_written]
    exact ((Rule.decodes .malformed).list _ rules).2
      (Document.isList_ofJson Rule.spelled_ofJson rules)
  · rw [State.ofJson, decode_eq s.plain_toJson.isValue_written]
    exact (State.decodes .malformed _ s).2 s.spelled_ofJson

end Transform

end Sift
