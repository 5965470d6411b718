import Sift.Transform.JsonForm
import Sift.Proofs.Denotation
import Sift.Proofs.Lookup

set_option autoImplicit false
set_option relaxedAutoImplicit false

/-!
# The spellings of rules, states and transforms

One and the same rule can be written in many ways: as an object with its members in any order, with
other members among them and without those that are empty, or as an array of its members that may
break off early. The same holds for states and for transforms, and for the rules and states inside
them independently. Here the documents that spell a rule, a state or a transform are described
without reference to decoding, and decoding is shown to accept just these.

## Main definitions

* `Sift.Json.Document.Gives` — a document gives a member of a structure a value.
* `Sift.Rule.Spelled`, `Sift.State.Spelled`, `Sift.Transform.Spelled` — the spellings.
* `Sift.Transform.WithinLimits` — a document denotes a value and is not too deep.

## Main results

* `Sift.Json.exists_parts_iff`, `Sift.Json.part_eq_ok_iff` — the members of a structure.
* `Sift.Rule.decodes`, `Sift.State.decodes`, `Sift.Transform.decodes_of_isLexical` — a document is
  decoded to what it spells, and to nothing else.
-/

namespace Sift

namespace Json

namespace Document

/-! ## Members -/

/-- The documents of the members that have a given name. -/
def named (name : String) (members : List (Option String × Document)) : List Document :=
  (members.filter (·.1 == some name)).map Prod.snd

lemma named_cons (name : String) (n : Option String) (d : Document)
    (rest : List (Option String × Document)) :
    named name ((n, d) :: rest) =
      if n = some name then d :: named name rest else named name rest := by
  by_cases h : n = some name
  · simp [named, h]
  · simp [named, h]

/-- Members of another name do not count. -/
lemma named_filter (name other : String) (h : name ≠ other)
    (members : List (Option String × Document)) :
    named name (members.filter fun m => !(m.1 == some other)) = named name members := by
  rw [named, List.filter_filter, named]
  refine congrArg _ (List.filter_congr fun m _ => ?_)
  by_cases hm : m.1 = some name
  · simp [hm, h]
  · simp [hm]

/-- The documents that stand for a member of a structure: those of its name in an object, and the
one at its place in an array. -/
def at? (names : List String) (name : String) : Document → List Document
  | object members => named name members
  | array elements => elements[names.idxOf name]?.toList
  | _ => []

/-- A document can be a structure with the given members: it is an object all of whose names denote
something, or an array that has no elements beyond the last member. -/
def IsStructure (names : List String) : Document → Prop
  | object members => ∀ m ∈ members, m.1.isSome = true
  | array elements => elements.length ≤ names.length
  | _ => False

/-- A document gives a member of a structure a value: the one document that stands for the member
spells the value, or there is none and the value is the default. -/
def Gives {α : Type} (names : List String) (name : String) (Spells : α → Document → Prop)
    (default : α) (d : Document) (a : α) : Prop :=
  match d.at? names name with
  | [] => a = default
  | [e] => Spells a e
  | _ => False

/-- A document spells a text. -/
def IsText (s : String) (d : Document) : Prop :=
  d = text (some s)

/-- A document spells a list: it is an array of spellings of the entries. -/
def IsList {α : Type} (Spells : α → Document → Prop) (l : List α) : Document → Prop
  | array elements => List.Forall₂ Spells l elements
  | _ => False

/-- What gives a member a value has at most one document for it. -/
lemma Gives.length_at?_le {α : Type} {names : List String} {name : String}
    {Spells : α → Document → Prop} {default a : α} {d : Document}
    (h : d.Gives names name Spells default a) : (d.at? names name).length ≤ 1 := by
  unfold Gives at h
  split at h
  · next hnone => simp [hnone]
  · next hone => simp [hone]
  · exact h.elim

/-! ## Collecting members -/

/-- The members that are collected from an object: all names denote something, and of each name that
is looked for there is what is found under it and nothing else. -/
lemma knownMembers_eq_ok {names : List String} {members : List (Option String × Document)}
    {known : List (String × Document)} (h : knownMembers names members = .ok known) :
    (∀ m ∈ members, m.1.isSome = true) ∧
      ∀ name ∈ names, named name members = (known.lookup name).toList := by
  induction members generalizing known with
  | nil =>
    obtain rfl := Except.ok.inj h
    exact ⟨nofun, fun _ _ => rfl⟩
  | cons m rest ih =>
    obtain ⟨n, d⟩ := m
    cases n with
    | none => exact nomatch h
    | some n =>
      obtain ⟨found, hfound, h⟩ := bind_eq_ok_iff.1 h
      obtain ⟨hsome, hlookup⟩ := ih hfound
      refine ⟨List.forall_mem_cons.2 ⟨rfl, hsome⟩, fun name hname => ?_⟩
      rw [named_cons, hlookup name hname]
      split at h
      · next hother =>
        obtain rfl := pure_eq_ok_iff.1 h
        have hne : some n ≠ some name := by
          rintro heq
          obtain rfl := Option.some.inj heq
          simp [hname] at hother
        rw [if_neg hne]
      · rw [any_eq_isSome_lookup] at h
        split at h
        · exact nomatch h
        · next hnew =>
          obtain rfl := pure_eq_ok_iff.1 h
          rw [lookup_cons_eq]
          by_cases heq : name = n
          · subst heq
            rw [if_pos rfl, if_pos rfl, Option.not_isSome_iff_eq_none.1 hnew]
            rfl
          · rw [if_neg heq, if_neg fun hsome => heq (Option.some.inj hsome).symm]

/-- The members of an object can be collected if all names denote something and none of those that
are looked for occurs twice. -/
lemma exists_knownMembers_eq_ok {names : List String} {members : List (Option String × Document)}
    (hsome : ∀ m ∈ members, m.1.isSome = true)
    (honce : ∀ name ∈ names, (named name members).length ≤ 1) :
    ∃ known, knownMembers names members = .ok known := by
  induction members with
  | nil => exact ⟨[], rfl⟩
  | cons m rest ih =>
    obtain ⟨hm, hrest⟩ := List.forall_mem_cons.1 hsome
    obtain ⟨n, d⟩ := m
    obtain ⟨n, rfl⟩ := Option.isSome_iff_exists.1 hm
    have hfewer : ∀ name ∈ names, (named name rest).length ≤ 1 := by
      intro name hname
      have hle := honce name hname
      rw [named_cons] at hle
      split at hle
      · exact Nat.le_of_succ_le hle
      · exact hle
    obtain ⟨found, hfound⟩ := ih hrest hfewer
    simp only [knownMembers, bind_eq_ok_iff]
    by_cases hname : n ∈ names
    · have hnone : found.lookup n = none := by
        have hle := honce n hname
        rw [named_cons, if_pos rfl, (knownMembers_eq_ok hfound).2 n hname] at hle
        cases hlookup : found.lookup n with
        | none => rfl
        | some e => simp [hlookup] at hle
      refine ⟨(n, d) :: found, found, hfound, ?_⟩
      simp [hname, any_eq_isSome_lookup, hnone, pure_eq_ok_iff]
    · exact ⟨found, found, hfound, by simp [hname, pure_eq_ok_iff]⟩

/-- Under each name of a structure its parts list the one document that stands for the member. -/
lemma at?_eq_of_parts {names : List String} {excess : Fault} {d : Document}
    {parts : List (String × Document)} (h : d.parts names excess = .ok parts) {name : String}
    (hname : name ∈ names) : d.at? names name = (parts.lookup name).toList := by
  cases d with
  | array elements =>
    rw [Document.parts] at h
    split at h
    · exact nomatch h
    · obtain rfl := Except.ok.inj h
      rw [lookup_zip names elements hname]
      rfl
  | object members => exact (knownMembers_eq_ok h).2 name hname
  | _ => exact nomatch h

/-- **The parts of a structure**: a document has them iff it can be a structure and gives no member
twice. -/
theorem exists_parts_iff (names : List String) (excess : Fault) (d : Document) :
    (∃ parts, d.parts names excess = .ok parts) ↔
      d.IsStructure names ∧ ∀ name ∈ names, (d.at? names name).length ≤ 1 := by
  constructor
  · rintro ⟨parts, h⟩
    constructor
    · cases d with
      | array elements =>
        rw [Document.parts] at h
        split at h
        · exact nomatch h
        · next hle => exact Nat.le_of_not_lt hle
      | object members => exact (knownMembers_eq_ok h).1
      | _ => exact nomatch h
    · intro name hname
      rw [at?_eq_of_parts h hname]
      exact Option.length_toList_le
  · rintro ⟨hstructure, honce⟩
    cases d with
    | array elements => exact ⟨_, if_neg (Nat.not_lt.2 hstructure)⟩
    | object members => exact exists_knownMembers_eq_ok hstructure honce
    | _ => exact hstructure.elim

end Document

/-! ## Decoders -/

/-- A decoder decodes each document to what it spells, and to nothing else. -/
def Decodes {α : Type} (decoder : Decoder α) (Spells : α → Document → Prop) : Prop :=
  ∀ (d : Document) (a : α), decoder d = .ok a ↔ Spells a d

lemma decodes_text : Decodes Decoder.text Document.IsText := by
  intro d s
  constructor
  · intro h
    unfold Decoder.text at h
    split at h
    · obtain rfl := Except.ok.inj h
      rfl
    · exact nomatch h
  · rintro rfl
    rfl

/-- A list is decoded to what its entries spell. -/
lemma Decodes.list {α : Type} {decoder : Decoder α} {Spells : α → Document → Prop}
    (h : Decodes decoder Spells) : Decodes (.list decoder) (Document.IsList Spells) := by
  intro d l
  cases d with
  | array elements =>
    have hdecodes : (fun (e : Document) a => decoder e = .ok a) = flip Spells := by
      funext e a
      exact propext (h e a)
    rw [Decoder.list, mapM_eq_ok_iff, hdecodes]
    exact ⟨List.Forall₂.flip, List.Forall₂.flip⟩
  | _ => exact ⟨nofun, False.elim⟩

/-- **The value of a member**: the parts of a structure give what its document gives. -/
theorem part_eq_ok_iff {α : Type} {decoder : Decoder α} {Spells : α → Document → Prop}
    (hdecodes : Decodes decoder Spells) {names : List String} {excess : Fault} {d : Document}
    {parts : List (String × Document)} (hparts : d.parts names excess = .ok parts) {name : String}
    (hname : name ∈ names) (default a : α) :
    part parts name decoder default = .ok a ↔ d.Gives names name Spells default a := by
  rw [Document.Gives, Document.at?_eq_of_parts hparts hname, part]
  cases parts.lookup name with
  | none =>
    rw [Except.ok.injEq]
    exact eq_comm
  | some e => exact hdecodes e a

end Json

open Json

/-! ## Rules and states -/

/-- The members of a rule. -/
def Rule.memberNames : List String :=
  ["field", "operator", "expression"]

/-- A document spells a rule: it gives each member its text, which is empty where it is left out. -/
def Rule.Spelled (r : Rule) (d : Document) : Prop :=
  d.IsStructure memberNames ∧
    d.Gives memberNames "field" Document.IsText "" r.field ∧
    d.Gives memberNames "operator" Document.IsText "" r.operator ∧
    d.Gives memberNames "expression" Document.IsText "" r.expression

/-- A spelling of a rule gives no member twice. -/
lemma Rule.Spelled.length_at?_le {r : Rule} {d : Document} (h : r.Spelled d) :
    ∀ name ∈ memberNames, (d.at? memberNames name).length ≤ 1 := by
  obtain ⟨-, hfield, hoperator, hexpression⟩ := h
  simp only [memberNames, List.forall_mem_cons, List.not_mem_nil, false_implies, implies_true,
    and_true]
  exact ⟨hfield.length_at?_le, hoperator.length_at?_le, hexpression.length_at?_le⟩

/-- **Rules are decoded from their spellings**, and from nothing else. -/
theorem Rule.decodes (excess : Fault) : Decodes (Rule.ofDocument excess) Rule.Spelled := by
  intro d r
  simp only [Rule.ofDocument, bind_eq_ok_iff, pure_eq_ok_iff]
  constructor
  · rintro ⟨parts, hparts, field, hfield, operator, hoperator, expression, hexpression, rfl⟩
    exact ⟨((Document.exists_parts_iff _ _ d).1 ⟨parts, hparts⟩).1,
      (part_eq_ok_iff decodes_text hparts (by decide) _ _).1 hfield,
      (part_eq_ok_iff decodes_text hparts (by decide) _ _).1 hoperator,
      (part_eq_ok_iff decodes_text hparts (by decide) _ _).1 hexpression⟩
  · intro h
    obtain ⟨parts, hparts⟩ := (Document.exists_parts_iff _ excess d).2 ⟨h.1, h.length_at?_le⟩
    obtain ⟨-, hfield, hoperator, hexpression⟩ := h
    exact ⟨parts, hparts, _, (part_eq_ok_iff decodes_text hparts (by decide) _ _).2 hfield,
      _, (part_eq_ok_iff decodes_text hparts (by decide) _ _).2 hoperator,
      _, (part_eq_ok_iff decodes_text hparts (by decide) _ _).2 hexpression, rfl⟩

/-- The members of a state. -/
def State.memberNames : List String :=
  ["name", "target", "filters"]

/-- A document spells a state: it gives the name and the target their texts and the rules their
list, each of which is empty where it is left out. -/
def State.Spelled (s : State) (d : Document) : Prop :=
  d.IsStructure memberNames ∧
    d.Gives memberNames "name" Document.IsText "" s.name ∧
    d.Gives memberNames "target" Document.IsText "" s.target ∧
    d.Gives memberNames "filters" (Document.IsList Rule.Spelled) [] s.filters

/-- A spelling of a state gives no member twice. -/
lemma State.Spelled.length_at?_le {s : State} {d : Document} (h : s.Spelled d) :
    ∀ name ∈ memberNames, (d.at? memberNames name).length ≤ 1 := by
  obtain ⟨-, hname, htarget, hfilters⟩ := h
  simp only [memberNames, List.forall_mem_cons, List.not_mem_nil, false_implies, implies_true,
    and_true]
  exact ⟨hname.length_at?_le, htarget.length_at?_le, hfilters.length_at?_le⟩

/-- **States are decoded from their spellings**, and from nothing else. -/
theorem State.decodes (excess : Fault) : Decodes (State.ofDocument excess) State.Spelled := by
  have hrules : Decodes (.list (Rule.ofDocument excess)) (Document.IsList Rule.Spelled) :=
    (Rule.decodes excess).list
  intro d s
  simp only [State.ofDocument, bind_eq_ok_iff, pure_eq_ok_iff]
  constructor
  · rintro ⟨parts, hparts, name, hname, target, htarget, filters, hfilters, rfl⟩
    exact ⟨((Document.exists_parts_iff _ _ d).1 ⟨parts, hparts⟩).1,
      (part_eq_ok_iff decodes_text hparts (by decide) _ _).1 hname,
      (part_eq_ok_iff decodes_text hparts (by decide) _ _).1 htarget,
      (part_eq_ok_iff hrules hparts (by decide) _ _).1 hfilters⟩
  · intro h
    obtain ⟨parts, hparts⟩ := (Document.exists_parts_iff _ excess d).2 ⟨h.1, h.length_at?_le⟩
    obtain ⟨-, hname, htarget, hfilters⟩ := h
    exact ⟨parts, hparts, _, (part_eq_ok_iff decodes_text hparts (by decide) _ _).2 hname,
      _, (part_eq_ok_iff decodes_text hparts (by decide) _ _).2 htarget,
      _, (part_eq_ok_iff hrules hparts (by decide) _ _).2 hfilters, rfl⟩

/-! ## Transforms -/

namespace Transform

/-- The members of a transform besides its name. -/
def memberNames : Transform → List String
  | select _ | reject _ => ["filters"]
  | selectByStates _ | rejectByStates _ => ["states"]
  | selectByCriteria .. | rejectByCriteria .. => ["criteriaName", "states"]

/-- A document gives the members of a transform besides its name their values, each of which is
empty where it is left out. -/
def HeldBy (t : Transform) (d : Document) : Prop :=
  d.IsStructure t.memberNames ∧
    match t with
    | select filters | reject filters =>
      d.Gives t.memberNames "filters" (Document.IsList Rule.Spelled) [] filters
    | selectByStates states | rejectByStates states =>
      d.Gives t.memberNames "states" (Document.IsList State.Spelled) [] states
    | selectByCriteria criterion states | rejectByCriteria criterion states =>
      d.Gives t.memberNames "criteriaName" Document.IsText "" criterion ∧
        d.Gives t.memberNames "states" (Document.IsList State.Spelled) [] states

/-- A document that holds the members of a transform gives none of them twice. -/
lemma HeldBy.length_at?_le {t : Transform} {d : Document} (h : t.HeldBy d) :
    ∀ name ∈ t.memberNames, (d.at? t.memberNames name).length ≤ 1 := by
  obtain ⟨-, h⟩ := h
  cases t with
  | select _ | reject _ | selectByStates _ | rejectByStates _ =>
    exact List.forall_mem_singleton.2 h.length_at?_le
  | selectByCriteria _ _ | rejectByCriteria _ _ =>
    exact List.forall_mem_cons.2
      ⟨h.1.length_at?_le, List.forall_mem_singleton.2 h.2.length_at?_le⟩

/-- A document spells a transform: it is an object in which one member, wherever it stands, is the
name, and which holds the other members, or an array of the name and the other members. -/
def Spelled (t : Transform) : Document → Prop
  | .object members =>
    Document.named "name" members = [.text (some t.name)] ∧ t.HeldBy (.object members)
  | .array (first :: rest) => first = .text (some t.name) ∧ t.HeldBy (.array rest)
  | _ => False

/-- A structure of a single member is decoded to what its document gives the member. -/
lemma bind_part_eq_ok_iff {α : Type} {decoder : Decoder α} {Spells : α → Document → Prop}
    (hdecodes : Decodes decoder Spells) (name : String) (excess : Fault) (d : Document)
    (default a : α) :
    (d.parts [name] excess >>= fun parts => part parts name decoder default) = .ok a ↔
      d.IsStructure [name] ∧ d.Gives [name] name Spells default a := by
  have hmem : name ∈ [name] := List.mem_singleton_self name
  rw [bind_eq_ok_iff]
  constructor
  · rintro ⟨parts, hparts, ha⟩
    exact ⟨((Document.exists_parts_iff _ _ d).1 ⟨parts, hparts⟩).1,
      (part_eq_ok_iff hdecodes hparts hmem default a).1 ha⟩
  · rintro ⟨hstructure, hgives⟩
    obtain ⟨parts, hparts⟩ := (Document.exists_parts_iff _ _ d).2
      ⟨hstructure, List.forall_mem_singleton.2 hgives.length_at?_le⟩
    exact ⟨parts, hparts, (part_eq_ok_iff hdecodes hparts hmem default a).2 hgives⟩

lemma decodes_rules :
    Decodes (.list (Rule.ofDocument .unsuitable)) (Document.IsList Rule.Spelled) :=
  (Rule.decodes .unsuitable).list

lemma decodes_states :
    Decodes (.list (State.ofDocument .unsuitable)) (Document.IsList State.Spelled) :=
  (State.decodes .unsuitable).list

lemma criterionOf_eq_ok_iff (d : Document) (criterion : String) (states : List State) :
    criterionOf d = .ok (criterion, states) ↔
      d.IsStructure ["criteriaName", "states"] ∧
        d.Gives ["criteriaName", "states"] "criteriaName" Document.IsText "" criterion ∧
        d.Gives ["criteriaName", "states"] "states" (Document.IsList State.Spelled) [] states := by
  simp only [criterionOf, bind_eq_ok_iff, pure_eq_ok_iff, Prod.mk.injEq]
  constructor
  · rintro ⟨parts, hparts, _, hcriterion, _, hstates, rfl, rfl⟩
    exact ⟨((Document.exists_parts_iff _ _ d).1 ⟨parts, hparts⟩).1,
      (part_eq_ok_iff decodes_text hparts (by decide) _ _).1 hcriterion,
      (part_eq_ok_iff decodes_states hparts (by decide) _ _).1 hstates⟩
  · rintro ⟨hstructure, hcriterion, hstates⟩
    obtain ⟨parts, hparts⟩ := (Document.exists_parts_iff _ _ d).2
      ⟨hstructure, List.forall_mem_cons.2
        ⟨hcriterion.length_at?_le, List.forall_mem_singleton.2 hstates.length_at?_le⟩⟩
    exact ⟨parts, hparts, _, (part_eq_ok_iff decodes_text hparts (by decide) _ _).2 hcriterion,
      _, (part_eq_ok_iff decodes_states hparts (by decide) _ _).2 hstates, rfl, rfl⟩

/-- The members of a transform are decoded to what their documents give, for the kind of transform
that the name tells. -/
theorem ofMembers_eq_ok_iff (name : String) (d : Document) (t : Transform) :
    ofMembers name d = .ok t ↔ name = t.name ∧ t.HeldBy d := by
  constructor
  · intro h
    unfold ofMembers at h
    split at h
    · obtain ⟨filters, hfilters, rfl⟩ := map_eq_ok_iff.1 h
      exact ⟨rfl, (bind_part_eq_ok_iff decodes_rules _ _ d _ _).1 hfilters⟩
    · obtain ⟨filters, hfilters, rfl⟩ := map_eq_ok_iff.1 h
      exact ⟨rfl, (bind_part_eq_ok_iff decodes_rules _ _ d _ _).1 hfilters⟩
    · obtain ⟨states, hstates, rfl⟩ := map_eq_ok_iff.1 h
      exact ⟨rfl, (bind_part_eq_ok_iff decodes_states _ _ d _ _).1 hstates⟩
    · obtain ⟨states, hstates, rfl⟩ := map_eq_ok_iff.1 h
      exact ⟨rfl, (bind_part_eq_ok_iff decodes_states _ _ d _ _).1 hstates⟩
    · obtain ⟨⟨criterion, states⟩, hheld, rfl⟩ := map_eq_ok_iff.1 h
      exact ⟨rfl, (criterionOf_eq_ok_iff d criterion states).1 hheld⟩
    · obtain ⟨⟨criterion, states⟩, hheld, rfl⟩ := map_eq_ok_iff.1 h
      exact ⟨rfl, (criterionOf_eq_ok_iff d criterion states).1 hheld⟩
    · exact nomatch h
  · rintro ⟨rfl, hheld⟩
    cases t with
    | select filters | reject filters =>
      exact map_eq_ok_iff.2 ⟨filters, (bind_part_eq_ok_iff decodes_rules _ _ d _ _).2 hheld, rfl⟩
    | selectByStates states | rejectByStates states =>
      exact map_eq_ok_iff.2 ⟨states, (bind_part_eq_ok_iff decodes_states _ _ d _ _).2 hheld, rfl⟩
    | selectByCriteria criterion states | rejectByCriteria criterion states =>
      exact map_eq_ok_iff.2
        ⟨(criterion, states), (criterionOf_eq_ok_iff d criterion states).2 hheld, rfl⟩

/-! ### Names -/

/-- Documents that can be structures alike, and have the same documents for each member, hold the
same transforms. -/
lemma heldBy_congr {t : Transform} {d d' : Document}
    (hstructure : d.IsStructure t.memberNames ↔ d'.IsStructure t.memberNames)
    (hat : ∀ name ∈ t.memberNames, d.at? t.memberNames name = d'.at? t.memberNames name) :
    t.HeldBy d ↔ t.HeldBy d' := by
  unfold HeldBy
  refine and_congr hstructure ?_
  cases t with
  | select _ | reject _ | selectByStates _ | rejectByStates _ =>
    simp only [Document.Gives, hat _ List.mem_cons_self]
  | selectByCriteria _ _ | rejectByCriteria _ _ =>
    have hcriterion := hat "criteriaName" List.mem_cons_self
    have hstates := hat "states" (List.mem_cons_of_mem _ List.mem_cons_self)
    simp only [Document.Gives, hcriterion, hstates]

lemma name_not_mem_memberNames (t : Transform) : "name" ∉ t.memberNames := by
  cases t <;> simp [memberNames]

/-- The name is none of the other members. -/
lemma heldBy_without_name (t : Transform) (members : List (Option String × Document)) :
    t.HeldBy (.object (members.filter fun m => !(m.1 == some "name"))) ↔
      t.HeldBy (.object members) := by
  refine heldBy_congr ?_ fun name hname => ?_
  · constructor
    · intro h m hm
      by_cases hname : m.1 = some "name"
      · rw [hname]
        rfl
      · exact h m (List.mem_filter.2 ⟨hm, by simp [hname]⟩)
    · intro h m hm
      exact h m (List.mem_filter.1 hm).1
  · refine Document.named_filter name "name" ?_ members
    rintro rfl
    exact name_not_mem_memberNames t hname

lemma not_beyond_iff {outer : Nat} {d : Document} :
    ¬(d.value?.isNone = true ∨ depthLimit ≤ outer + d.depth) ↔
      d.value?.isSome = true ∧ outer + d.depth < depthLimit := by
  rw [not_or, Nat.not_le, Bool.not_eq_true, ← Option.not_isSome, Bool.not_eq_false']

/-- What is decoded to a transform has a value, is not too deep and spells the transform, and
nothing else is. -/
theorem ofDocument_eq_ok_iff (outer : Nat) (d : Document) (t : Transform) :
    ofDocument outer d = .ok t ↔
      (d.value?.isSome = true ∧ outer + d.depth < depthLimit) ∧ t.Spelled d := by
  rw [← not_beyond_iff]
  unfold ofDocument
  split
  · next hbeyond => exact ⟨nofun, fun h => absurd hbeyond h.1⟩
  next hwithin =>
  rw [and_iff_right hwithin]
  cases d with
  | array elements =>
    cases elements with
    | nil => exact ⟨nofun, False.elim⟩
    | cons first rest =>
      simp only [bind_eq_ok_iff, ofMembers_eq_ok_iff]
      constructor
      · rintro ⟨name, hfirst, rfl, hheld⟩
        exact ⟨(decodes_text first _).1 hfirst, hheld⟩
      · rintro ⟨hfirst, hheld⟩
        exact ⟨t.name, (decodes_text first _).2 hfirst, rfl, hheld⟩
  | object members =>
    simp only [List.partition_eq_filter_filter, Spelled, Document.named]
    -- the members that are called `name`: none, one, or several
    generalize members.filter (·.1 == some "name") = found
    rcases found with _ | ⟨⟨n, first⟩, _ | ⟨m, rest⟩⟩
    · exact ⟨nofun, fun hspelled => nomatch hspelled.1⟩
    · simp only [bind_eq_ok_iff, ofMembers_eq_ok_iff, List.map_cons, List.map_nil,
        List.cons.injEq, and_true]
      constructor
      · rintro ⟨name, hfirst, rfl, hheld⟩
        exact ⟨(decodes_text first _).1 hfirst, (t.heldBy_without_name members).1 hheld⟩
      · rintro ⟨hfirst, hheld⟩
        exact ⟨t.name, (decodes_text first _).2 hfirst, rfl,
          (t.heldBy_without_name members).2 hheld⟩
    · exact ⟨nofun, fun hspelled => nomatch hspelled.1⟩
  | _ => exact ⟨nofun, False.elim⟩

end Transform

end Sift
