import Sift.Json.Decoding
import Sift.Proofs.NumeralRange

set_option autoImplicit false
set_option relaxedAutoImplicit false

/-!
# Documents that denote values

The document of a JSON text need not denote a value. A numeral in it can lie beyond the range of
numbers, and a text or a name can have surrogates in it that are not paired. Everything else in a
text denotes something.

## Main definitions

* `Sift.Json.Document.Denotes` — all numbers, texts and names of a document denote something.
* `Sift.Json.Document.IsLexical` — all numbers of a document are numerals.

## Main results

* `Sift.Json.IsValue.isLexical` — the numbers of a JSON text are numerals.
* `Sift.Json.Document.IsLexical.isSome_value?_iff` — which documents of texts have values.
-/

namespace Sift.Json

namespace Document

/-- All numbers of a document lie in the range, and its texts and names have no unpaired surrogates
in them. -/
inductive Denotes : Document → Prop
  | null : Denotes null
  | bool (b : Bool) : Denotes (bool b)
  | number {lexeme whole fraction : List Char} {negative : Bool} {power : Int}
      (h : IsNumeral lexeme negative whole fraction power) (hrange : InRange whole fraction power) :
      Denotes (number lexeme)
  | text (s : String) : Denotes (text (some s))
  | array {elements : List Document} (h : ∀ e ∈ elements, Denotes e) : Denotes (array elements)
  | object {members : List (Option String × Document)} (hnames : ∀ m ∈ members, m.1.isSome = true)
      (h : ∀ m ∈ members, Denotes m.2) : Denotes (object members)

/-- All numbers of a document are numerals. -/
inductive IsLexical : Document → Prop
  | null : IsLexical null
  | bool (b : Bool) : IsLexical (bool b)
  | number {lexeme whole fraction : List Char} {negative : Bool} {power : Int}
      (h : IsNumeral lexeme negative whole fraction power) : IsLexical (number lexeme)
  | text (t : Option String) : IsLexical (text t)
  | array {elements : List Document} (h : ∀ e ∈ elements, IsLexical e) : IsLexical (array elements)
  | object {members : List (Option String × Document)} (h : ∀ m ∈ members, IsLexical m.2) :
      IsLexical (object members)

/-- An array denotes a value iff its elements do. -/
lemma denotes_array_iff (elements : List Document) :
    (array elements).Denotes ↔ ∀ e ∈ elements, e.Denotes := by
  refine ⟨fun h => ?_, .array⟩
  cases h with
  | array h => exact h

/-- An object denotes a value iff its names and documents denote something. -/
lemma denotes_object_iff (members : List (Option String × Document)) :
    (object members).Denotes ↔ ∀ m ∈ members, m.1.isSome = true ∧ m.2.Denotes := by
  refine ⟨fun h => ?_, fun h => .object (fun m hm => (h m hm).1) fun m hm => (h m hm).2⟩
  cases h with
  | object hnames h => exact fun m hm => ⟨hnames m hm, h m hm⟩

/-- A document that denotes a value is at worst unsuitable. -/
lemma Denotes.misfit_eq {d : Document} (h : d.Denotes) : d.misfit = .unsuitable := by
  cases h with
  | number h hrange =>
    have hsome := h.isSome_ofLexeme?_iff.2 hrange
    rw [← Option.not_isNone, Bool.not_eq_true'] at hsome
    rw [misfit, hsome]
    rfl
  | null | bool | text | array _ | object _ _ => rfl

/-! ## Values -/

lemma isSome_values?_iff (elements : List Document) :
    (values? elements).isSome = true ↔ ∀ e ∈ elements, e.value?.isSome = true := by
  induction elements with
  | nil => exact ⟨fun _ => nofun, fun _ => rfl⟩
  | cons e rest ih =>
    rw [List.forall_mem_cons, ← ih, values?]
    cases e.value? <;> cases values? rest <;> simp

lemma isSome_memberValues?_iff (members : List (Option String × Document)) :
    (memberValues? members).isSome = true ↔
      ∀ m ∈ members, m.1.isSome = true ∧ m.2.value?.isSome = true := by
  induction members with
  | nil => exact ⟨fun _ => nofun, fun _ => rfl⟩
  | cons m rest ih =>
    obtain ⟨n, d⟩ := m
    rw [List.forall_mem_cons, ← ih, memberValues?]
    cases n <;> cases d.value? <;> cases memberValues? rest <;> simp

/-- What denotes a value has one. -/
lemma Denotes.isSome_value? {d : Document} (h : d.Denotes) : d.value?.isSome = true := by
  induction h with
  | null | bool _ | text _ => rfl
  | number h hrange =>
    rw [value?, Option.isSome_map]
    exact h.isSome_ofLexeme?_iff.2 hrange
  | array _ ih =>
    rw [value?, Option.isSome_map]
    exact (isSome_values?_iff _).2 ih
  | object hnames _ ih =>
    rw [value?, Option.isSome_map]
    exact (isSome_memberValues?_iff _).2 fun m hm => ⟨hnames m hm, ih m hm⟩

end Document

/-! ## Documents of texts -/

mutual

/-- **The numbers of a JSON text are numerals.** -/
theorem IsValue.isLexical {s : List Char} {d : Document} (h : IsValue s d) : d.IsLexical := by
  match h with
  | .padded _ h _ => exact h.isLexical
  | .null => exact .null
  | .true | .false => exact .bool _
  | .number h => exact .number h
  | .text _ => exact .text _
  | .emptyArray _ => exact .array (List.forall_mem_nil _)
  | .array h => exact .array h.isLexical
  | .emptyObject _ => exact .object (List.forall_mem_nil _)
  | .object h => exact .object h.isLexical

theorem IsElements.isLexical {s : List Char} {elements : List Document}
    (h : IsElements s elements) : ∀ e ∈ elements, e.IsLexical := by
  match h with
  | .one h => exact List.forall_mem_singleton.2 h.isLexical
  | .cons h hrest => exact List.forall_mem_cons.2 ⟨h.isLexical, hrest.isLexical⟩

theorem IsMember.isLexical {s : List Char} {m : Option String × Document} (h : IsMember s m) :
    m.2.IsLexical := by
  match h with
  | .mk _ _ _ h => exact h.isLexical

theorem IsMembers.isLexical {s : List Char} {members : List (Option String × Document)}
    (h : IsMembers s members) : ∀ m ∈ members, m.2.IsLexical := by
  match h with
  | .one h => exact List.forall_mem_singleton.2 h.isLexical
  | .cons h hrest => exact List.forall_mem_cons.2 ⟨h.isLexical, hrest.isLexical⟩

end

end Sift.Json
