import Sift.Json.Written
import Sift.Proofs.JsonGrammar

set_option autoImplicit false
set_option relaxedAutoImplicit false

/-!
# Reading what was written

The text that is written for a value is a JSON text, and its document says what the value does.
This is shown for values without numbers, which rules, states and transforms are written as. How the
text is read is no matter here: what the grammar derives is read.

## Main definitions

* `Sift.Json.Plain` — a value without numbers.
* `Sift.Json.Document.ofJson` — the document that a value is written as.

## Main results

* `Sift.Json.isQuoted_quoted` — a text between quotes.
* `Sift.Json.Plain.isValue_written` — what is written for a value is a JSON text.
-/

namespace Sift.Json

/-! ## Quoted texts -/

lemma isHexDigit_hexDigit {n : Nat} (h : n < 16) : IsHexDigit (hexDigit n) n := by
  have hall : ∀ n < 16, "0123456789abcdef".toList[n]? = some (hexDigit n) := by decide
  exact .inl (hall n h)

/-- The spelling of a character is one unit. -/
lemma isUnit_quotedChar (c : Char) : IsUnit (quotedChar c) c.toNat := by
  unfold quotedChar
  split
  -- the characters that are escaped by a letter
  iterate 7 exact .letter (by decide)
  next hquote hbackslash _ _ _ _ _ =>
    split
    · next hcontrol =>
      have hcode : ((0 * 16 + 0) * 16 + c.toNat / 16) * 16 + c.toNat % 16 = c.toNat := by omega
      have hunit : IsUnit ['\\', 'u', '0', '0', hexDigit (c.toNat / 16), hexDigit (c.toNat % 16)]
          (((0 * 16 + 0) * 16 + c.toNat / 16) * 16 + c.toNat % 16) :=
        .digits (.inl rfl) (.inl rfl) (isHexDigit_hexDigit (by omega))
          (isHexDigit_hexDigit (by omega))
      rwa [hcode] at hunit
    · next hordinary => exact .plain hquote hbackslash (Nat.le_of_not_lt hordinary)

lemma isBody_flatMap_quotedChar (s : List Char) :
    IsBody (s.flatMap quotedChar) (s.map Char.toNat) := by
  induction s with
  | nil => exact .nil
  | cons c s ih => exact .cons (isUnit_quotedChar c) ih

lemma denote_map_toNat (s : List Char) : Denote (s.map Char.toNat) s := by
  induction s with
  | nil => exact .nil
  | cons c s ih => exact .char c ih

/-- **A text between quotes** denotes the text, whatever its characters are. -/
theorem isQuoted_quoted (s : String) : IsQuoted (quoted s.toList) (some s) :=
  .text (isBody_flatMap_quotedChar s.toList) (denote_map_toNat s.toList)

/-! ## Values without numbers -/

/-- There are no numbers in a value. -/
inductive Plain : Json → Prop
  | null : Plain .null
  | bool (b : Bool) : Plain (.bool b)
  | text (s : String) : Plain (.text s)
  | array {elements : List Json} (h : ∀ v ∈ elements, Plain v) : Plain (.array elements)
  | object {members : List (String × Json)} (h : ∀ m ∈ members, Plain m.2) :
      Plain (.object members)

/-! ## Documents -/

namespace Document

mutual

/-- The document that a value is written as. -/
def ofJson : Json → Document
  | .null => null
  | .bool b => bool b
  | .number n => number n.chars
  | .text s => text (some s)
  | .array elements => array (ofElements elements)
  | .object members => object (ofMembers members)

/-- The documents of the elements of an array. -/
def ofElements : List Json → List Document
  | [] => []
  | v :: rest => ofJson v :: ofElements rest

/-- The names and documents of the members of an object. -/
def ofMembers : List (String × Json) → List (Option String × Document)
  | [] => []
  | (name, v) :: rest => (some name, ofJson v) :: ofMembers rest

end

lemma ofElements_eq_map (elements : List Json) : ofElements elements = elements.map ofJson := by
  induction elements with
  | nil => rfl
  | cons v rest ih => rw [ofElements, ih, List.map_cons]

lemma ofMembers_eq_map (members : List (String × Json)) :
    ofMembers members = members.map fun m => (some m.1, ofJson m.2) := by
  induction members with
  | nil => rfl
  | cons m rest ih => rw [ofMembers, ih, List.map_cons]

end Document

/-! ## Derivations -/

/-- A value is written as a text that the grammar derives. -/
def IsSpelled (v : Json) : Prop :=
  IsValue (v.toTokens.flatMap Token.chars) (.ofJson v)

lemma isElements_of_isSpelled {elements : List Json} (hne : elements ≠ [])
    (h : ∀ v ∈ elements, IsSpelled v) :
    IsElements ((elementTokens elements).flatMap Token.chars) (Document.ofElements elements) := by
  induction elements with
  | nil => exact absurd rfl hne
  | cons v rest ih =>
    obtain ⟨hv, hrest⟩ := List.forall_mem_cons.1 h
    cases rest with
    | nil => exact .one hv
    | cons v' rest =>
      have hcons := IsElements.cons hv (ih (List.cons_ne_nil v' rest) hrest)
      rw [elementTokens, List.flatMap_append]
      · exact hcons
      · exact nofun

lemma isMembers_of_isSpelled {members : List (String × Json)} (hne : members ≠ [])
    (h : ∀ m ∈ members, IsSpelled m.2) :
    IsMembers ((memberTokens members).flatMap Token.chars) (Document.ofMembers members) := by
  -- there are no blanks around the name of a member
  have hmember (name : String) {v : Json} (hv : IsSpelled v) :
      IsMember (quoted name.toList ++ ':' :: v.toTokens.flatMap Token.chars)
        (some name, .ofJson v) := by
    have hblank : IsBlank [] := List.forall_mem_nil _
    have hmk := IsMember.mk hblank (isQuoted_quoted name) hblank hv
    rwa [List.nil_append, List.append_nil] at hmk
  induction members with
  | nil => exact absurd rfl hne
  | cons m rest ih =>
    obtain ⟨name, v⟩ := m
    obtain ⟨hv, hrest⟩ := List.forall_mem_cons.1 h
    cases rest with
    | nil => exact .one (hmember name hv)
    | cons m' rest =>
      have hcons := IsMembers.cons (hmember name hv) (ih (List.cons_ne_nil m' rest) hrest)
      rw [memberTokens, List.flatMap_append]
      · exact hcons
      · exact nofun

/-- A value without numbers is spelled. -/
lemma Plain.isSpelled {v : Json} (h : v.Plain) : v.IsSpelled := by
  have hblank : IsBlank [] := List.forall_mem_nil _
  induction h with
  | null => exact .null
  | bool b =>
    cases b with
    | true => exact .true
    | false => exact .false
  | text s =>
    have htext := IsValue.text (isQuoted_quoted s)
    rwa [← List.append_nil (quoted s.toList)] at htext
  | @array elements _ ih =>
    by_cases hne : elements = []
    · rw [hne]
      exact .emptyArray hblank
    · have harray := IsValue.array (isElements_of_isSpelled hne ih)
      rw [IsSpelled, toTokens, List.flatMap_append]
      exact harray
  | @object members _ ih =>
    by_cases hne : members = []
    · rw [hne]
      exact .emptyObject hblank
    · have hobject := IsValue.object (isMembers_of_isSpelled hne ih)
      rw [IsSpelled, toTokens, List.flatMap_append]
      exact hobject

/-- **What is written is a JSON text**, the document of which is the one that the value is written
as. -/
theorem Plain.isValue_written {v : Json} (h : v.Plain) :
    IsValue (written v).toList (.ofJson v) := by
  rw [written, String.toList_ofList]
  exact h.isSpelled

end Sift.Json
