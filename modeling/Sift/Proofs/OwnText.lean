import Sift.Proofs.Containment
import Sift.Proofs.Duality
import Sift.Proofs.ShortestText

set_option autoImplicit false
set_option relaxedAutoImplicit false

/-!
# Values selected by their own texts

A value is found by a rule whose expression is the text that the value shows. For a number this is a
round trip: whichever way the number is kept, its text denotes it again, and a whole number too
large for the format is rounded as its text is. For a text it only has to be one candidate, so that
no comma cuts it and no blanks at its ends are lost. Zero and the empty text equal nothing, so they
are not found.

## Main definitions

* `Sift.Json.IsFindable` — a number other than zero, or a text that is one candidate.

## Main results

* `Sift.Json.IsFindable.equals_shown`, `Sift.Json.IsFindable.isLike_shown` — such a value passes both
  tests with its own text.
* `Sift.Rule.own_text_selects` — so the rules with this text select the value, and their negations
  do not.
-/

namespace Sift

/-! ## Texts as candidates -/

/-- The text of a number, whichever way the number is kept, is a decimal written positionally. -/
lemma Number.exists_text_eq (n : Number) : ∃ d : Decimal, n.text = String.ofList d.chars := by
  cases n with
  | integer value hword => exact ⟨_, Text.intText_eq value⟩
  | float x hfinite =>
    cases x with
    | nan | infinite => exact Bool.noConfusion hfinite
    | finite negative units hfits => exact ⟨_, rfl⟩

/-- The text of a number is a single candidate: there are no commas and no blanks in it. -/
lemma Number.text_isEntry (n : Number) : ',' ∉ n.text.toList ∧ Text.trim n.text = n.text := by
  obtain ⟨d, hd⟩ := n.exists_text_eq
  have htrim : Text.trimChars d.chars = d.chars :=
    Text.trimChars_of_forall fun c hc => (Decimal.isBlank_eq_and_ne_of_mem_chars hc).1
  rw [hd, Text.trim, String.toList_ofList, htrim]
  exact ⟨fun hcomma => (Decimal.isBlank_eq_and_ne_of_mem_chars hcomma).2 rfl, rfl⟩

/-- The text of a number denotes a literal that is the same as the number. -/
lemma Number.isSame_ofText_text (n : Number) :
    (Literal.ofText n.text).isSame (.number n) = true := by
  obtain ⟨place, hplace, -⟩ := Binary64.exists_position?_of_isFinite n.isFinite_toBinary64
  have heq : n.toBinary64.eq n.toBinary64 = true :=
    Binary64.eq_iff_exists_position?.2 ⟨place, hplace, hplace⟩
  simp only [Literal.ofText, n.read?_text, Literal.isSame, heq]

namespace Json

/-- A value that its own text can find: a number other than zero, or a text that is not empty and
reads the same as a candidate, without commas and without blanks at its ends. -/
def IsFindable : Json → Prop
  | number n => n.isZero = false
  | text s => s ≠ "" ∧ ',' ∉ s.toList ∧ Text.trim s = s
  | _ => False

variable {v : Json}

@[simp] lemma shown_number (n : Number) : (number n).shown = n.text :=
  String.ofList_toList

namespace IsFindable

lemma isFalsy_eq_false (h : v.IsFindable) : Field.isFalsy (some v) = false := by
  cases v with
  | number n => exact h
  | text s => exact String.isEmpty_eq_false_iff.2 h.1
  | null | bool | array | object => exact h.elim

lemma shown_isEntry (h : v.IsFindable) : ',' ∉ v.shown.toList ∧ Text.trim v.shown = v.shown := by
  cases v with
  | number n =>
    rw [shown_number]
    exact n.text_isEntry
  | text s =>
    rw [shown_text]
    exact h.2
  | null | bool | array | object => exact h.elim

/-- The value equals its own text. -/
lemma equals_shown (h : v.IsFindable) : Field.equals (some v) v.shown = true := by
  have hfalsy := h.isFalsy_eq_false
  cases v with
  | number n =>
    rw [Field.equals, hfalsy, shown_number]
    exact n.isSame_ofText_text
  | text s =>
    rw [Field.equals, hfalsy, shown_text]
    exact beq_self_eq_true s
  | null | bool | array | object => exact h.elim

/-- The value contains its own text. -/
lemma isLike_shown (h : v.IsFindable) : Field.isLike (some v) v.shown = true := by
  rw [Field.isLike, Field.searchable?_eq_some (Or.inr h.isFalsy_eq_false)]
  exact Text.contains_iff.2 List.infix_rfl

end IsFindable

end Json

/-! ## Rules -/

namespace Rule

/-- **A value's own text selects it.** Where a path without commas leads to a number other than
zero, however many digits its text has and also if the format has to round it, or to a text that is
one candidate, the rules that ask for the value to equal or to contain the text that it shows match,
and the rules that ask for the opposite do not. -/
theorem own_text_selects {record v : Json} {path : String} (hpath : ',' ∉ path.toList)
    (hv : record.resolve? (Text.trim path) = some v) (h : v.IsFindable) :
    (Rule.matches ⟨path, "=", v.shown⟩ record = true ∧
      Rule.matches ⟨path, "%", v.shown⟩ record = true) ∧
    Rule.matches ⟨path, "!=", v.shown⟩ record = false ∧
      Rule.matches ⟨path, "!%", v.shown⟩ record = false := by
  obtain ⟨hcomma, htrim⟩ := h.shown_isEntry
  have hequal : Rule.matches ⟨path, "=", v.shown⟩ record = true := by
    rw [matches_eq_passes rfl rfl hpath hcomma, hv, htrim]
    exact h.equals_shown
  have hlike : Rule.matches ⟨path, "%", v.shown⟩ record = true := by
    rw [matches_eq_passes rfl rfl hpath hcomma, hv, htrim]
    exact h.isLike_shown
  have hdiffers : Rule.matches ⟨path, "!=", v.shown⟩ record =
      !Rule.matches ⟨path, "=", v.shown⟩ record :=
    matches_eq_not_of_passes_eq_not rfl rfl rfl rfl (fun _ _ => rfl) hpath hcomma record
  have hlacks : Rule.matches ⟨path, "!%", v.shown⟩ record =
      !Rule.matches ⟨path, "%", v.shown⟩ record :=
    matches_eq_not_of_passes_eq_not rfl rfl rfl rfl (fun _ _ => rfl) hpath hcomma record
  rw [hequal] at hdiffers
  rw [hlike] at hlacks
  exact ⟨⟨hequal, hlike⟩, hdiffers, hlacks⟩

/-- A whole number that the format rounds, a number whose text has sixteen digits, and a text with a
blank in it are each selected by what they show. -/
theorem own_text_selects_rounded_number :
    let third : Number := .float ((Binary64.ofInt 1).div (.ofInt 3)) (by decide +kernel)
    let record : Json :=
      .object [("id", .number (.integer 9007199254740993 (by decide))),
        ("part", .object [("share", .number third), ("name", .text "Ann Lee")])]
    (∀ path ∈ ["id", "part.share", "part.name"], ',' ∉ path.toList) ∧
    (∀ path ∈ ["id", "part.share", "part.name"],
      ∃ v, record.resolve? (Text.trim path) = some v ∧ v.IsFindable) ∧
    (Rule.matches ⟨"id", "=", "9007199254740993"⟩ record = true ∧
      Rule.matches ⟨"id", "!%", "9007199254740993"⟩ record = false) ∧
    (Rule.matches ⟨"part.share", "=", "0.3333333333333333"⟩ record = true ∧
      Rule.matches ⟨"part.share", "%", "0.3333333333333333"⟩ record = true) ∧
    Rule.matches ⟨"part.name", "!=", "Ann Lee"⟩ record = false := by
  intro third record
  have hid : record.resolve? (Text.trim "id") =
      some (.number (.integer 9007199254740993 (by decide))) := rfl
  have hshare : record.resolve? (Text.trim "part.share") = some (.number third) := rfl
  have hname : record.resolve? (Text.trim "part.name") = some (.text "Ann Lee") := rfl
  have hrounded : (Json.number (.integer 9007199254740993 (by decide))).IsFindable := by
    rw [Json.IsFindable]
    decide +kernel
  have hthird : (Json.number third).IsFindable := by
    rw [Json.IsFindable]
    decide +kernel
  have htext : (Json.text "Ann Lee").IsFindable := by
    rw [Json.IsFindable]
    decide
  have hdigits : (Json.number third).shown = "0.3333333333333333" := by decide +kernel
  have hcommas : ∀ path ∈ ["id", "part.share", "part.name"], ',' ∉ path.toList := by decide
  have hwhole := own_text_selects (hcommas "id" (by decide)) hid hrounded
  have hfraction := own_text_selects (hcommas "part.share" (by decide)) hshare hthird
  have hword := own_text_selects (hcommas "part.name" (by decide)) hname htext
  rw [Json.shown_number] at hwhole
  rw [hdigits] at hfraction
  rw [Json.shown_text] at hword
  refine ⟨hcommas, ?_, ⟨hwhole.1.1, hwhole.2.2⟩, hfraction.1, hword.2.1⟩
  simp only [List.forall_mem_cons, List.not_mem_nil, false_implies, implies_true, and_true]
  exact ⟨⟨_, hid, hrounded⟩, ⟨_, hshare, hthird⟩, _, hname, htext⟩

end Rule

end Sift
