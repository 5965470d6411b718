import Sift.Proofs.Finiteness
import Sift.Proofs.Positional

set_option autoImplicit false
set_option relaxedAutoImplicit false

/-!
# The first number in a text

A text is tried as a whole before its words are. This changes nothing: a literal has no blanks in
it, so a text that is a number has one word only, which is the same number. Hence the first word
that is a number decides, and the words of a text that is put together from two texts are those of
the one and then those of the other.

## Main results

* `Sift.Text.words_append` — the words of two texts with a space between them.
* `Sift.Numeral.words_of_read?_eq_some` — a text that is a number has one word.
* `Sift.Numeral.first_eq_getD` — the words of a text decide on its first number.
* `Sift.Numeral.first_readable_word_decides` — the first of them that is a number does.
-/

namespace Sift

namespace Text

/-! ## Words -/

/-- Characters without a blank among them are one word. -/
lemma wordChars_of_forall {s : List Char} (hne : s ≠ []) (h : ∀ c ∈ s, isBlank c = false) :
    wordChars s = [s] := by
  have hsplit : s.splitOnP isBlank = [s] :=
    List.splitOnP_eq_singleton fun c hc => by rw [h c hc]
  have hempty : s.isEmpty = false := List.isEmpty_eq_false_iff.2 hne
  rw [wordChars, hsplit, List.filter_cons_of_pos (by rw [hempty]; rfl), List.filter_nil]

/-- **The words of two texts** with a space between them. -/
theorem words_append (s t : String) : words (s ++ " " ++ t) = words s ++ words t := by
  have htoList : (s ++ " " ++ t).toList = s.toList ++ ' ' :: t.toList := by
    simp
  have hspace : isBlank ' ' = true := by decide
  rw [words, htoList, wordChars_append_cons hspace, List.map_append, words, words]

end Text

open Text

namespace Numeral

/-- **A text that is a number has one word**, since no character of a literal is blank. -/
theorem words_of_read?_eq_some {s : String} {x : Binary64} (h : read? s = some x) :
    words s = [trim s] := by
  obtain ⟨d, hd, -, -⟩ := read?_eq_some_iff.1 h
  have hne : trimChars s.toList ≠ [] := by
    intro hnil
    have hempty : Decimal.ofChars? [] = none := rfl
    rw [hnil, hempty] at hd
    exact nomatch hd
  have hblank : ∀ c ∈ trimChars s.toList, isBlank c = false := fun c hc =>
    (Decimal.isLiteralChar_of_ofChars?_eq_some hd c hc).isBlank_eq_and_ne.1
  rw [← words_trim, words, toList_trim, wordChars_of_forall hne hblank, List.map_singleton, trim]

/-- **The words of a text decide** on its first number, also where the whole text is one. -/
theorem first_eq_getD (s : String) : first s = ((words s).findSome? read?).getD .zero := by
  rw [first]
  cases hwhole : read? s with
  | none => rfl
  | some x =>
    rw [words_of_read?_eq_some hwhole, List.findSome?_singleton, read?_trim, hwhole]
    rfl

/-- Where no word of the first text is a number, the second text decides. -/
lemma first_append (s t : String) :
    first (s ++ " " ++ t) =
      if ((words s).any fun w => (read? w).isSome) then first s else first t := by
  rw [first_eq_getD, first_eq_getD, first_eq_getD, words_append, List.findSome?_append]
  cases hword : (words s).findSome? read? with
  | none =>
    have hnone : ((words s).any fun w => (read? w).isSome) = false := by
      rw [List.findSome?_eq_none_iff] at hword
      rw [List.any_eq_false]
      intro w hw
      rw [hword w hw]
      exact Bool.false_ne_true
    rw [if_neg (by rw [hnone]; exact Bool.false_ne_true), Option.none_or]
  | some x =>
    obtain ⟨w, hw, hread⟩ := List.exists_of_findSome?_eq_some hword
    have hsome : ((words s).any fun w => (read? w).isSome) = true :=
      List.any_eq_true.2 ⟨w, hw, by rw [hread]; rfl⟩
    rw [if_pos hsome]
    rfl

/-- **The first word that is a number decides.** The number that a text begins with is that of the
first of its words which is one, or zero if none is, also where the text as a whole is a number.
With a space between two texts it is that of the first text if one of its words is a number, and
else that of the second. Hence what a field amounts to is finite, whatever the field holds, and also
if it is missing. -/
theorem first_readable_word_decides :
    (∀ s : String,
      (∃ before word after x, words s = before ++ word :: after ∧
        (∀ w ∈ before, read? w = none) ∧ read? word = some x ∧ first s = x) ∨
      (∀ w ∈ words s, read? w = none) ∧ first s = .zero) ∧
    (∀ s t : String, first (s ++ " " ++ t) =
      if ((words s).any fun w => (read? w).isSome) then first s else first t) ∧
    ∀ field : Option Json, (Field.amount field).isFinite = true := by
  refine ⟨fun s => ?_, first_append, Field.isFinite_amount⟩
  rw [first_eq_getD]
  cases hword : (words s).findSome? read? with
  | none => exact Or.inr ⟨List.findSome?_eq_none_iff.1 hword, rfl⟩
  | some x =>
    obtain ⟨before, word, after, hsplit, hread, hbefore⟩ := List.findSome?_eq_some_iff.1 hword
    exact Or.inl ⟨before, word, after, x, hsplit, hbefore, hread, rfl⟩

/-- Words that merely look like numbers are passed over, one beyond the range of the format among
them. -/
example : first "ca. 1,5 1e999 -.5e1 kg 7" = .ofInt (-5) := by
  decide +kernel

end Numeral

end Sift
