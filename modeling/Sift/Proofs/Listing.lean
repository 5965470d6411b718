import Mathlib.Data.List.DropRight
import Mathlib.Data.List.TakeWhile
import Sift.Rule.Compiled

set_option autoImplicit false
set_option relaxedAutoImplicit false

/-!
# Lists written with commas

What a text lists is what the parts of it before and after a comma list. An entry has no comma and
no blanks at its ends, and it is a part of the text that lists it.

## Main results

* `Sift.Text.trim_trim` — a text without blanks at its ends stays as it is.
* `Sift.Rule.entries_append` — a comma between two texts puts their lists together.
* `Sift.Rule.entries_of_notMem` — a text without a comma lists itself.
* `Sift.Rule.notMem_of_mem_entries`, `Sift.Rule.trim_of_mem_entries` — an entry has no comma and no
  blanks at its ends.
* `Sift.Rule.isInfix_of_mem_entries` — an entry is a part of the text that lists it.
-/

namespace Sift

namespace Text

/-! ## Blanks at the ends -/

lemma trimChars_eq_rdropWhile (s : List Char) :
    trimChars s = (s.dropWhile isBlank).rdropWhile isBlank := rfl

lemma isInfix_trimChars (s : List Char) : trimChars s <:+: s := by
  rw [trimChars_eq_rdropWhile]
  exact (List.rdropWhile_prefix _ _).isInfix.trans (List.dropWhile_suffix _).isInfix

/-- What is left begins with the same character as before the blanks at the other end were cut off,
so there is no blank in front of it. -/
lemma dropWhile_trimChars (s : List Char) : (trimChars s).dropWhile isBlank = trimChars s := by
  have hbegin : trimChars s <+: s.dropWhile isBlank := List.rdropWhile_prefix _ _
  rw [List.dropWhile_eq_self_iff]
  intro hpos
  rw [hbegin.getElem hpos]
  exact List.dropWhile_get_zero_not _ s (Nat.lt_of_lt_of_le hpos hbegin.length_le)

lemma trimChars_trimChars (s : List Char) : trimChars (trimChars s) = trimChars s := by
  rw [trimChars_eq_rdropWhile, dropWhile_trimChars, trimChars_eq_rdropWhile,
    List.rdropWhile_idempotent]

@[simp] lemma toList_trim (s : String) : (trim s).toList = trimChars s.toList :=
  String.toList_ofList

/-- **A text without blanks at its ends stays as it is.** -/
theorem trim_trim (s : String) : trim (trim s) = trim s := by
  rw [trim, toList_trim, trimChars_trimChars, trim]

/-! ## Pieces -/

variable {separator : Char}

/-- A separator between two texts puts their pieces together. -/
lemma pieces_append (separator : Char) (s t : String) :
    pieces separator (s ++ String.singleton separator ++ t) =
      pieces separator s ++ pieces separator t := by
  have htoList : (s ++ String.singleton separator ++ t).toList =
      s.toList ++ separator :: t.toList := by
    simp
  rw [pieces, htoList, List.splitOn_append_cons_self, List.map_append, pieces, pieces]

/-- A text without a separator is its only piece. -/
lemma pieces_of_notMem {s : String} (h : separator ∉ s.toList) : pieces separator s = [s] := by
  rw [pieces, List.splitOn_eq_singleton h, List.map_singleton, String.ofList_toList]

/-- No piece has a separator in it. -/
lemma notMem_of_mem_splitOn {s l : List Char} (h : l ∈ s.splitOn separator) : separator ∉ l := by
  induction s generalizing l with
  | nil =>
    rw [List.splitOn_nil, List.mem_singleton] at h
    subst h
    exact List.not_mem_nil
  | cons c rest ih =>
    rw [List.splitOn_cons_eq_if_modifyHead] at h
    obtain ⟨first, others, hpieces⟩ :=
      List.exists_cons_of_ne_nil (List.splitOn_ne_nil separator rest)
    rw [hpieces] at h ih
    by_cases hc : (c == separator) = true
    · rw [if_pos hc, List.mem_cons] at h
      rcases h with rfl | hrest
      · exact List.not_mem_nil
      · exact ih hrest
    · rw [if_neg hc, List.modifyHead_cons, List.mem_cons] at h
      rcases h with rfl | hothers
      · rw [List.mem_cons, not_or]
        exact ⟨fun heq => hc (beq_iff_eq.2 heq.symm), ih List.mem_cons_self⟩
      · exact ih (List.mem_cons_of_mem first hothers)

/-- What is joined is a part of the whole. -/
lemma isInfix_intercalate {pieces : List (List Char)} {l : List Char} (h : l ∈ pieces)
    (joint : List Char) : l <:+: joint.intercalate pieces := by
  induction pieces with
  | nil => exact absurd h List.not_mem_nil
  | cons p rest ih =>
    cases rest with
    | nil =>
      have hjoined : joint.intercalate [p] = l := by
        rw [List.intercalate_singleton, List.mem_singleton.1 h]
      exact hjoined ▸ List.infix_rfl
    | cons q rest =>
      rw [List.intercalate_cons_cons]
      rcases List.mem_cons.1 h with rfl | hrest
      · rw [List.append_assoc]
        exact (List.prefix_append _ _).isInfix
      · exact (ih hrest).trans (List.suffix_append _ _).isInfix

/-- A piece is a part of the text. -/
lemma isInfix_of_mem_splitOn {s l : List Char} (h : l ∈ s.splitOn separator) : l <:+: s := by
  have hpart := isInfix_intercalate h [separator]
  rwa [List.intercalate_splitOn] at hpart

end Text

namespace Rule

/-! ## Entries -/

/-- **A comma between two texts puts their lists together.** -/
theorem entries_append (s t : String) : entries (s ++ "," ++ t) = entries s ++ entries t := by
  have hcomma : "," = String.singleton ',' := rfl
  rw [entries, hcomma, Text.pieces_append, List.map_append, entries, entries]

/-- **A text without a comma lists itself**, blanks at its ends aside. -/
theorem entries_of_notMem {s : String} (h : ',' ∉ s.toList) : entries s = [Text.trim s] := by
  rw [entries, Text.pieces_of_notMem h, List.map_singleton]

/-- An entry is a piece of the text without the blanks at its ends. -/
lemma exists_of_mem_entries {s entry : String} (h : entry ∈ entries s) :
    ∃ l ∈ s.toList.splitOn ',', entry = Text.trim (String.ofList l) := by
  rw [entries, Text.pieces, List.map_map, List.mem_map] at h
  obtain ⟨l, hl, rfl⟩ := h
  exact ⟨l, hl, rfl⟩

/-- **An entry is a part of the text that lists it.** -/
theorem isInfix_of_mem_entries {s entry : String} (h : entry ∈ entries s) :
    entry.toList <:+: s.toList := by
  obtain ⟨l, hl, rfl⟩ := exists_of_mem_entries h
  rw [Text.toList_trim, String.toList_ofList]
  exact (Text.isInfix_trimChars l).trans (Text.isInfix_of_mem_splitOn hl)

lemma notMem_of_mem_entries {s entry : String} (h : entry ∈ entries s) : ',' ∉ entry.toList := by
  obtain ⟨l, hl, rfl⟩ := exists_of_mem_entries h
  rw [Text.toList_trim, String.toList_ofList]
  exact fun hmem => Text.notMem_of_mem_splitOn hl ((Text.isInfix_trimChars l).subset hmem)

lemma trim_of_mem_entries {s entry : String} (h : entry ∈ entries s) : Text.trim entry = entry := by
  obtain ⟨l, -, rfl⟩ := exists_of_mem_entries h
  exact Text.trim_trim _

end Rule

end Sift
