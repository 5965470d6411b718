import Sift.Proofs.Lowering

set_option autoImplicit false
set_option relaxedAutoImplicit false

/-!
# Searching arrays

An array is searched in the text that shows its elements with commas between them, and so is an
array inside an array. At any depth, then, only commas stand between the leaves, and the array
shows the same text as its leaves in a row. A candidate has no comma, and commas divide lowering: it
is found in the array if and only if it is found in one of the leaves, even if these have commas of
their own. It never begins in one leaf and ends in another.

## Main definitions

* `Sift.Json.leaves` — what is left of a value when nested arrays are flattened.

## Main results

* `Sift.Json.shownChars_eq_intercalate` — a value shows its leaves with commas between them.
* `Sift.Json.isInfix_lower_shown_iff` — what has no comma is found in a value if it is found in one
  of the leaves.
* `Sift.Rule.array_search_finds_leaves` — a search in an array is one in its leaves.
-/

namespace Sift

namespace Text

/-- Where both lists have texts, joining them puts the joint between what either is joined to. -/
lemma intercalate_append_of_ne_nil {joint : List Char} {s t : List (List Char)} (hs : s ≠ [])
    (ht : t ≠ []) :
    joint.intercalate (s ++ t) = joint.intercalate s ++ joint ++ joint.intercalate t := by
  induction s with
  | nil => exact absurd rfl hs
  | cons p rest ih =>
    by_cases hrest : rest = []
    · rw [hrest, List.singleton_append, List.intercalate_singleton,
        List.intercalate_cons_of_ne_nil ht]
    · rw [List.cons_append, List.intercalate_cons_of_ne_nil (List.append_ne_nil_of_left_ne_nil hrest t),
        List.intercalate_cons_of_ne_nil hrest, ih hrest]
      simp only [List.append_assoc]

end Text

/-! ## Leaves -/

namespace Json

mutual

/-- The leaves of a value from left to right: whatever is no array is a leaf, and an array without
elements counts as the empty text. -/
def leaves : Json → List Json
  | null => [null]
  | bool b => [bool b]
  | number n => [number n]
  | text s => [text s]
  | array elements => if elements.isEmpty then [text ""] else leavesOfAll elements
  | object members => [object members]

/-- The leaves of several values. -/
def leavesOfAll : List Json → List Json
  | [] => []
  | v :: rest => v.leaves ++ leavesOfAll rest

end

@[simp] lemma leaves_array_cons (v : Json) (rest : List Json) :
    (array (v :: rest)).leaves = leavesOfAll (v :: rest) := rfl

@[simp] lemma leavesOfAll_cons (v : Json) (rest : List Json) :
    leavesOfAll (v :: rest) = v.leaves ++ leavesOfAll rest := rfl

/-- Every value has a leaf. -/
lemma leaves_ne_nil (v : Json) : v.leaves ≠ [] := by
  match v with
  | null | bool _ | number _ | text _ | object _ | array [] => exact List.cons_ne_nil _ _
  | array (w :: rest) =>
    rw [leaves_array_cons, leavesOfAll_cons]
    exact List.append_ne_nil_of_left_ne_nil (leaves_ne_nil w) _

lemma leavesOfAll_cons_ne_nil (v : Json) (rest : List Json) : leavesOfAll (v :: rest) ≠ [] := by
  rw [← leaves_array_cons]
  exact leaves_ne_nil _

mutual

/-- **No leaf is an array.** -/
theorem ne_array_of_mem_leaves {v leaf : Json} (h : leaf ∈ v.leaves) (inner : List Json) :
    leaf ≠ array inner := by
  match v with
  | null | bool _ | number _ | text _ | object _ | array [] =>
    rw [List.mem_singleton.1 h]
    exact Json.noConfusion
  | array (w :: rest) =>
    rw [leaves_array_cons] at h
    exact ne_array_of_mem_leavesOfAll h inner

theorem ne_array_of_mem_leavesOfAll {elements : List Json} {leaf : Json}
    (h : leaf ∈ leavesOfAll elements) (inner : List Json) : leaf ≠ array inner := by
  match elements with
  | [] => exact absurd h List.not_mem_nil
  | v :: rest =>
    rw [leavesOfAll_cons, List.mem_append] at h
    rcases h with hfirst | hrest
    · exact ne_array_of_mem_leaves hfirst inner
    · exact ne_array_of_mem_leavesOfAll hrest inner

end

lemma shownCharsOfAll_eq_map (elements : List Json) :
    shownCharsOfAll elements = elements.map shownChars := by
  induction elements with
  | nil => rfl
  | cons v rest ih => rw [shownCharsOfAll_cons, ih, List.map_cons]

mutual

/-- **A value shows its leaves** with commas between them, whatever the arrays they are in. -/
theorem shownChars_eq_intercalate (v : Json) :
    v.shownChars = [','].intercalate (v.leaves.map shownChars) := by
  match v with
  | null | bool _ | number _ | text _ | object _ => exact List.intercalate_singleton.symm
  | array [] => rfl
  | array (w :: rest) =>
    rw [shownChars_array, leaves_array_cons]
    exact intercalate_shownCharsOfAll (w :: rest)

theorem intercalate_shownCharsOfAll (elements : List Json) :
    [','].intercalate (shownCharsOfAll elements) =
      [','].intercalate ((leavesOfAll elements).map shownChars) := by
  match elements with
  | [] => rfl
  | [v] =>
    rw [shownCharsOfAll_cons, shownCharsOfAll_nil, List.intercalate_singleton, leavesOfAll_cons,
      leavesOfAll, List.append_nil]
    exact shownChars_eq_intercalate v
  | v :: w :: rest =>
    have hshown : shownCharsOfAll (w :: rest) ≠ [] := List.cons_ne_nil _ _
    have hfirst : v.leaves.map shownChars ≠ [] := mt List.map_eq_nil_iff.1 (leaves_ne_nil v)
    have hrest : (leavesOfAll (w :: rest)).map shownChars ≠ [] :=
      mt List.map_eq_nil_iff.1 (leavesOfAll_cons_ne_nil w rest)
    rw [shownCharsOfAll_cons, List.intercalate_cons_of_ne_nil hshown, leavesOfAll_cons,
      List.map_append, Text.intercalate_append_of_ne_nil hfirst hrest,
      shownChars_eq_intercalate v, intercalate_shownCharsOfAll (w :: rest)]

end

/-- The leaves in a row show the same text. -/
lemma shown_array_leaves (v : Json) : (array v.leaves).shown = v.shown := by
  rw [shown, shown, shownChars_array, shownCharsOfAll_eq_map, ← shownChars_eq_intercalate]

/-- **What has no comma** is found in a value, upper and lower case aside, if it is found in one of
the leaves. -/
theorem isInfix_lower_shown_iff {candidate : String} (h : ',' ∉ candidate.toList) (v : Json) :
    (Text.lower candidate).toList <:+: (Text.lower v.shown).toList ↔
      ∃ leaf ∈ v.leaves, (Text.lower candidate).toList <:+: (Text.lower leaf.shown).toList := by
  have hneedle : ',' ∉ Text.lowerAfter [] candidate.toList :=
    fun hmem => h (Text.mem_of_mem_lowerAfter (by decide) hmem)
  have hleaves : (v.leaves.map shownChars).map (Text.lowerAfter []) ≠ [] := by
    simpa using leaves_ne_nil v
  simp only [Text.lower, shown, String.toList_ofList]
  rw [shownChars_eq_intercalate v, Text.lowerAfter_intercalate Text.isNeutral_comma,
    Text.isInfix_intercalate_iff hneedle hleaves]
  simp only [List.mem_map, exists_exists_and_eq_and]

end Json

/-! ## Rules that search arrays -/

namespace Rule

/-- A rule that searches the array at its path for one of its candidates. -/
lemma matches_like_array_iff {record : Json} {path e : String} {elements : List Json}
    (hpath : ',' ∉ path.toList) (hv : record.resolve? (Text.trim path) = some (.array elements)) :
    Rule.matches ⟨path, "%", e⟩ record = true ↔
      ∃ candidate ∈ entries e,
        (Text.lower candidate).toList <:+: (Text.lower (Json.array elements).shown).toList := by
  have hsearchable : Field.searchable? (some (.array elements)) = some (.array elements) := rfl
  rw [matches_eq_any_any rfl rfl, entries_of_notMem hpath, List.any_cons, List.any_nil,
    Bool.or_false, hv, List.any_eq_true]
  simp only [Operator.passes, Field.isLike, hsearchable, Text.contains_iff]

/-- **A search in an array is one in its leaves.** It finds a candidate, however deep the arrays are
nested, if the lower-case form of one leaf has that of the candidate in it, and it finds the same in
the leaves by themselves, none of which is an array. -/
theorem array_search_finds_leaves {record : Json} {path : String} {elements : List Json}
    (hpath : ',' ∉ path.toList) (hv : record.resolve? (Text.trim path) = some (.array elements))
    (e : String) :
    (Rule.matches ⟨path, "%", e⟩ record = true ↔
      ∃ candidate ∈ entries e, ∃ leaf ∈ (Json.array elements).leaves,
        (Text.lower candidate).toList <:+: (Text.lower leaf.shown).toList) ∧
    (∀ leaf ∈ (Json.array elements).leaves, ∀ inner, leaf ≠ .array inner) ∧
    ∀ flat : Json, flat.resolve? (Text.trim path) = some (.array (Json.array elements).leaves) →
      Rule.matches ⟨path, "%", e⟩ flat = Rule.matches ⟨path, "%", e⟩ record := by
  refine ⟨?_, fun leaf hleaf inner => Json.ne_array_of_mem_leaves hleaf inner, fun flat hflat => ?_⟩
  · rw [matches_like_array_iff hpath hv]
    refine exists_congr fun candidate => and_congr_right fun hcandidate => ?_
    exact Json.isInfix_lower_shown_iff (notMem_of_mem_entries hcandidate) _
  · rw [Bool.eq_iff_iff, matches_like_array_iff hpath hflat, matches_like_array_iff hpath hv,
      Json.shown_array_leaves]

/-- A word that ends with a sigma, next to a leaf with a comma and an array without elements. The
sigma is final in front of the comma between the leaves as it is in the candidate. Letters on either
side of that comma are not found. -/
theorem array_search_finds_leaves_final_sigma :
    let nested : List Json := [.text "ΟΔΥΣ", .array [.text "ΑΣ, x", .array []]]
    let record : Json := .object [("names", .array nested)]
    let flat : Json := .object [("names", .array [.text "ΟΔΥΣ", .text "ΑΣ, x", .text ""])]
    ',' ∉ " names".toList ∧
      record.resolve? (Text.trim " names") = some (.array nested) ∧
      flat.resolve? (Text.trim " names") = some (.array (Json.array nested).leaves) ∧
      Rule.matches ⟨" names", "%", "zz, δυς"⟩ record = true ∧
      Rule.matches ⟨" names", "%", "zz, δυς"⟩ flat = true ∧
      Rule.matches ⟨" names", "%", "ΣΑ"⟩ record = false := by
  intro nested record flat
  have hpath : ',' ∉ " names".toList := by decide
  have hnested : record.resolve? (Text.trim " names") = some (.array nested) := rfl
  have hflat : flat.resolve? (Text.trim " names") = some (.array (Json.array nested).leaves) := rfl
  have hword : Rule.matches ⟨" names", "%", "zz, δυς"⟩ record = true := by
    rw [(array_search_finds_leaves hpath hnested "zz, δυς").1]
    refine ⟨"δυς", by decide +kernel, .text "ΟΔΥΣ", List.mem_cons_self, ?_⟩
    exact Text.contains_iff.1 (by decide +kernel)
  refine ⟨hpath, hnested, hflat, hword, ?_, ?_⟩
  · rw [(array_search_finds_leaves hpath hnested "zz, δυς").2.2 flat hflat, hword]
  · rw [Bool.eq_false_iff, ne_eq, (array_search_finds_leaves hpath hnested "ΣΑ").1]
    simp only [← Text.contains_iff]
    decide +kernel

end Rule

end Sift
