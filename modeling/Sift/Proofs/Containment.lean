import Sift.Proofs.Alternatives

set_option autoImplicit false
set_option relaxedAutoImplicit false

/-!
# Containment

A text that contains another one should contain it upper and lower case aside. It does, as long as
the lower-case forms of characters do not depend on the characters around them. They do for one
character, the capital sigma, which is final at the end of a word: a candidate that ends with it
within a word of the text, or begins with it there, is lowered by itself to something that the
lowered text need not have. So a rule that searches for a part of a text matches, unless this
happens to all its candidates at all places of the text where they stand.

## Main definitions

* `Sift.Text.SigmaChanges` — a capital sigma has another form within a text than in a part of it.

## Main results

* `Sift.Text.occursIn_iff` — the search finds exactly the contiguous parts.
* `Sift.Text.exists_edge_of_sigmaChanges` — only at the edge of a part that lies within a word does
  a sigma change.
* `Sift.Text.isInfix_lowerAfter` — unless a sigma changes, a part of a text lowers to a part of the
  lowered text.
* `Sift.Rule.contained_text_matches` — what a search for a part of a text can miss.
-/

namespace Sift

namespace Text

/-! ## Searching -/

/-- **The search** finds the contiguous parts of a list. -/
theorem occursIn_iff {needle hay : List Char} : occursIn needle hay = true ↔ needle <:+: hay := by
  induction hay with
  | nil => rw [occursIn, List.isEmpty_iff, List.infix_nil]
  | cons c rest ih =>
    rw [occursIn, Bool.or_eq_true, List.isPrefixOf_iff_prefix, ih, List.infix_cons_iff]

lemma contains_iff {hay needle : String} :
    contains hay needle = true ↔ needle.toList <:+: hay.toList :=
  occursIn_iff

/-! ## The capital sigma -/

/-- A capital sigma of `s` has another lower-case form between the characters `before` and `after`
than in `s` by itself. -/
def SigmaChanges (before s after : List Char) : Prop :=
  ∃ l r, s = l ++ 'Σ' :: r ∧
    lowerSigma (before ++ l).reverse (r ++ after) ≠ lowerSigma l.reverse r

lemma startsCased_cons (c : Char) (s : List Char) :
    startsCased (c :: s) = if isCaseIgnorable c = true then startsCased s else isCased c := by
  rw [startsCased, List.dropWhile_cons]
  by_cases hc : isCaseIgnorable c = true
  · rw [if_pos hc, if_pos hc, startsCased]
  · rw [if_neg hc, if_neg hc]

/-- Characters that follow matter only if those before them are all case-ignorable. -/
lemma startsCased_append (s t : List Char) :
    startsCased (s ++ t) =
      if s.all isCaseIgnorable = true then startsCased t else startsCased s := by
  induction s with
  | nil => rfl
  | cons c rest ih =>
    rw [List.cons_append, startsCased_cons, startsCased_cons, List.all_cons, ih]
    by_cases hc : isCaseIgnorable c = true
    · simp only [hc, if_true, Bool.true_and]
    · simp only [hc, Bool.false_and, Bool.false_eq_true, if_false]

lemma startsCased_of_all {s : List Char} (h : s.all isCaseIgnorable = true) :
    startsCased s = false := by
  rw [startsCased, List.dropWhile_eq_nil_iff.2 (List.all_eq_true.1 h)]

/-- What follows changes the class of the first character that counts only if there was none. -/
lemma all_and_startsCased_of_ne {s t : List Char} (h : startsCased (s ++ t) ≠ startsCased s) :
    s.all isCaseIgnorable = true ∧ startsCased t = true := by
  rw [startsCased_append] at h
  by_cases hall : s.all isCaseIgnorable = true
  · rw [if_pos hall, startsCased_of_all hall, ne_eq, Bool.not_eq_false] at h
    exact ⟨hall, h⟩
  · rw [if_neg hall] at h
    exact absurd rfl h

/-- **Only at an edge within a word** does a sigma change: all that is between it and the edge is
case-ignorable, and the first character beyond that counts is cased. -/
theorem exists_edge_of_sigmaChanges {before s after : List Char} (h : SigmaChanges before s after) :
    ∃ l r, s = l ++ 'Σ' :: r ∧
      (l.all isCaseIgnorable = true ∧ startsCased before.reverse = true ∨
        r.all isCaseIgnorable = true ∧ startsCased after = true) := by
  obtain ⟨l, r, rfl, hne⟩ := h
  refine ⟨l, r, rfl, ?_⟩
  rw [List.reverse_append] at hne
  by_cases hleft : startsCased (l.reverse ++ before.reverse) = startsCased l.reverse
  · by_cases hright : startsCased (r ++ after) = startsCased r
    · rw [lowerSigma, lowerSigma, hleft, hright] at hne
      exact absurd rfl hne
    · exact Or.inr (all_and_startsCased_of_ne hright)
  · obtain ⟨hall, hcased⟩ := all_and_startsCased_of_ne hleft
    exact Or.inl ⟨by rwa [List.all_reverse] at hall, hcased⟩

/-! ## Lowering a part of a text -/

/-- Lowering goes on after a part of the text with that part among what lies before. -/
lemma exists_lowerAfter_append (before s t : List Char) :
    ∃ lowered, lowerAfter before (s ++ t) = lowered ++ lowerAfter (s.reverse ++ before) t := by
  induction s generalizing before with
  | nil => exact ⟨[], rfl⟩
  | cons c rest ih =>
    obtain ⟨lowered, hrest⟩ := ih (c :: before)
    rw [List.cons_append, lowerAfter, hrest, ← List.append_assoc, List.reverse_cons,
      List.append_assoc rest.reverse]
    exact ⟨_, rfl⟩

/-- The same characters are lowered alike between `x` and `after` and between `y` and nothing, if
their sigmas do not see a difference. What lies before has the nearest character first. -/
lemma exists_lowerAfter_eq {after : List Char} (s x y : List Char)
    (hkeeps : ∀ l r, s = l ++ 'Σ' :: r →
      lowerSigma (l.reverse ++ x) (r ++ after) = lowerSigma (l.reverse ++ y) r) :
    ∃ rest, lowerAfter x (s ++ after) = lowerAfter y s ++ rest := by
  induction s generalizing x y with
  | nil => exact ⟨_, rfl⟩
  | cons c s ih =>
    obtain ⟨rest, hrest⟩ := ih (c :: x) (c :: y) fun l r hs => by
      have hinner := hkeeps (c :: l) r (by rw [hs, List.cons_append])
      rwa [List.reverse_cons, List.append_assoc, List.append_assoc] at hinner
    have himage : (if c = 'Σ' then [lowerSigma x (s ++ after)] else lowerChar c) =
        if c = 'Σ' then [lowerSigma y s] else lowerChar c := by
      by_cases hc : c = 'Σ'
      · have hhead : lowerSigma x (s ++ after) = lowerSigma y s := hkeeps [] s (by rw [hc]; rfl)
        rw [hhead]
      · rw [if_neg hc, if_neg hc]
    exact ⟨rest, by
      rw [List.cons_append, lowerAfter, lowerAfter, himage, hrest, List.append_assoc]⟩

/-- **A part of a text lowers to a part of the lowered text**, unless one of its sigmas changes. -/
theorem isInfix_lowerAfter {before s after : List Char} (h : ¬SigmaChanges before s after) :
    lowerAfter [] s <:+: lowerAfter [] (before ++ s ++ after) := by
  have hkeeps : ∀ l r, s = l ++ 'Σ' :: r →
      lowerSigma (l.reverse ++ before.reverse) (r ++ after) = lowerSigma (l.reverse ++ []) r := by
    intro l r hsplit
    by_contra hne
    rw [← List.reverse_append, List.append_nil] at hne
    exact h ⟨l, r, hsplit, hne⟩
  obtain ⟨lowered, hbefore⟩ := exists_lowerAfter_append [] before (s ++ after)
  obtain ⟨rest, hs⟩ := exists_lowerAfter_eq s before.reverse [] hkeeps
  refine ⟨lowered, rest, ?_⟩
  rw [List.append_assoc before, hbefore, List.append_nil, hs, List.append_assoc]

/-- The lower-case form of a part of a text is found in that of the text. -/
lemma contains_lower {hay needle : String} {before after : List Char}
    (hsplit : hay.toList = before ++ needle.toList ++ after)
    (h : ¬SigmaChanges before needle.toList after) :
    contains (lower hay) (lower needle) = true := by
  rw [contains_iff, lower, lower, String.toList_ofList, String.toList_ofList, hsplit]
  exact isInfix_lowerAfter h

end Text

/-! ## Rules that search -/

@[simp] lemma Json.shown_text (s : String) : (text s).shown = s :=
  String.ofList_toList

/-- Truth values and whatever is not falsy can be searched. -/
lemma Field.searchable?_eq_some {v : Json}
    (h : (∃ b, v = .bool b) ∨ isFalsy (some v) = false) : searchable? (some v) = some v := by
  rcases h with ⟨b, rfl⟩ | hfalsy
  · rfl
  · cases v with
    | bool b => rfl
    | null => exact Bool.noConfusion hfalsy
    | number | text => exact if_neg (Bool.eq_false_iff.1 hfalsy)
    | array | object => rfl

namespace Rule

/-- **A search for a part of a text** matches, where the text is what the value at a path shows,
unless each of its candidates has a capital sigma that changes wherever the candidate stands in the
text. So no rule without a capital sigma misses a part of a text, and no candidate is missed that
stands in the text as a whole word. -/
theorem contained_text_matches {record v : Json} {path s : String} (hpath : ',' ∉ path.toList)
    (hv : record.resolve? (Text.trim path) = some v)
    (hsearchable : (∃ b, v = .bool b) ∨ Field.isFalsy (some v) = false)
    (hs : s.toList <:+: v.shown.toList) :
    Rule.matches ⟨path, "%", s⟩ record = true ∨
      ∀ candidate ∈ entries s, candidate.toList <:+: v.shown.toList ∧
        ∀ before after, v.shown.toList = before ++ candidate.toList ++ after →
          Text.SigmaChanges before candidate.toList after ∧
            (Text.startsCased before.reverse = true ∨ Text.startsCased after = true) := by
  rw [or_iff_not_imp_left]
  intro hmissed candidate hcandidate
  refine ⟨(isInfix_of_mem_entries hcandidate).trans hs, fun before after hsplit => ?_⟩
  have hchanges : Text.SigmaChanges before candidate.toList after := by
    by_contra hkeeps
    refine hmissed ?_
    rw [matches_eq_any_any rfl rfl, entries_of_notMem hpath, List.any_cons, List.any_nil,
      Bool.or_false, List.any_eq_true]
    refine ⟨candidate, hcandidate, ?_⟩
    rw [hv, Operator.passes, Field.isLike, Field.searchable?_eq_some hsearchable]
    exact Text.contains_lower hsplit hkeeps
  obtain ⟨l, r, -, hedge⟩ := Text.exists_edge_of_sigmaChanges hchanges
  exact ⟨hchanges, hedge.imp And.right And.right⟩

/-- The beginning of a name is missed where it ends with a capital sigma, which is final in the rule
and not in the name. The same letters are found where they are a word. -/
theorem contained_text_matches_final_sigma :
    let record : Json := .object [("name", .text "ΟΔΥΣΣΕΑΣ"), ("part", .text "Ο ΟΔΥΣ, ")]
    ',' ∉ "name".toList ∧ ',' ∉ "part".toList ∧
      "ΟΔΥΣ".toList <:+: "ΟΔΥΣΣΕΑΣ".toList ∧ "ΟΔΥΣ, ".toList <:+: "Ο ΟΔΥΣ, ".toList ∧
      Rule.matches ⟨"name", "%", "ΟΔΥΣ"⟩ record = false ∧
      Text.SigmaChanges [] "ΟΔΥΣ".toList "ΣΕΑΣ".toList ∧
      Rule.matches ⟨"part", "%", "ΟΔΥΣ, "⟩ record = true := by
  intro record
  have hname : ',' ∉ "name".toList := by decide
  have hpart : ',' ∉ "part".toList := by decide
  have hname' : record.resolve? (Text.trim "name") = some (.text "ΟΔΥΣΣΕΑΣ") := rfl
  have hpart' : record.resolve? (Text.trim "part") = some (.text "Ο ΟΔΥΣ, ") := rfl
  have hbegin : "ΟΔΥΣΣΕΑΣ".toList = [] ++ "ΟΔΥΣ".toList ++ "ΣΕΑΣ".toList := by decide +kernel
  have hword : "Ο ΟΔΥΣ, ".toList = "Ο ".toList ++ "ΟΔΥΣ".toList ++ ", ".toList := by
    decide +kernel
  have hinfix : "ΟΔΥΣ".toList <:+: "ΟΔΥΣΣΕΑΣ".toList := ⟨[], _, hbegin.symm⟩
  have hinfix' : "ΟΔΥΣ, ".toList <:+: "Ο ΟΔΥΣ, ".toList := ⟨"Ο ".toList, [], by decide +kernel⟩
  have hmissed : Rule.matches ⟨"name", "%", "ΟΔΥΣ"⟩ record = false := by decide +kernel
  refine ⟨hname, hpart, hinfix, hinfix', hmissed, ?_, ?_⟩
  · have hsearch := contained_text_matches (s := "ΟΔΥΣ") hname hname' (Or.inr (by decide))
      (by rwa [Json.shown_text])
    have hall := hsearch.resolve_left (by rw [hmissed]; exact Bool.false_ne_true)
    simp only [Json.shown_text] at hall
    exact ((hall "ΟΔΥΣ" (by decide +kernel)).2 [] "ΣΕΑΣ".toList hbegin).1
  · have hsearch := contained_text_matches (s := "ΟΔΥΣ, ") hpart hpart' (Or.inr (by decide))
      (by rwa [Json.shown_text])
    refine hsearch.resolve_right fun hall => ?_
    simp only [Json.shown_text] at hall
    -- neither the blank before the candidate nor the comma after it is cased
    have hcased := ((hall "ΟΔΥΣ" (by decide +kernel)).2 "Ο ".toList ", ".toList hword).2
    exact absurd hcased (by decide +kernel)

end Rule

end Sift
