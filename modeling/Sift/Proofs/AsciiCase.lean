import Sift.Proofs.Containment

set_option autoImplicit false
set_option relaxedAutoImplicit false

/-!
# The case of the letters from A to Z

A search takes lower-case forms, in which characters may depend on those around them, and so a
letter of another case might change the form of its neighbours. It does not: the two cases of a
letter from `A` to `Z` have the same form and belong to the same classes of characters, and these
are all that other characters see of it. Neither is one of them a comma or a blank, so the
candidates that an expression lists are the same up to the case of these letters. Hence a search
does not tell the cases of these letters apart, neither in the text nor in the expression. Where
there are no characters but ASCII, nothing else is lost in the lower-case form, and a search finds
exactly the parts of a text that agree with a candidate up to the case of letters.

## Main definitions

* `Sift.Text.Twins` — two characters fare alike where texts are lowered, trimmed and divided.
* `Sift.Text.IsAscii` — all characters of a text are ASCII.

## Main results

* `Sift.Text.twins_toLower` — a letter and its small letter are twins.
* `Sift.Text.lowerAfter_map_toLower` — the lower-case form does not depend on the case of the
  letters from `A` to `Z`.
* `Sift.Text.lowerAfter_of_isAscii` — the lower-case form of an ASCII text.
* `Sift.Rule.map_lower_entries_congr` — nor do the lower-case forms of the candidates.
* `Sift.Rule.ascii_case_is_irrelevant` — searches in texts, and what they find in ASCII texts.
-/

namespace Sift

namespace Text

/-! ## Letters -/

/-- Two characters that fare alike where texts are lowered, trimmed and divided at commas. -/
structure Twins (c d : Char) : Prop where
  /-- They have the same lower-case form. -/
  lowerChar_eq : lowerChar c = lowerChar d
  /-- Both are letters with a case, or neither is. -/
  isCased_eq : isCased c = isCased d
  /-- Both are passed over in words, or neither is. -/
  isCaseIgnorable_eq : isCaseIgnorable c = isCaseIgnorable d
  /-- Both are blanks, or neither is. -/
  isBlank_eq : isBlank c = isBlank d
  /-- One is a comma if the other is. -/
  eq_comma_iff : c = ',' ↔ d = ','
  /-- One is a capital sigma if the other is. -/
  eq_sigma_iff : c = 'Σ' ↔ d = 'Σ'

/-- The lower-case form of an ASCII character is its small letter. -/
lemma lowerChar_of_lt {c : Char} (h : c.toNat < 0x80) : lowerChar c = [c.toLower] := by
  have hdotted : c ≠ 'İ' := by
    rintro rfl
    exact absurd h (by decide)
  -- of the runs of capital letters only the first one has ASCII characters
  have hruns : lowerRuns = ⟨0x41, 26, 1, 0x61⟩ :: lowerRuns.tail := rfl
  have hbeyond : ∀ r ∈ lowerRuns.tail, 0x80 ≤ r.first := by decide +kernel
  have htail : lowerRuns.tail.findSome? (·.image? c.toNat) = none := by
    rw [List.findSome?_eq_none_iff]
    intro r hr
    have hfirst := hbeyond r hr
    rw [CaseRun.image?, if_neg]
    simp only [Bool.and_eq_true, decide_eq_true_eq]
    omega
  have himage : imageIn lowerRuns c.toNat = CaseRun.image? ⟨0x41, 26, 1, 0x61⟩ c.toNat := by
    rw [imageIn, hruns, List.findSome?_cons, htail]
    cases CaseRun.image? ⟨0x41, 26, 1, 0x61⟩ c.toNat <;> rfl
  have hlower : lowerChar c =
      (imageIn lowerRuns c.toNat).elim [c] fun n => [Char.ofNat n] := by
    rw [lowerChar, if_neg hdotted]
    cases imageIn lowerRuns c.toNat <;> rfl
  have hall : ∀ n < 0x80,
      (CaseRun.image? ⟨0x41, 26, 1, 0x61⟩ n).elim [Char.ofNat n] (fun m => [Char.ofNat m]) =
        [(Char.ofNat n).toLower] := by decide +kernel
  have hchar := hall c.toNat h
  rw [Char.ofNat_toNat] at hchar
  rw [hlower, himage, hchar]

/-- Letters are not passed over in words. -/
lemma isCaseIgnorable_of_letter {c : Char}
    (h : 0x41 ≤ c.toNat ∧ c.toNat ≤ 0x5A ∨ 0x61 ≤ c.toNat ∧ c.toNat ≤ 0x7A) :
    isCaseIgnorable c = false := by
  have hranges : ∀ r ∈ caseIgnorableRanges,
      r.2 < 0x41 ∨ 0x5A < r.1 ∧ r.2 < 0x61 ∨ 0x7A < r.1 := by decide +kernel
  rw [isCaseIgnorable, inRanges, List.any_eq_false]
  intro r hr
  have hrange := hranges r hr
  simp only [Bool.and_eq_true, decide_eq_true_eq]
  omega

/-- **A letter from A to Z** and its small letter are twins; other characters are not changed. -/
theorem twins_toLower (c : Char) : Twins c.toLower c := by
  by_cases hupper : c.isUpper = true
  · have hrange : 0x41 ≤ c.toNat ∧ c.toNat ≤ 0x5A := of_decide_eq_true hupper
    have hletters : ∀ i < 26,
        let c := Char.ofNat (0x41 + i)
        c.toLower.toNat = c.toNat + 0x20 ∧ c.toLower.toLower = c.toLower ∧
          isCased c.toLower = isCased c ∧ isBlank c.toLower = isBlank c ∧
          (c.toLower = ',' ↔ c = ',') ∧ (c.toLower = 'Σ' ↔ c = 'Σ') := by
      decide +kernel
    have hletter := hletters (c.toNat - 0x41) (by omega)
    rw [Nat.add_sub_cancel' hrange.1, Char.ofNat_toNat] at hletter
    obtain ⟨hcode, htwice, hcased, hblank, hcomma, hsigma⟩ := hletter
    refine ⟨?_, hcased, ?_, hblank, hcomma, hsigma⟩
    · rw [lowerChar_of_lt (by omega), lowerChar_of_lt (by omega), htwice]
    · rw [isCaseIgnorable_of_letter (by omega), isCaseIgnorable_of_letter (by omega)]
  · have hself : c.toLower = c := dif_neg fun h => hupper (decide_eq_true h)
    rw [hself]
    exact ⟨rfl, rfl, rfl, rfl, Iff.rfl, Iff.rfl⟩

/-! ## Lower-case forms -/

lemma startsCased_map_toLower (s : List Char) :
    startsCased (s.map Char.toLower) = startsCased s := by
  induction s with
  | nil => rfl
  | cons c rest ih =>
    rw [List.map_cons, startsCased_cons, startsCased_cons, ih, (twins_toLower c).isCaseIgnorable_eq,
      (twins_toLower c).isCased_eq]

/-- **The case of the letters from A to Z** does not matter to lower-case forms, neither in the
text nor in what lies before it.

**Proof sketch.** Induction on the text, with what lies before it generalized. A letter has the same
form in both cases, and a capital sigma sees only the classes of the characters around it. -/
theorem lowerAfter_map_toLower (before s : List Char) :
    lowerAfter (before.map Char.toLower) (s.map Char.toLower) = lowerAfter before s := by
  induction s generalizing before with
  | nil => rfl
  | cons c rest ih =>
    have hrest := ih (c :: before)
    rw [List.map_cons] at hrest
    rw [List.map_cons, lowerAfter, lowerAfter, hrest, lowerSigma, lowerSigma,
      startsCased_map_toLower, startsCased_map_toLower, (twins_toLower c).lowerChar_eq]
    simp only [(twins_toLower c).eq_sigma_iff]

/-- Texts that agree up to the case of the letters from `A` to `Z` have the same lower-case form. -/
lemma lower_eq_of_eqIgnoringAsciiCase {s t : String} (h : eqIgnoringAsciiCase s t = true) :
    lower s = lower t := by
  have hchars : s.toList.map Char.toLower = t.toList.map Char.toLower := beq_iff_eq.1 h
  have hlower (s : String) :
      lower s = String.ofList (lowerAfter [] (s.toList.map Char.toLower)) := by
    rw [lower, ← lowerAfter_map_toLower [] s.toList, List.map_nil]
  rw [hlower, hlower, hchars]

/-- Such texts are empty together. -/
lemma isEmpty_eq_of_eqIgnoringAsciiCase {s t : String} (h : eqIgnoringAsciiCase s t = true) :
    s.isEmpty = t.isEmpty := by
  have hchars : s.toList.map Char.toLower = t.toList.map Char.toLower := beq_iff_eq.1 h
  have hempty (s : String) : s.isEmpty = true ↔ s.toList.map Char.toLower = [] := by
    rw [String.isEmpty_iff, List.map_eq_nil_iff, String.toList_eq_nil_iff]
  rw [Bool.eq_iff_iff, hempty, hempty, hchars]

/-! ## ASCII texts -/

/-- All characters of a text are ASCII. -/
def IsAscii (s : String) : Prop :=
  ∀ c ∈ s.toList, c.toNat < 0x80

instance (s : String) : Decidable (IsAscii s) :=
  List.decidableBAll (fun c : Char => c.toNat < 0x80) s.toList

/-- **The lower-case form of an ASCII text** has a small letter in place of every letter. -/
theorem lowerAfter_of_isAscii {before s : List Char} (h : ∀ c ∈ s, c.toNat < 0x80) :
    lowerAfter before s = s.map Char.toLower := by
  induction s generalizing before with
  | nil => rfl
  | cons c rest ih =>
    obtain ⟨hc, hrest⟩ := List.forall_mem_cons.1 h
    have hsigma : c ≠ 'Σ' := by
      rintro rfl
      exact absurd hc (by decide)
    rw [lowerAfter, if_neg hsigma, lowerChar_of_lt hc, ih hrest]
    rfl

/-- A search in an ASCII text finds what agrees with a part of it up to the case of letters. -/
lemma contains_lower_iff {hay needle : String} (hhay : IsAscii hay) (hneedle : IsAscii needle) :
    contains (lower hay) (lower needle) = true ↔
      ∃ part : String, part.toList <:+: hay.toList ∧ eqIgnoringAsciiCase part needle = true := by
  rw [contains_iff, lower, lower, String.toList_ofList, String.toList_ofList,
    lowerAfter_of_isAscii hhay, lowerAfter_of_isAscii hneedle, List.infix_map_iff]
  simp only [eqIgnoringAsciiCase, beq_iff_eq]
  constructor
  · rintro ⟨part, hpart, heq⟩
    exact ⟨String.ofList part, by rwa [String.toList_ofList], by rw [String.toList_ofList, heq]⟩
  · rintro ⟨part, hpart, heq⟩
    exact ⟨part.toList, hpart, heq.symm⟩

/-! ## Lists -/

/-- Dividing a text takes no notice of what happens to characters other than the separator. -/
lemma splitOn_map {f : Char → Char} {separator : Char} (h : ∀ c, f c = separator ↔ c = separator)
    (s : List Char) : (s.map f).splitOn separator = (s.splitOn separator).map (List.map f) := by
  induction s with
  | nil => rw [List.map_nil, List.splitOn_nil]; rfl
  | cons c rest ih =>
    rw [List.map_cons, List.splitOn_cons_eq_if_modifyHead, List.splitOn_cons_eq_if_modifyHead, ih]
    simp only [beq_iff_eq, h]
    split
    · rfl
    · cases rest.splitOn separator <;> rfl

lemma trimChars_map_toLower (s : List Char) :
    trimChars (s.map Char.toLower) = (trimChars s).map Char.toLower := by
  have hblank : isBlank ∘ Char.toLower = isBlank := funext fun c => (twins_toLower c).isBlank_eq
  simp only [trimChars, List.dropWhile_map, ← List.map_reverse, hblank]

end Text

open Text

namespace Rule

/-! ## Candidates -/

/-- The candidates that a text lists, as characters without the case of the letters from `A` to
`Z`. -/
lemma map_toLower_entries (s : String) :
    (entries s).map (fun candidate => candidate.toList.map Char.toLower) =
      ((s.toList.map Char.toLower).splitOn ',').map trimChars := by
  rw [splitOn_map fun c => (twins_toLower c).eq_comma_iff, entries, pieces, List.map_map,
    List.map_map, List.map_map]
  refine List.map_congr_left fun piece _ => ?_
  simp only [Function.comp_apply, toList_trim, String.toList_ofList, trimChars_map_toLower]

/-- **Texts that agree up to the case of the letters from A to Z** list candidates with the same
lower-case forms. -/
theorem map_lower_entries_congr {s t : String} (h : eqIgnoringAsciiCase s t = true) :
    (entries s).map lower = (entries t).map lower := by
  have hlower : lower = (fun chars => String.ofList (lowerAfter [] chars)) ∘
      fun candidate : String => candidate.toList.map Char.toLower := by
    funext candidate
    rw [Function.comp_apply, lower, ← lowerAfter_map_toLower [] candidate.toList, List.map_nil]
  rw [hlower, ← List.map_map, ← List.map_map, map_toLower_entries, map_toLower_entries,
    beq_iff_eq.1 h]

end Rule

/-! ## Searches in texts -/

namespace Field

/-- A search in a text takes its lower-case form; nothing is found in the empty text. -/
lemma isLike_text (s candidate : String) :
    isLike (some (.text s)) candidate =
      (!s.isEmpty && contains (lower s) (lower candidate)) := by
  cases hempty : s.isEmpty with
  | true =>
    obtain rfl : s = "" := String.isEmpty_iff.1 hempty
    rfl
  | false =>
    rw [isLike, searchable?_eq_some (v := .text s) (Or.inr hempty), Bool.not_false, Bool.true_and]
    simp only [Json.shown_text]

end Field

namespace Rule

section Searches

variable {symbol : String} {op : Operator} {f : Bool → Bool} {path s : String} {record : Json}

/-- A rule that makes something of a search in a text asks for the lower-case forms of the
candidates. -/
lemma matches_text (hop : Operator.ofSymbol? symbol = some op) (htries : op.triesCandidates = true)
    (hpasses : ∀ field candidate, op.passes field candidate = f (Field.isLike field candidate))
    (hpath : ',' ∉ path.toList) (htrim : trim path = path)
    (hs : record.resolve? path = some (.text s)) (expression : String) :
    Rule.matches ⟨path, symbol, expression⟩ record =
      ((entries expression).map lower).any fun form =>
        f (!s.isEmpty && contains (lower s) form) := by
  rw [matches_eq_any_any hop htries, entries_of_notMem hpath, htrim, List.any_cons, List.any_nil,
    Bool.or_false, hs, List.any_map]
  simp only [Function.comp_def, hpasses, Field.isLike_text]

/-- So the cases of the letters from `A` to `Z` do not matter to it. -/
lemma matches_text_congr (hop : Operator.ofSymbol? symbol = some op)
    (htries : op.triesCandidates = true)
    (hpasses : ∀ field candidate, op.passes field candidate = f (Field.isLike field candidate))
    (hpath : ',' ∉ path.toList) (htrim : trim path = path)
    (hs : record.resolve? path = some (.text s)) {record' : Json} {s' : String}
    (hs' : record'.resolve? path = some (.text s')) (htexts : eqIgnoringAsciiCase s s' = true)
    {x x' : String} (hexpressions : eqIgnoringAsciiCase x x' = true) :
    Rule.matches ⟨path, symbol, x⟩ record = Rule.matches ⟨path, symbol, x'⟩ record' := by
  rw [matches_text hop htries hpasses hpath htrim hs,
    matches_text hop htries hpasses hpath htrim hs', map_lower_entries_congr hexpressions,
    lower_eq_of_eqIgnoringAsciiCase htexts, isEmpty_eq_of_eqIgnoringAsciiCase htexts]

end Searches

/-- **A search does not tell the cases of the letters from A to Z apart.** Where two records have
texts at a path that agree up to the case of these letters, and two expressions agree in the same
way, a rule that searches for the one in the first record matches iff a rule that searches for the
other in the second record does, and likewise for rules that ask for something not to occur; the
texts and the expressions may have any other characters in them. Where they are ASCII and the text
is not empty, the search finds what agrees with a candidate at some place of the text, up to the
case of letters. -/
theorem ascii_case_is_irrelevant {record record' : Json} {path s s' x x' : String}
    (hpath : ',' ∉ path.toList) (htrim : trim path = path)
    (hs : record.resolve? path = some (.text s)) (hs' : record'.resolve? path = some (.text s'))
    (htexts : eqIgnoringAsciiCase s s' = true) (hexpressions : eqIgnoringAsciiCase x x' = true) :
    (Rule.matches ⟨path, "%", x⟩ record = Rule.matches ⟨path, "%", x'⟩ record' ∧
      Rule.matches ⟨path, "!%", x⟩ record = Rule.matches ⟨path, "!%", x'⟩ record') ∧
    (IsAscii s → IsAscii x → s ≠ "" →
      (Rule.matches ⟨path, "%", x⟩ record = true ↔
        ∃ candidate ∈ entries x, ∃ part : String,
          part.toList <:+: s.toList ∧ eqIgnoringAsciiCase part candidate = true)) := by
  have hlike (field : Option Json) (candidate : String) :
      Operator.like.passes field candidate = id (Field.isLike field candidate) := rfl
  have hlacks (field : Option Json) (candidate : String) :
      Operator.notLike.passes field candidate = !Field.isLike field candidate := rfl
  refine ⟨⟨?_, ?_⟩, fun hascii hascii' hne => ?_⟩
  · exact matches_text_congr rfl rfl hlike hpath htrim hs hs' htexts hexpressions
  · exact matches_text_congr rfl rfl hlacks hpath htrim hs hs' htexts hexpressions
  · rw [matches_text rfl rfl hlike hpath htrim hs, List.any_map, List.any_eq_true]
    refine exists_congr fun candidate => and_congr_right fun hmem => ?_
    -- the candidates are parts of the expression, so they are ASCII as well
    have hcandidate : IsAscii candidate := fun c hc =>
      hascii' c ((isInfix_of_mem_entries hmem).subset hc)
    rw [Function.comp_apply, String.isEmpty_eq_false_iff.2 hne, Bool.not_false, Bool.true_and,
      id_eq, contains_lower_iff hascii hcandidate]

/-- A letter next to a capital sigma at the end of a word does not change the sigma, whatever its
case is; and of two candidates the second one is found inside an ASCII text. -/
theorem ascii_case_is_irrelevant_final_sigma :
    let record (s : String) : Json := .object [("part", .object [("name", .text s)])]
    (',' ∉ "part.name".toList ∧ trim "part.name" = "part.name") ∧
    (eqIgnoringAsciiCase "maxΣ, Bolt" "MAXΣ, bOLT" = true ∧
      eqIgnoringAsciiCase "AXΣ" "axΣ" = true ∧
      Rule.matches ⟨"part.name", "%", "AXΣ"⟩ (record "maxΣ, Bolt") =
        Rule.matches ⟨"part.name", "%", "axΣ"⟩ (record "MAXΣ, bOLT") ∧
      Rule.matches ⟨"part.name", "!%", "AXΣ"⟩ (record "maxΣ, Bolt") =
        Rule.matches ⟨"part.name", "!%", "axΣ"⟩ (record "MAXΣ, bOLT")) ∧
    IsAscii "Steel Bolt" ∧ IsAscii "nut, L b" ∧
      Rule.matches ⟨"part.name", "%", "nut, L b"⟩ (record "Steel Bolt") = true := by
  intro record
  have hpath : ',' ∉ "part.name".toList := by decide
  have htrim : trim "part.name" = "part.name" := by decide
  have hs (s : String) : (record s).resolve? "part.name" = some (.text s) := rfl
  have htexts : eqIgnoringAsciiCase "maxΣ, Bolt" "MAXΣ, bOLT" = true := by decide +kernel
  have hexpressions : eqIgnoringAsciiCase "AXΣ" "axΣ" = true := by decide +kernel
  have hascii : IsAscii "Steel Bolt" := by decide
  have hascii' : IsAscii "nut, L b" := by decide
  have hcases := ascii_case_is_irrelevant hpath htrim (hs _) (hs _) htexts hexpressions
  refine ⟨⟨hpath, htrim⟩, ⟨htexts, hexpressions, hcases.1⟩, hascii, hascii', ?_⟩
  have hself : eqIgnoringAsciiCase "nut, L b" "nut, L b" = true := by decide
  have hfound := (ascii_case_is_irrelevant hpath htrim (hs "Steel Bolt") (hs "Steel Bolt")
    (by decide) hself).2 hascii hascii' (by decide)
  refine hfound.2 ⟨"L b", by decide, "l B", ?_, by decide⟩
  exact ⟨"Stee".toList, "olt".toList, by decide⟩

end Rule

end Sift
