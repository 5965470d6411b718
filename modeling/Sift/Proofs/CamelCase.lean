import Sift.Proofs.Criteria
import Sift.Proofs.Lowering

set_option autoImplicit false
set_option relaxedAutoImplicit false

/-!
# Keys of labels

The key of a label has no spaces, so it is a single word, and the key of a key is the key again: its
first character is in lower case already. For this the case mappings need to be looked at as tables.
No upper-case form has a space in it, and no image of a capital letter is a capital letter itself.
A label that begins with a space is different, since its first word is empty and all others are
capitalized.

Only the words of a label count, not the number of spaces between them, as long as the first word
stays the first one.

## Main definitions

* `Sift.Text.Respaced` — two texts differ in the lengths of runs of spaces.
* `Sift.Text.CaseRun.avoids` — no image of one run lies in another.

## Main results

* `Sift.Text.lowerChar_of_head?` — the first character of a lower-case form is its own.
* `Sift.Text.camelChars_eq` — the key of a label by the words of the label.
* `Sift.Text.space_notMem_camelChars` — a key has no spaces.
* `Sift.Text.camelChars_camelChars` — the key of a key.
* `Sift.Text.Respaced.camelChars_eq` — the number of spaces does not count.
* `Sift.Engine.key_stands_for_label` — what this says of criteria.
-/

namespace Sift

namespace Text

/-! ## Case mappings -/

/-- No image of the first run lies in the second one: the images end before it or begin after it, or
those of every other code point fall between the code points of the second run. -/
def CaseRun.avoids (r q : CaseRun) : Bool :=
  Nat.blt (r.image + (r.count - 1) * r.stride) q.first ||
    (Nat.blt (q.first + (q.count - 1) * q.stride) r.image ||
      (q.stride == 2 && (r.stride == 2 || r.count == 1) && r.image % 2 != q.first % 2))

/-- The last code point of a run is `count - 1` strides behind the first one. -/
lemma le_pred_mul_of_lt_mul {k count stride : Nat} (hk : k < count * stride)
    (hstride : k % stride = 0) : k ≤ (count - 1) * stride := by
  obtain ⟨i, rfl⟩ := Nat.dvd_of_mod_eq_zero hstride
  have hi : i < count := by
    rw [Nat.mul_comm] at hk
    exact Nat.lt_of_mul_lt_mul_right hk
  rw [Nat.mul_comm]
  exact Nat.mul_le_mul_right stride (by omega)

lemma CaseRun.image?_eq_none_of_avoids {r q : CaseRun} (h : r.avoids q = true) {m n : Nat}
    (hr : r.image? m = some n) : q.image? n = none := by
  rw [Option.eq_none_iff_forall_ne_some]
  intro l hq
  obtain ⟨k, -, hn, hk, hstep⟩ := exists_of_image? hr
  obtain ⟨j, hn', -, hj, hstep'⟩ := exists_of_image? hq
  have hk' := le_pred_mul_of_lt_mul hk hstep
  have hj' := le_pred_mul_of_lt_mul hj hstep'
  simp only [avoids, Bool.or_eq_true, Bool.and_eq_true, Nat.blt_eq, beq_iff_eq, bne_iff_ne] at h
  rcases h with hbefore | hbehind | ⟨⟨htwo, hr⟩, hparity⟩
  · omega
  · omega
  · rw [htwo] at hstep'
    rcases hr with htwo' | hone
    · rw [htwo'] at hstep
      omega
    · rw [hone] at hk'
      omega

/-- **No image of a capital letter is a capital letter**, nor is it the dotted capital I, which has
a form of its own. -/
lemma avoids_lowerRuns :
    (lowerRuns.all fun r => (⟨0x130, 1, 1, 0x69⟩ :: lowerRuns).all r.avoids) = true := by
  decide +kernel

/-- An image under a run of capital letters lies in no such run. -/
lemma image?_eq_none_of_imageIn {m n : Nat} (h : imageIn lowerRuns m = some n) {q : CaseRun}
    (hq : q ∈ ⟨0x130, 1, 1, 0x69⟩ :: lowerRuns) : q.image? n = none := by
  obtain ⟨r, hr, himage⟩ := List.exists_of_findSome?_eq_some h
  have havoids := List.all_eq_true.1 (List.all_eq_true.1 avoids_lowerRuns r hr) q hq
  exact CaseRun.image?_eq_none_of_avoids havoids himage

/-- **The first character of a lower-case form** is its own lower-case form. -/
theorem lowerChar_of_head? {c d : Char} (h : (lowerChar c).head? = some d) : lowerChar d = [d] := by
  rw [lowerChar] at h
  split at h
  · obtain rfl : 'i' = d := Option.some.inj h
    decide +kernel
  · next hdotted =>
    split at h
    · next n himage =>
      obtain rfl : Char.ofNat n = d := Option.some.inj h
      obtain ⟨-, hcode⟩ := toNat_ofNat_of_imageIn hasImagesFrom_lowerRuns himage
      have hdotted' : Char.ofNat n ≠ 'İ' := by
        intro heq
        have hnone := image?_eq_none_of_imageIn himage List.mem_cons_self
        rw [← hcode, heq] at hnone
        exact absurd hnone (by decide)
      have hnone : imageIn lowerRuns n = none := by
        rw [imageIn, List.findSome?_eq_none_iff]
        intro q hq
        exact image?_eq_none_of_imageIn himage (List.mem_cons_of_mem _ hq)
      rw [lowerChar, if_neg hdotted', hcode, hnone]
    · next hnone =>
      obtain rfl : c = d := Option.some.inj h
      rw [lowerChar, if_neg hdotted, hnone]

lemma lowerChar_ne_nil (c : Char) : lowerChar c ≠ [] := by
  rw [lowerChar]
  split
  · exact List.cons_ne_nil _ _
  · split <;> exact List.cons_ne_nil _ _

/-- The images of small letters are capital letters or lie beyond them. -/
lemma hasImagesFrom_upperRuns : ∀ r ∈ upperRuns, r.HasImagesFrom 0x41 := by
  decide +kernel

/-- A character below the capital letters is the upper-case form of itself alone. -/
lemma eq_of_mem_upperChar {a c : Char} (hc : c.toNat < 0x41) (h : c ∈ upperChar a) : c = a := by
  have hexpansions : ∀ p ∈ upperExpansions, ∀ n ∈ p.2, 0x41 ≤ (Char.ofNat n).toNat := by
    decide +kernel
  rw [upperChar] at h
  split at h
  · next image hlookup =>
    obtain ⟨n, hn, rfl⟩ := List.mem_map.1 h
    obtain ⟨before, after, hsplit, -⟩ := List.lookup_eq_some_iff.1 hlookup
    have hmem : (a.toNat, image) ∈ upperExpansions := by
      rw [hsplit]
      simp
    have hle := hexpansions _ hmem n hn
    omega
  · split at h
    · next n himage =>
      obtain ⟨hle, hcode⟩ := toNat_ofNat_of_imageIn hasImagesFrom_upperRuns himage
      rw [← List.mem_singleton.1 h] at hcode
      omega
    · exact List.mem_singleton.1 h

/-! ## Words between spaces -/

/-- What stands in front of a text without a separator belongs to its first piece. -/
lemma splitOn_append_of_notMem {separator : Char} {front : List Char} (h : separator ∉ front)
    (s : List Char) :
    (front ++ s).splitOn separator = (s.splitOn separator).modifyHead (front ++ ·) := by
  induction front with
  | nil =>
    rw [List.nil_append]
    cases s.splitOn separator <;> rfl
  | cons c rest ih =>
    obtain ⟨hc, hrest⟩ := List.ne_and_not_mem_of_not_mem_cons h
    have hne : ¬(c == separator) = true := fun heq => hc (beq_iff_eq.1 heq).symm
    rw [List.cons_append, List.splitOn_cons_eq_if_modifyHead, if_neg hne, ih hrest]
    cases s.splitOn separator <;> rfl

/-- Separators in front of a text are followed by empty pieces. -/
lemma splitOn_replicate_append (separator : Char) (n : Nat) (s : List Char) :
    (List.replicate n separator ++ s).splitOn separator =
      List.replicate n [] ++ s.splitOn separator := by
  induction n with
  | zero => rfl
  | succ n ih =>
    rw [List.replicate_succ, List.cons_append, List.splitOn_cons_eq_if_modifyHead,
      if_pos (beq_self_eq_true separator), ih]
    rfl

/-- A word with its first character in lower case. -/
def decapitalized : List Char → List Char
  | [] => []
  | c :: cs => lowerChar c ++ cs

lemma space_notMem_lowerChar {c : Char} (hc : c ≠ ' ') : ' ' ∉ lowerChar c :=
  fun hmem => hc (eq_of_mem_lowerChar (by decide) hmem).symm

lemma space_notMem_decapitalized {word : List Char} (h : ' ' ∉ word) :
    ' ' ∉ decapitalized word := by
  cases word with
  | nil => exact h
  | cons c cs =>
    obtain ⟨hc, hcs⟩ := List.ne_and_not_mem_of_not_mem_cons h
    exact List.not_mem_append (space_notMem_lowerChar hc.symm) hcs

lemma space_notMem_capitalized {word : List Char} (h : ' ' ∉ word) : ' ' ∉ capitalized word := by
  cases word with
  | nil => exact h
  | cons c cs =>
    obtain ⟨hc, hcs⟩ := List.ne_and_not_mem_of_not_mem_cons h
    exact List.not_mem_append (fun hmem => hc (eq_of_mem_upperChar (by decide) hmem)) hcs

/-- **The key of a label** is made of the words of the label, the first one in small letters and all
others capitalized. -/
theorem camelChars_eq {s word : List Char} {words : List (List Char)}
    (h : s.splitOn ' ' = word :: words) :
    camelChars s = decapitalized word ++ words.flatMap capitalized := by
  cases s with
  | nil =>
    rw [List.splitOn_nil] at h
    obtain ⟨rfl, rfl⟩ := List.cons.inj h
    rfl
  | cons c cs =>
    obtain ⟨first, others, hpieces⟩ := List.exists_cons_of_ne_nil (List.splitOn_ne_nil ' ' cs)
    by_cases hc : c = ' '
    · subst hc
      have hspace : lowerChar ' ' = [' '] := by decide +kernel
      rw [camelChars, hspace, List.singleton_append, h]
      rw [List.splitOn_cons_eq_if_modifyHead, if_pos (beq_self_eq_true ' ')] at h
      obtain rfl := (List.cons.inj h).1
      rfl
    · have hne : ¬(c == ' ') = true := fun heq => hc (beq_iff_eq.1 heq)
      rw [List.splitOn_cons_eq_if_modifyHead, if_neg hne, hpieces, List.modifyHead_cons] at h
      obtain ⟨rfl, rfl⟩ := List.cons.inj h
      rw [camelChars, splitOn_append_of_notMem (space_notMem_lowerChar hc), hpieces,
        List.modifyHead_cons, decapitalized]

/-- **A key has no spaces.** -/
theorem space_notMem_camelChars (s : List Char) : ' ' ∉ camelChars s := by
  obtain ⟨word, words, hpieces⟩ := List.exists_cons_of_ne_nil (List.splitOn_ne_nil ' ' s)
  have hspaces : ∀ w ∈ word :: words, ' ' ∉ w :=
    fun w hw => notMem_of_mem_splitOn (hpieces ▸ hw)
  rw [camelChars_eq hpieces, List.mem_append, List.mem_flatMap]
  rintro (hfirst | ⟨w, hw, hmem⟩)
  · exact space_notMem_decapitalized (hspaces word List.mem_cons_self) hfirst
  · exact space_notMem_capitalized (hspaces w (List.mem_cons_of_mem word hw)) hmem

/-- Without spaces there is one word. -/
lemma camelChars_of_notMem {s : List Char} (h : ' ' ∉ s) : camelChars s = decapitalized s := by
  rw [camelChars_eq (List.splitOn_eq_singleton h), List.flatMap_nil, List.append_nil]

/-- The key of a label begins as the lower-case form of its first character does. -/
lemma head?_camelChars {c : Char} (hc : c ≠ ' ') (cs : List Char) :
    (camelChars (c :: cs)).head? = (lowerChar c).head? := by
  obtain ⟨first, others, hpieces⟩ := List.exists_cons_of_ne_nil (List.splitOn_ne_nil ' ' cs)
  have hne : ¬(c == ' ') = true := fun heq => hc (beq_iff_eq.1 heq)
  have hsplit : (c :: cs).splitOn ' ' = (c :: first) :: others := by
    rw [List.splitOn_cons_eq_if_modifyHead, if_neg hne, hpieces, List.modifyHead_cons]
  obtain ⟨d, ds, hlower⟩ := List.exists_cons_of_ne_nil (lowerChar_ne_nil c)
  rw [camelChars_eq hsplit, decapitalized, hlower]
  rfl

/-- **The key of a key** is the key again, unless it belongs to a label that begins with a space. -/
theorem camelChars_camelChars {s : List Char} (h : s.head? ≠ some ' ') :
    camelChars (camelChars s) = camelChars s := by
  cases s with
  | nil => rfl
  | cons c cs =>
    have hc : c ≠ ' ' := fun heq => h (congrArg some heq)
    have hhead := head?_camelChars hc cs
    rw [camelChars_of_notMem (space_notMem_camelChars (c :: cs))]
    cases hkey : camelChars (c :: cs) with
    | nil => rfl
    | cons d ds =>
      rw [hkey] at hhead
      rw [decapitalized, lowerChar_of_head? hhead.symm]
      rfl

/-- A space in front leaves the first word empty, and the next one is capitalized. -/
example : camel " is new" = "IsNew" ∧ camel "IsNew" = "isNew" := by
  decide +kernel

/-! ## Runs of spaces -/

/-- Two texts are the same except for the lengths of runs of spaces between other characters and at
the end. A run that stands between characters, or in front, is not empty in either text. -/
inductive Respaced : List Char → List Char → Prop
  /-- Spaces at the end, or none. -/
  | trailing (m n : Nat) : Respaced (List.replicate m ' ') (List.replicate n ' ')
  /-- A character that both texts have. -/
  | same (c : Char) {s t : List Char} : Respaced s t → Respaced (c :: s) (c :: t)
  /-- Runs of one or more spaces. -/
  | run (m n : Nat) {s t : List Char} : Respaced s t →
      Respaced (List.replicate (m + 1) ' ' ++ s) (List.replicate (n + 1) ' ' ++ t)

lemma flatMap_capitalized_replicate_nil (n : Nat) :
    (List.replicate n ([] : List Char)).flatMap capitalized = [] := by
  rw [List.flatMap_eq_nil_iff]
  intro word hword
  rw [List.eq_of_mem_replicate hword]
  rfl

/-- Such texts have the same first word, and what their other words come to is the same. -/
lemma Respaced.exists_splitOn_eq {s t : List Char} (h : Respaced s t) :
    ∃ word words words', s.splitOn ' ' = word :: words ∧ t.splitOn ' ' = word :: words' ∧
      words.flatMap capitalized = words'.flatMap capitalized := by
  induction h with
  | trailing m n =>
    have hsplit (k : Nat) : (List.replicate k ' ').splitOn ' ' = [] :: List.replicate k [] := by
      have happend := splitOn_replicate_append ' ' k []
      rwa [List.append_nil, List.splitOn_nil, ← List.replicate_succ', List.replicate_succ]
        at happend
    refine ⟨[], _, _, hsplit m, hsplit n, ?_⟩
    rw [flatMap_capitalized_replicate_nil, flatMap_capitalized_replicate_nil]
  | same c _ ih =>
    obtain ⟨word, words, words', hs, ht, hwords⟩ := ih
    by_cases hc : (c == ' ') = true
    · refine ⟨[], word :: words, word :: words', ?_, ?_, ?_⟩
      · rw [List.splitOn_cons_eq_if_modifyHead, if_pos hc, hs]
      · rw [List.splitOn_cons_eq_if_modifyHead, if_pos hc, ht]
      · rw [List.flatMap_cons, List.flatMap_cons, hwords]
    · refine ⟨c :: word, words, words', ?_, ?_, hwords⟩
      · rw [List.splitOn_cons_eq_if_modifyHead, if_neg hc, hs, List.modifyHead_cons]
      · rw [List.splitOn_cons_eq_if_modifyHead, if_neg hc, ht, List.modifyHead_cons]
  | run m n _ ih =>
    obtain ⟨word, words, words', hs, ht, hwords⟩ := ih
    refine ⟨[], List.replicate m [] ++ word :: words, List.replicate n [] ++ word :: words', ?_, ?_,
      ?_⟩
    · rw [splitOn_replicate_append, hs, List.replicate_succ, List.cons_append]
    · rw [splitOn_replicate_append, ht, List.replicate_succ, List.cons_append]
    · simp only [List.flatMap_append, flatMap_capitalized_replicate_nil, List.flatMap_cons, hwords]

/-- **The number of spaces does not count.** -/
theorem Respaced.camelChars_eq {s t : List Char} (h : Respaced s t) :
    camelChars s = camelChars t := by
  obtain ⟨word, words, words', hs, ht, hwords⟩ := h.exists_splitOn_eq
  rw [Text.camelChars_eq hs, Text.camelChars_eq ht, hwords]

end Text

open Text

/-! ## Labels of criteria -/

namespace Engine

/-- **The key of a label stands for the label.** A key has no spaces, and labels that differ in the
lengths of runs of spaces have the same key. The key of a label that does not begin with a space is
its own key; so records satisfy states of the label if they satisfy states of the key, and
selections and rejections by the one or the other keep the same references. -/
theorem key_stands_for_label :
    (∀ label : String, ' ' ∉ (camel label).toList) ∧
    (∀ label label' : String, Respaced label.toList label'.toList → camel label = camel label') ∧
    ∀ label : String, label.toList.head? ≠ some ' ' →
      camel (camel label) = camel label ∧
      ∀ (e : Engine) (states : List State),
        (∀ record : Json,
          e.exactMatch record states (camel label) = e.exactMatch record states label) ∧
        ∀ (ι : Type) [DecidableEq ι] (record : ι → Json) (refs : List ι),
          (e.selectByCriteria record refs (camel label) states).value =
            (e.selectByCriteria record refs label states).value ∧
          (e.rejectByCriteria record refs (camel label) states).value =
            (e.rejectByCriteria record refs label states).value := by
  refine ⟨fun label => ?_, fun label label' h => ?_, fun label hlabel => ?_⟩
  · rw [camel, String.toList_ofList]
    exact space_notMem_camelChars label.toList
  · rw [camel, h.camelChars_eq, camel]
  · have hkey : camel (camel label) = camel label := by
      rw [camel, camel, String.toList_ofList, camelChars_camelChars hlabel]
    refine ⟨hkey, fun e states => ?_⟩
    have hmatch (record : Json) :
        e.exactMatch record states (camel label) = e.exactMatch record states label := by
      rw [exactMatch, hkey, exactMatch]
    refine ⟨hmatch, fun ι _ record refs => ⟨?_, ?_⟩⟩
    · simp only [selectByCriteria, value_keepByCriteria, hmatch]
    · simp only [rejectByCriteria, value_keepByCriteria, hmatch]

/-- A first letter whose small form has two characters, a later one whose capital form has two, and
spaces to spare between and behind them. -/
theorem key_stands_for_label_expanding :
    let label := "İs  ßig "
    let record (stock : String) : Json := .object [("i\u0307sSSig", .text stock)]
    Respaced label.toList "İs ßig".toList ∧ label.toList.head? ≠ some ' ' ∧
      camel label = "i\u0307sSSig" ∧ camel "i\u0307sSSig" = "i\u0307sSSig" ∧
      (exactMatch {} (record "5") [⟨"5", "", []⟩] "i\u0307sSSig").value = false ∧
      (exactMatch {} (record "Yes") [⟨"Yes", "", []⟩] "i\u0307sSSig").value = true ∧
      (rejectByCriteria {} (fun i : Bool => record (if i then "Yes" else "No")) [true, false, false]
        "i\u0307sSSig" [⟨"Yes", "", []⟩]).value = [false] := by
  intro label record
  have hspaced : Respaced label.toList "İs ßig".toList := by
    have hwide : label.toList = ['İ', 's', ' ', ' ', 'ß', 'i', 'g', ' '] := by decide
    have hnarrow : "İs ßig".toList = ['İ', 's', ' ', 'ß', 'i', 'g'] := by decide
    rw [hwide, hnarrow]
    exact .same 'İ' (.same 's' (.run 1 0 (.same 'ß' (.same 'i' (.same 'g' (.trailing 1 0))))))
  have hlabel : label.toList.head? ≠ some ' ' := by decide
  have hkey : camel label = "i\u0307sSSig" := by
    rw [key_stands_for_label.2.1 label _ hspaced]
    decide +kernel
  obtain ⟨hkeyOfKey, hcriteria⟩ := key_stands_for_label.2.2 label hlabel
  rw [hkey] at hkeyOfKey hcriteria
  refine ⟨hspaced, hlabel, hkey, hkeyOfKey, ?_, ?_, ?_⟩
  · rw [(hcriteria {} _).1]
    decide +kernel
  · rw [(hcriteria {} _).1]
    decide +kernel
  · rw [((hcriteria {} _).2 Bool _ _).2]
    decide +kernel

end Engine

end Sift
