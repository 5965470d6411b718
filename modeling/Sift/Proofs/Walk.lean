import Mathlib.Data.List.Forall2
import Sift.Record.Path
import Sift.Proofs.Positional

set_option autoImplicit false
set_option relaxedAutoImplicit false

/-!
# Walks into records

A walk enters one value after another: from an object it goes to a member, by the name of that
member, and from an array to an element, by its position. A path describes a walk. Each piece
of the path is a name or a position according to the value that has been reached, so the same piece
may be either. What a path resolves to is where the walk it describes ends. If the path describes
no walk, some piece of it leads nowhere from the value that the pieces before it lead to.

## Main definitions

* `Sift.Text.IsSpelling` — the ways in which a number may be written as a position.
* `Sift.Json.Step`, `Sift.Json.Walk` — steps into values, and walks of several steps.
* `Sift.Json.LeadsTo` — pieces of a path describe a walk that ends at a value.
* `Sift.Json.IsDeadEnd` — a piece of a path leads nowhere from a value.

## Main results

* `Sift.Text.word?_eq_some_iff` — which texts are read as positions.
* `Sift.Json.step?_eq_some_iff`, `Sift.Json.step?_eq_none_iff` — one piece of a path.
* `Sift.Json.foldlM_step?_eq_some_iff`, `Sift.Json.foldlM_step?_eq_none_iff` — several pieces.
* `Sift.Json.resolve?_append` — one path behind another.
* `Sift.Json.path_leads_where_walk_ends` — paths and walks.
-/

namespace Sift

namespace Text

/-! ## Joined texts -/

/-- Texts without a separator are the pieces of what they are when they are joined by it. -/
lemma pieces_intercalate {separator : Char} {l : List String} (hne : l ≠ [])
    (h : ∀ s ∈ l, separator ∉ s.toList) :
    pieces separator ((String.singleton separator).intercalate l) = l := by
  have hjoined : ((String.singleton separator).intercalate l).toList =
      [separator].intercalate (l.map String.toList) := by
    rw [String.toList_intercalate, String.toList_singleton]
  have hpieces : ∀ piece ∈ l.map String.toList, separator ∉ piece := by
    simpa using h
  rw [pieces, hjoined, List.splitOn_intercalate separator hpieces (by simpa using hne)]
  simp [Function.comp_def]

/-! ## Positions in texts -/

/-- A text is a way to write a number: its decimal digits, with as many zeros in front of them as one
likes, and in front of all these a plus sign or none. -/
def IsSpelling (n : Nat) (s : String) : Prop :=
  ∃ zeros, s.toList = List.replicate zeros '0' ++ digitsOfNat n ∨
    s.toList = '+' :: (List.replicate zeros '0' ++ digitsOfNat n)

lemma isDigit_of_mem_replicate_append {zeros n : Nat} {c : Char}
    (h : c ∈ List.replicate zeros '0' ++ digitsOfNat n) : c.isDigit = true := by
  rcases List.mem_append.1 h with hzero | hdigit
  · rw [List.eq_of_mem_replicate hzero]
    decide
  · exact isDigit_of_mem_digitsOfNat hdigit

lemma exists_eq_digitChar {c : Char} (h : c.isDigit = true) : ∃ d < 10, c = Nat.digitChar d := by
  have hrange : 48 ≤ c.toNat ∧ c.toNat ≤ 57 := Char.isDigit_iff_toNat.1 h
  have hlt : c.toNat - 48 < 10 := by omega
  refine ⟨c.toNat - 48, hlt, Char.toNat_inj.1 ?_⟩
  rw [Nat.toNat_digitChar_of_lt_ten hlt]
  omega

/-- **Digits are those of the number that they denote**, with zeros in front of them.

**Proof sketch.** Induction on the digits from the right. If what is in front of the last digit
denotes zero, it is all zeros, and otherwise the last digit joins the digits of that number. -/
theorem exists_eq_replicate_append {digits : List Char} (hne : digits ≠ [])
    (h : ∀ c ∈ digits, c.isDigit = true) :
    ∃ zeros, digits = List.replicate zeros '0' ++ digitsOfNat (natOfDigits digits) := by
  induction digits using List.reverseRecOn with
  | nil => exact absurd rfl hne
  | append_singleton front c ih =>
    obtain ⟨d, hd, rfl⟩ := exists_eq_digitChar (h c (by simp))
    have hlast : digitsOfNat d = [d.digitChar] := Nat.toDigits_of_lt_base hd
    have hvalue : natOfDigits (front ++ [d.digitChar]) = 10 * natOfDigits front + d := by
      simp [natOfDigits, Nat.ofDigitChars_append, Nat.ofDigitChars_cons_digitChar_of_lt_ten hd]
    by_cases hfront : front = []
    · subst hfront
      refine ⟨0, ?_⟩
      rw [hvalue]
      simp [natOfDigits, hlast]
    · obtain ⟨zeros, hzeros⟩ := ih hfront fun c hc => h c (List.mem_append_left _ hc)
      by_cases hzero : natOfDigits front = 0
      · refine ⟨zeros + 1, ?_⟩
        rw [hzero] at hzeros
        rw [hvalue, hzero, Nat.mul_zero, Nat.zero_add, hlast, hzeros, List.replicate_succ']
        rfl
      · have hjoin : digitsOfNat (natOfDigits front) ++ digitsOfNat d =
            digitsOfNat (10 * natOfDigits front + d) :=
          Nat.toDigits_append_toDigits (by decide) (by omega) hd
        refine ⟨zeros, ?_⟩
        rw [hvalue, ← hjoin, hlast, ← List.append_assoc, ← hzeros]

/-- One or more digits denote a number iff they are its digits with zeros in front of them. -/
lemma nat?_eq_some_iff {s : List Char} {n : Nat} :
    nat? s = some n ↔ ∃ zeros, s = List.replicate zeros '0' ++ digitsOfNat n := by
  rw [nat?_eq_some_iff_natOfDigits]
  constructor
  · rintro ⟨hne, hdigits, rfl⟩
    exact exists_eq_replicate_append hne hdigits
  · rintro ⟨zeros, rfl⟩
    refine ⟨?_, fun c hc => isDigit_of_mem_replicate_append hc, ?_⟩
    · exact List.append_ne_nil_of_right_ne_nil _ (digitsOfNat_ne_nil n)
    · rw [natOfDigits_replicate_append, natOfDigits_digitsOfNat]

/-- **The texts that are read as positions** are the ways to write a number of 64 bits. -/
theorem word?_eq_some_iff {s : String} {n : Nat} :
    word? s = some n ↔ IsSpelling n s ∧ n < 18446744073709551616 := by
  have hsign : ∀ rest zeros, '+' :: rest ≠ List.replicate zeros '0' ++ digitsOfNat n := by
    intro rest zeros h
    have hdigit : Char.isDigit '+' = true := isDigit_of_mem_replicate_append (h ▸ List.mem_cons_self)
    exact absurd hdigit (by decide)
  unfold word? IsSpelling
  simp only [Option.filter_eq_some_iff, nat?_eq_some_iff, decide_eq_true_eq]
  refine and_congr_left fun _ => exists_congr fun zeros => ?_
  split
  · next rest hs => simp [hs, hsign]
  · next hs =>
    have hplus : s.toList ≠ '+' :: (List.replicate zeros '0' ++ digitsOfNat n) := hs _
    simp [hplus]

/-- What is read as a position has 64 bits. -/
lemma exists_toNat_eq_of_word? {s : String} {n : Nat} (h : word? s = some n) :
    ∃ position : UInt64, position.toNat = n :=
  ⟨.ofNat n, UInt64.toNat_ofNat_of_lt' (word?_eq_some_iff.1 h).2⟩

/-- A text is read as a position of 64 bits iff it is a way to write it. -/
lemma word?_eq_some_toNat_iff {s : String} {position : UInt64} :
    word? s = some position.toNat ↔ IsSpelling position.toNat s := by
  rw [word?_eq_some_iff]
  exact and_iff_left position.toNat_lt

end Text

namespace Json

/-! ## Walks -/

/-- A step into a value. Positions have 64 bits. -/
inductive Step
  /-- To the member of an object with a given name. -/
  | member (name : String)
  /-- To the element of an array at a given position. -/
  | element (position : UInt64)

namespace Step

/-- How a step is written in a path: a name as it is, a position in decimal digits. -/
def text : Step → String
  | member name => name
  | element position => String.ofList (Text.digitsOfNat position.toNat)

/-- A piece of a path is a way to write a step. -/
def IsWritten (s : Step) (piece : String) : Prop :=
  match s with
  | member name => piece = name
  | element position => Text.IsSpelling position.toNat piece

/-- A step leads from one value to another. -/
inductive Leads : Step → Json → Json → Prop
  /-- The first member with a name is the one that has it. -/
  | member {name : String} {members : List (String × Json)} {w : Json}
      (found : members.lookup name = some w) : Leads (member name) (object members) w
  /-- An element stands at its position. -/
  | element {position : UInt64} {elements : List Json} {w : Json}
      (found : elements[position.toNat]? = some w) : Leads (element position) (array elements) w

end Step

/-- Steps lead from one value to another, one after the other. -/
inductive Walk : Json → List Step → Json → Prop
  /-- Without a step one stays. -/
  | nil (v : Json) : Walk v [] v
  /-- The other steps go on from where the first one leads. -/
  | cons {v u w : Json} {s : Step} {steps : List Step} (first : s.Leads v u)
      (rest : Walk u steps w) : Walk v (s :: steps) w

/-- Pieces of a path describe a walk from one value to another. -/
def LeadsTo (v : Json) (pieces : List String) (w : Json) : Prop :=
  ∃ steps, List.Forall₂ Step.IsWritten steps pieces ∧ Walk v steps w

/-- A piece of a path leads nowhere from a value: an object has no member of that name, an array no
element at a position that is written like that, and there is no way into any other value. -/
def IsDeadEnd (v : Json) (piece : String) : Prop :=
  match v with
  | object members => piece ∉ members.map Prod.fst
  | array elements =>
    ∀ position : UInt64, Text.IsSpelling position.toNat piece → elements.length ≤ position.toNat
  | _ => True

/-! ## One piece of a path -/

/-- **One piece of a path** leads where a step leads that it is a way to write. -/
theorem step?_eq_some_iff {v w : Json} {piece : String} :
    v.step? piece = some w ↔ ∃ s : Step, s.IsWritten piece ∧ s.Leads v w := by
  constructor
  · intro h
    cases v with
    | object members => exact ⟨.member piece, rfl, .member h⟩
    | array elements =>
      obtain ⟨n, hn, hw⟩ := Option.bind_eq_some_iff.1 h
      obtain ⟨position, rfl⟩ := Text.exists_toNat_eq_of_word? hn
      exact ⟨.element position, Text.word?_eq_some_toNat_iff.1 hn, .element hw⟩
    | _ => exact nomatch h
  · rintro ⟨s, hwritten, hleads⟩
    cases hleads with
    | member hfound =>
      obtain rfl := hwritten
      exact hfound
    | @element position elements _ hfound =>
      have hword : Text.word? piece = some position.toNat :=
        Text.word?_eq_some_toNat_iff.2 hwritten
      simp [step?, hword, hfound]

/-- **A piece of a path leads nowhere** iff it is a dead end. -/
theorem step?_eq_none_iff {v : Json} {piece : String} :
    v.step? piece = none ↔ v.IsDeadEnd piece := by
  cases v with
  | object members =>
    show members.lookup piece = none ↔ piece ∉ members.map Prod.fst
    simp only [List.lookup_eq_none_iff, bne_iff_ne, List.mem_map, not_exists, not_and]
    exact forall₂_congr fun _ _ => ne_comm
  | array elements =>
    show ((Text.word? piece).bind fun n => elements[n]?) = none ↔ _
    rw [Option.bind_eq_none_iff]
    constructor
    · intro h position hspelling
      exact List.getElem?_eq_none_iff.1 (h _ (Text.word?_eq_some_toNat_iff.2 hspelling))
    · intro h n hn
      obtain ⟨position, rfl⟩ := Text.exists_toNat_eq_of_word? hn
      exact List.getElem?_eq_none_iff.2 (h position (Text.word?_eq_some_toNat_iff.1 hn))
  | _ => exact iff_of_true rfl trivial

/-! ## Several pieces -/

/-- **Pieces of a path lead on** to where the walk ends that they describe.

**Proof sketch.** Induction on the pieces, with the value where they begin generalized. The first
piece takes the first step of the walk. -/
theorem foldlM_step?_eq_some_iff {v w : Json} {pieces : List String} :
    pieces.foldlM step? v = some w ↔ v.LeadsTo pieces w := by
  induction pieces generalizing v with
  | nil =>
    simp only [List.foldlM_nil, Option.pure_def, Option.some.injEq]
    constructor
    · rintro rfl
      exact ⟨[], .nil, .nil v⟩
    · rintro ⟨_, ⟨⟩, ⟨⟩⟩
      rfl
  | cons piece rest ih =>
    simp only [List.foldlM_cons, Option.bind_eq_bind, Option.bind_eq_some_iff, step?_eq_some_iff, ih]
    constructor
    · rintro ⟨u, ⟨s, hwritten, hfirst⟩, steps, hsteps, hwalk⟩
      exact ⟨s :: steps, .cons hwritten hsteps, .cons hfirst hwalk⟩
    · rintro ⟨_, _ | ⟨hwritten, hsteps⟩, hwalk⟩
      cases hwalk with
      | cons hfirst hrest => exact ⟨_, ⟨_, hwritten, hfirst⟩, _, hsteps, hrest⟩

/-- **Pieces of a path lead nowhere** iff one of them is a dead end from where those before it lead.

**Proof sketch.** Induction on the pieces, with the value where they begin generalized. Either the
first piece is a dead end itself, or one of the others is. -/
theorem foldlM_step?_eq_none_iff {v : Json} {pieces : List String} :
    pieces.foldlM step? v = none ↔
      ∃ before piece after node, pieces = before ++ piece :: after ∧ v.LeadsTo before node ∧
        node.IsDeadEnd piece := by
  constructor
  · intro h
    induction pieces generalizing v with
    | nil => exact nomatch h
    | cons piece rest ih =>
      rw [List.foldlM_cons] at h
      cases hstep : v.step? piece with
      | none =>
        exact ⟨[], piece, rest, v, rfl, ⟨[], .nil, .nil v⟩, step?_eq_none_iff.1 hstep⟩
      | some u =>
        rw [hstep] at h
        obtain ⟨before, dead, after, node, rfl, hbefore, hdead⟩ := ih h
        refine ⟨piece :: before, dead, after, node, rfl, ?_, hdead⟩
        rw [← foldlM_step?_eq_some_iff] at hbefore ⊢
        rw [List.foldlM_cons, hstep]
        exact hbefore
  · rintro ⟨before, piece, after, node, rfl, hbefore, hdead⟩
    rw [← foldlM_step?_eq_some_iff] at hbefore
    rw [← step?_eq_none_iff] at hdead
    rw [List.foldlM_append, hbefore, Option.bind_eq_bind, Option.bind_some, List.foldlM_cons, hdead]
    rfl

/-! ## Whole paths -/

/-- A point between two paths puts the walks together. -/
lemma resolve?_append (record : Json) (p q : String) :
    record.resolve? (p ++ "." ++ q) = (record.resolve? p).bind fun v => v.resolve? q := by
  have hpoint : "." = String.singleton '.' := rfl
  rw [resolve?, hpoint, Text.pieces_append, List.foldlM_append]
  rfl

namespace Step

/-- The text of a step is a way to write it. -/
lemma isWritten_text (s : Step) : s.IsWritten s.text := by
  cases s with
  | member name => rfl
  | element position => exact ⟨0, Or.inl String.toList_ofList⟩

/-- The text of a position is digits, without a point. -/
lemma point_notMem_text {s : Step} (h : ∀ name, s = member name → '.' ∉ name.toList) :
    '.' ∉ s.text.toList := by
  cases s with
  | member name => exact h name rfl
  | element position =>
    intro hmem
    rw [text, String.toList_ofList] at hmem
    exact absurd (Text.isDigit_of_mem_digitsOfNat hmem) (by decide)

end Step

/-- **A path leads where the walk ends that it describes.** A point between two paths lets the second
one go on from where the first one ends. The steps of a walk, joined by points, are a path to its
end, provided that no name in it has a point, and the path has a step at all. Conversely every value
that is found is the end of a walk, and the pieces of the path are ways to write its steps, names as
they are and positions of up to 64 bits in decimal digits. If there is no value, then some piece
of the path is a dead end from the value that the pieces before it lead to. -/
theorem path_leads_where_walk_ends (record : Json) :
    (∀ p q : String,
      record.resolve? (p ++ "." ++ q) = (record.resolve? p).bind fun v => v.resolve? q) ∧
    (∀ (steps : List Step) (v : Json), steps ≠ [] →
      (∀ name, .member name ∈ steps → '.' ∉ name.toList) → Walk record steps v →
      record.resolve? (".".intercalate (steps.map Step.text)) = some v) ∧
    ∀ path : String,
      (∀ v, record.resolve? path = some v ↔ record.LeadsTo (Text.pieces '.' path) v) ∧
      (record.resolve? path = none ↔
        ∃ before piece after node, Text.pieces '.' path = before ++ piece :: after ∧
          record.LeadsTo before node ∧ node.IsDeadEnd piece) := by
  refine ⟨record.resolve?_append, fun steps v hne hnames hwalk => ?_, fun path => ?_⟩
  · have hpieces : Text.pieces '.' (".".intercalate (steps.map Step.text)) = steps.map Step.text := by
      refine Text.pieces_intercalate (by simpa using hne) fun piece hpiece => ?_
      obtain ⟨s, hs, rfl⟩ := List.mem_map.1 hpiece
      apply Step.point_notMem_text
      rintro name rfl
      exact hnames name hs
    rw [resolve?, hpieces, foldlM_step?_eq_some_iff]
    refine ⟨steps, ?_, hwalk⟩
    rw [List.forall₂_map_right_iff, List.forall₂_same]
    exact fun s _ => s.isWritten_text
  · exact ⟨fun v => foldlM_step?_eq_some_iff, foldlM_step?_eq_none_iff⟩

/-- A walk through an array and through a member whose name is empty, to one whose name is a numeral.
The position in the array may be written with a sign and a zero, but the number that is the same
with 64 bits is no position. -/
theorem path_leads_where_walk_ends_numerals :
    let record : Json :=
      .object [("parts", .array [.null, .object [("", .object [("0", .bool true)])]])]
    let steps : List Step := [.member "parts", .element 1, .member "", .member "0"]
    steps ≠ [] ∧ (∀ name, .member name ∈ steps → '.' ∉ name.toList) ∧
      Walk record steps (.bool true) ∧ ".".intercalate (steps.map Step.text) = "parts.1..0" ∧
      record.resolve? (".".intercalate (steps.map Step.text)) = some (.bool true) ∧
      record.resolve? "parts.+01..0" = some (.bool true) ∧
      record.resolve? "parts.18446744073709551617..0" = none := by
  intro record steps
  have hne : steps ≠ [] := List.cons_ne_nil _ _
  have hnames : ∀ name, .member name ∈ steps → '.' ∉ name.toList := by
    simp [steps]
  have hwalk : Walk record steps (.bool true) :=
    .cons (.member rfl) (.cons (.element rfl) (.cons (.member rfl) (.cons (.member rfl) (.nil _))))
  obtain ⟨-, hjoined, hpath⟩ := path_leads_where_walk_ends record
  refine ⟨hne, hnames, hwalk, by decide, hjoined steps _ hne hnames hwalk, ?_, ?_⟩
  · have hpieces : Text.pieces '.' "parts.+01..0" = ["parts", "+01", "", "0"] := by decide
    rw [(hpath _).1, hpieces]
    exact ⟨steps, .cons rfl (.cons ⟨1, Or.inr rfl⟩ (.cons rfl (.cons rfl .nil))), hwalk⟩
  · have hpieces : Text.pieces '.' "parts.18446744073709551617..0" =
        ["parts"] ++ "18446744073709551617" :: ["", "0"] := by decide
    rw [(hpath _).2]
    refine ⟨_, _, _, _, hpieces, ⟨[.member "parts"], .cons rfl .nil, .cons (.member rfl) (.nil _)⟩, ?_⟩
    exact step?_eq_none_iff.1 rfl

end Json

end Sift
