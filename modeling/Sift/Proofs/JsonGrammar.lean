import Sift.Json.Document
import Sift.Proofs.LiteralGrammar
import Sift.Proofs.Outcome

set_option autoImplicit false
set_option relaxedAutoImplicit false

/-!
# The grammar of JSON texts

Which texts are JSON, and what they say, is described here by a grammar: what may stand one behind
the other, from blanks and the characters between quotes up to arrays and objects, and which
document it makes. The grammar knows nothing of tokens and of the machine that reads them. Whatever
it derives is read, and as the document that it says.

## Main definitions

* `Sift.Json.IsNumeral` — the numerals, with their signs, digits and powers of ten.
* `Sift.Json.IsQuoted` — the quoted texts, with the characters that they denote.
* `Sift.Json.IsValue` — the JSON texts, with their documents.

## Main results

* `Sift.Json.IsBody.scanQuoted_append`, `Sift.Json.charsOfUnits?_eq_some_iff` — quoted texts are
  read.
* `Sift.Json.IsNumeral.numberRun_append` — numerals are read.
* `Sift.Json.IsValue.run` — the machine on the text of a value.
* `Sift.Json.IsValue.read_eq` — JSON texts are read.
-/

namespace Sift.Json

/-! ## Blanks -/

/-- Nothing but blanks. -/
def IsBlank (s : List Char) : Prop :=
  ∀ c ∈ s, c = ' ' ∨ c = '\t' ∨ c = '\n' ∨ c = '\r'

/-! ## Numerals -/

/-- An optional minus sign, as whether it is there. -/
inductive IsMinus : List Char → Bool → Prop
  | absent : IsMinus [] false
  | written : IsMinus ['-'] true

/-- The digits before the point. Only a zero that stands alone may be the first of them. -/
inductive IsWhole : List Char → Prop
  | zero : IsWhole ['0']
  | positive {first : Char} {rest : List Char} (hfirst : first.isDigit = true) (hne : first ≠ '0')
      (hrest : ∀ c ∈ rest, c.isDigit = true) : IsWhole (first :: rest)

/-- An optional point, and the digits after it. -/
inductive IsFraction : List Char → List Char → Prop
  | absent : IsFraction [] []
  | written {digits : List Char} (hne : digits ≠ []) (h : ∀ c ∈ digits, c.isDigit = true) :
      IsFraction ('.' :: digits) digits

/-- A numeral with its sign, its digits before and after the point, and its power of ten. -/
inductive IsNumeral : List Char → Bool → List Char → List Char → Int → Prop
  | mk {minus whole point fraction mark : List Char} {negative : Bool} {power : Int}
      (hminus : IsMinus minus negative) (hwhole : IsWhole whole)
      (hfraction : IsFraction point fraction) (hpower : Decimal.IsPower mark power) :
      IsNumeral (minus ++ whole ++ point ++ mark) negative whole fraction power

/-! ## Quoted texts -/

/-- A hexadecimal digit with its value. -/
def IsHexDigit (c : Char) (n : Nat) : Prop :=
  "0123456789abcdef".toList[n]? = some c ∨ "0123456789ABCDEF".toList[n]? = some c

/-- The letters that may stand behind a backslash, with the characters they stand for. -/
def escapes : List (Char × Char) :=
  [('"', '"'), ('\\', '\\'), ('/', '/'), ('b', '\x08'), ('f', '\x0c'), ('n', '\n'), ('r', '\r'),
    ('t', '\t')]

/-- What stands between quotes for one code point, or for half of a surrogate pair. -/
inductive IsUnit : List Char → Nat → Prop
  | plain {c : Char} (hquote : c ≠ '"') (hbackslash : c ≠ '\\') (hcontrol : 0x20 ≤ c.toNat) :
      IsUnit [c] c.toNat
  | letter {c char : Char} (h : (c, char) ∈ escapes) : IsUnit ['\\', c] char.toNat
  | digits {a b c d : Char} {i j k l : Nat} (ha : IsHexDigit a i) (hb : IsHexDigit b j)
      (hc : IsHexDigit c k) (hd : IsHexDigit d l) :
      IsUnit ['\\', 'u', a, b, c, d] (((i * 16 + j) * 16 + k) * 16 + l)

/-- What stands between quotes, with its units. -/
inductive IsBody : List Char → List Nat → Prop
  | nil : IsBody [] []
  | cons {s rest : List Char} {unit : Nat} {units : List Nat} (h : IsUnit s unit)
      (hrest : IsBody rest units) : IsBody (s ++ rest) (unit :: units)

/-- Units denote characters: each is a code point or a pair of surrogates. -/
inductive Denote : List Nat → List Char → Prop
  | nil : Denote [] []
  | char {units : List Nat} {s : List Char} (c : Char) (h : Denote units s) :
      Denote (c.toNat :: units) (c :: s)
  | pair {units : List Nat} {s : List Char} (c : Char) (hc : 0x10000 ≤ c.toNat)
      (h : Denote units s) :
      Denote ((0xD800 + (c.toNat - 0x10000) / 0x400) :: (0xDC00 + (c.toNat - 0x10000) % 0x400) ::
        units) (c :: s)

/-- A quoted text, with the text it denotes, unless there are unpaired surrogates in it. -/
inductive IsQuoted : List Char → Option String → Prop
  | text {body : List Char} {units : List Nat} {s : String} (hbody : IsBody body units)
      (h : Denote units s.toList) : IsQuoted ('"' :: (body ++ ['"'])) (some s)
  | unpaired {body : List Char} {units : List Nat} (hbody : IsBody body units)
      (h : ∀ s, ¬Denote units s) : IsQuoted ('"' :: (body ++ ['"'])) none

/-! ## Values -/

mutual

/-- A value, with its document. Blanks may stand around it. -/
inductive IsValue : List Char → Document → Prop
  | padded {before s after : List Char} {d : Document} (hbefore : IsBlank before) (h : IsValue s d)
      (hafter : IsBlank after) : IsValue (before ++ s ++ after) d
  | null : IsValue ['n', 'u', 'l', 'l'] .null
  | true : IsValue ['t', 'r', 'u', 'e'] (.bool true)
  | false : IsValue ['f', 'a', 'l', 's', 'e'] (.bool false)
  | number {lexeme whole fraction : List Char} {negative : Bool} {power : Int}
      (h : IsNumeral lexeme negative whole fraction power) : IsValue lexeme (.number lexeme)
  | text {s : List Char} {t : Option String} (h : IsQuoted s t) : IsValue s (.text t)
  | emptyArray {blank : List Char} (h : IsBlank blank) :
      IsValue ('[' :: (blank ++ [']'])) (.array [])
  | array {s : List Char} {elements : List Document} (h : IsElements s elements) :
      IsValue ('[' :: (s ++ [']'])) (.array elements)
  | emptyObject {blank : List Char} (h : IsBlank blank) :
      IsValue ('\x7b' :: (blank ++ ['\x7d'])) (.object [])
  | object {s : List Char} {members : List (Option String × Document)} (h : IsMembers s members) :
      IsValue ('\x7b' :: (s ++ ['\x7d'])) (.object members)

/-- The elements of an array, of which there is at least one. -/
inductive IsElements : List Char → List Document → Prop
  | one {s : List Char} {d : Document} (h : IsValue s d) : IsElements s [d]
  | cons {s rest : List Char} {d : Document} {elements : List Document} (h : IsValue s d)
      (hrest : IsElements rest elements) : IsElements (s ++ ',' :: rest) (d :: elements)

/-- A member of an object. Blanks may stand around its name. -/
inductive IsMember : List Char → Option String × Document → Prop
  | mk {before name after s : List Char} {n : Option String} {d : Document}
      (hbefore : IsBlank before) (hname : IsQuoted name n) (hafter : IsBlank after)
      (h : IsValue s d) : IsMember (before ++ name ++ after ++ ':' :: s) (n, d)

/-- The members of an object, of which there is at least one. -/
inductive IsMembers : List Char → List (Option String × Document) → Prop
  | one {s : List Char} {m : Option String × Document} (h : IsMember s m) : IsMembers s [m]
  | cons {s rest : List Char} {m : Option String × Document}
      {members : List (Option String × Document)} (h : IsMember s m)
      (hrest : IsMembers rest members) : IsMembers (s ++ ',' :: rest) (m :: members)

end

/-! ## Reading blanks -/

/-- Characters that belong to a token already read are passed over. -/
lemma tokensFrom_length_append (passed rest : List Char) :
    tokensFrom passed.length (passed ++ rest) = tokensFrom 0 rest := by
  induction passed with
  | nil => rfl
  | cons c passed ih => exact ih

lemma IsBlank.tokensFrom_append {blank : List Char} (h : IsBlank blank) (rest : List Char) :
    tokensFrom 0 (blank ++ rest) = tokensFrom 0 rest := by
  induction blank with
  | nil => rfl
  | cons c blank ih =>
    obtain ⟨hc, hblank⟩ := List.forall_mem_cons.1 h
    rw [← ih hblank]
    rcases hc with rfl | rfl | rfl | rfl <;> rfl

/-! ## Reading quoted texts -/

lemma IsHexDigit.hexValue?_eq {c : Char} {n : Nat} (h : IsHexDigit c n) :
    n < 16 ∧ Text.hexValue? c = some n := by
  have hall : ∀ n < 16, "0123456789abcdef".toList[n]?.bind Text.hexValue? = some n ∧
      "0123456789ABCDEF".toList[n]?.bind Text.hexValue? = some n := by decide
  have hn : n < 16 := by
    rcases h with h | h <;> exact (List.getElem?_eq_some_iff.1 h).1
  obtain ⟨hlower, hupper⟩ := hall n hn
  rcases h with h | h
  · rw [h] at hlower
    exact ⟨hn, hlower⟩
  · rw [h] at hupper
    exact ⟨hn, hupper⟩

/-- One unit is read. -/
lemma IsUnit.scanQuoted_append {s : List Char} {unit : Nat} (h : IsUnit s unit)
    (rest : List Char) : scanQuoted (s ++ rest) = (scanQuoted rest).push unit s.length := by
  cases h with
  | @plain c hquote hbackslash hcontrol =>
    rw [List.singleton_append, scanQuoted]
    · rw [if_neg (Nat.not_lt.2 hcontrol)]
      rfl
    · exact fun h _ => hbackslash h
    · exact hquote
    · exact fun _ _ _ _ _ h _ => hbackslash h
    · exact fun _ h _ => hbackslash h
    · exact fun _ _ h _ => hbackslash h
  | @letter c char h =>
    simp only [escapes, List.mem_cons, Prod.mk.injEq, List.not_mem_nil, or_false] at h
    rcases h with ⟨rfl, rfl⟩ | ⟨rfl, rfl⟩ | ⟨rfl, rfl⟩ | ⟨rfl, rfl⟩ | ⟨rfl, rfl⟩ | ⟨rfl, rfl⟩ |
      ⟨rfl, rfl⟩ | ⟨rfl, rfl⟩ <;> rfl
  | @digits a b c d i j k l ha hb hc hd =>
    have hvalue : Text.natOfDigitsIn? 16 [a, b, c, d] =
        some (((i * 16 + j) * 16 + k) * 16 + l) := by
      simp [Text.natOfDigitsIn?, ha.hexValue?_eq, hb.hexValue?_eq, hc.hexValue?_eq,
        hd.hexValue?_eq]
    simp only [List.cons_append, List.nil_append, scanQuoted, hvalue]
    rfl

/-- **What stands between quotes is read** up to the closing one. -/
theorem IsBody.scanQuoted_append {body : List Char} {units : List Nat} (h : IsBody body units)
    (rest : List Char) : scanQuoted (body ++ '"' :: rest) = .closed units (body.length + 1) := by
  induction h with
  | nil => rfl
  | cons h _ ih =>
    rw [List.append_assoc, h.scanQuoted_append, ih, List.length_append, Nat.add_assoc]
    rfl

lemma IsBody.lt_of_mem {body : List Char} {units : List Nat} (h : IsBody body units) :
    ∀ unit ∈ units, unit < 0x110000 := by
  induction h with
  | nil => exact nofun
  | cons h _ ih =>
    refine List.forall_mem_cons.2 ⟨?_, ih⟩
    have hchar (c : Char) : c.toNat < 0x110000 := by
      have hvalid : c.toNat < 0xD800 ∨ 0xDFFF < c.toNat ∧ c.toNat < 0x110000 := c.valid
      omega
    cases h with
    | plain _ _ _ => exact hchar _
    | letter _ => exact hchar _
    | digits ha hb hc hd =>
      have hi := ha.hexValue?_eq.1
      have hj := hb.hexValue?_eq.1
      have hk := hc.hexValue?_eq.1
      have hl := hd.hexValue?_eq.1
      omega

/-- A character is no half of a surrogate pair. -/
lemma not_isSurrogate_toNat (c : Char) :
    isHighSurrogate c.toNat = false ∧ isLowSurrogate c.toNat = false := by
  have hvalid : c.toNat < 0xD800 ∨ 0xDFFF < c.toNat ∧ c.toNat < 0x110000 := c.valid
  simp only [isHighSurrogate, isLowSurrogate, Bool.and_eq_false_iff, decide_eq_false_iff_not]
  omega

lemma toNat_ofNat {n : Nat} (h : n < 0x110000)
    (hhigh : isHighSurrogate n = false) (hlow : isLowSurrogate n = false) :
    (Char.ofNat n).toNat = n := by
  simp only [isHighSurrogate, isLowSurrogate, Bool.and_eq_false_iff, decide_eq_false_iff_not]
    at hhigh hlow
  have hvalid : n.isValidChar := by
    unfold Nat.isValidChar
    omega
  rw [Char.ofNat, dif_pos hvalid]
  rfl

/-- The units that denote characters are read as these. -/
lemma Denote.charsOfUnits?_eq {units : List Nat} {s : List Char} (h : Denote units s) :
    charsOfUnits? units = some s := by
  induction h with
  | nil => rfl
  | @char units s c h ih =>
    obtain ⟨hhigh, hlow⟩ := not_isSurrogate_toNat c
    cases units with
    | nil =>
      obtain rfl : [] = s := Option.some.inj ih
      simp [charsOfUnits?, hhigh, hlow, Char.ofNat_toNat]
    | cons unit units =>
      rw [charsOfUnits?, hhigh, hlow, ih]
      simp [Char.ofNat_toNat]
  | @pair units s c hc h ih =>
    have hvalid : c.toNat < 0xD800 ∨ 0xDFFF < c.toNat ∧ c.toNat < 0x110000 := c.valid
    have hhigh : isHighSurrogate (0xD800 + (c.toNat - 0x10000) / 0x400) = true := by
      simp only [isHighSurrogate, Bool.and_eq_true, decide_eq_true_eq]
      omega
    have hlow : isLowSurrogate (0xDC00 + (c.toNat - 0x10000) % 0x400) = true := by
      simp only [isLowSurrogate, Bool.and_eq_true, decide_eq_true_eq]
      omega
    have hpoint : 0x10000 + (0xD800 + (c.toNat - 0x10000) / 0x400 - 0xD800) * 0x400 +
        (0xDC00 + (c.toNat - 0x10000) % 0x400 - 0xDC00) = c.toNat := by omega
    rw [charsOfUnits?, if_pos hhigh, if_pos hlow, ih, hpoint, Char.ofNat_toNat]
    rfl

/-- The two halves of a surrogate pair denote a character together. -/
lemma denote_pair {unit next : Nat} (hhigh : isHighSurrogate unit = true)
    (hlow : isLowSurrogate next = true) {units : List Nat} {s : List Char} (h : Denote units s) :
    Denote (unit :: next :: units)
      (Char.ofNat (0x10000 + (unit - 0xD800) * 0x400 + (next - 0xDC00)) :: s) := by
  simp only [isHighSurrogate, isLowSurrogate, Bool.and_eq_true, decide_eq_true_eq] at hhigh hlow
  have hpoint := toNat_ofNat (n := 0x10000 + (unit - 0xD800) * 0x400 + (next - 0xDC00)) (by omega)
    (by simp only [isHighSurrogate, Bool.and_eq_false_iff, decide_eq_false_iff_not]; omega)
    (by simp only [isLowSurrogate, Bool.and_eq_false_iff, decide_eq_false_iff_not]; omega)
  have hpair := Denote.pair
    (Char.ofNat (0x10000 + (unit - 0xD800) * 0x400 + (next - 0xDC00))) (by omega) h
  have hunit : 0xD800 + (0x10000 + (unit - 0xD800) * 0x400 + (next - 0xDC00) - 0x10000) / 0x400 =
      unit := by omega
  have hnext : 0xDC00 + (0x10000 + (unit - 0xD800) * 0x400 + (next - 0xDC00) - 0x10000) % 0x400 =
      next := by omega
  rwa [hpoint, hunit, hnext] at hpair

/-- **The characters that units denote** are those that are read. -/
theorem charsOfUnits?_eq_some_iff {units : List Nat} (hunits : ∀ unit ∈ units, unit < 0x110000)
    {s : List Char} : charsOfUnits? units = some s ↔ Denote units s := by
  refine ⟨fun h => ?_, Denote.charsOfUnits?_eq⟩
  induction units using charsOfUnits?.induct generalizing s with
  | case1 =>
    obtain rfl := Option.some.inj h
    exact .nil
  | case2 unit hsurrogate =>
    simp [charsOfUnits?, hsurrogate] at h
  | case3 unit hsurrogate =>
    obtain ⟨hunit, -⟩ := List.forall_mem_cons.1 hunits
    rw [charsOfUnits?, if_neg hsurrogate] at h
    obtain rfl := Option.some.inj h
    simp only [Bool.not_eq_true, Bool.or_eq_false_iff] at hsurrogate
    have hchar := Denote.char (Char.ofNat unit) .nil
    rwa [toNat_ofNat hunit hsurrogate.1 hsurrogate.2] at hchar
  | case4 unit next rest hhigh hlow ih =>
    obtain ⟨hunit, hrest⟩ := List.forall_mem_cons.1 hunits
    rw [charsOfUnits?, if_pos hhigh, if_pos hlow] at h
    obtain ⟨tail, htail, rfl⟩ := Option.map_eq_some_iff.1 h
    exact denote_pair hhigh hlow (ih (List.forall_mem_cons.1 hrest).2 htail)
  | case5 unit next rest hhigh hlow => simp [charsOfUnits?, hhigh, hlow] at h
  | case6 unit next rest hhigh hlow => simp [charsOfUnits?, hhigh, hlow] at h
  | case7 unit next rest hhigh hlow ih =>
    obtain ⟨hunit, hrest⟩ := List.forall_mem_cons.1 hunits
    rw [charsOfUnits?, if_neg hhigh, if_neg hlow] at h
    obtain ⟨tail, htail, rfl⟩ := Option.map_eq_some_iff.1 h
    have hchar := Denote.char (Char.ofNat unit) (ih hrest htail)
    rwa [toNat_ofNat hunit (Bool.not_eq_true _ ▸ hhigh) (Bool.not_eq_true _ ▸ hlow)] at hchar

lemma IsQuoted.tokensFrom_append {s : List Char} {t : Option String} (h : IsQuoted s t)
    (rest : List Char) : tokensFrom 0 (s ++ rest) = .text t :: tokensFrom 0 rest := by
  -- the token at an opening quote, whatever its text denotes
  have htoken {body : List Char} {units : List Nat} (hbody : IsBody body units) :
      tokensFrom 0 ('"' :: (body ++ ['"']) ++ rest) =
        .text ((charsOfUnits? units).map String.ofList) :: tokensFrom 0 rest := by
    have hscan : scan '"' (body ++ '"' :: rest) =
        (.text ((charsOfUnits? units).map String.ofList), body.length + 1) := by
      simp only [scan, hbody.scanQuoted_append]
    have hpassed := tokensFrom_length_append (body ++ ['"']) rest
    simp only [List.append_assoc, List.singleton_append, List.length_append,
      List.length_singleton] at hpassed
    rw [List.cons_append, List.append_assoc, List.singleton_append, tokensFrom,
      if_neg (by decide), hscan]
    simp only [hpassed]
  cases h with
  | text hbody h =>
    rw [htoken hbody, h.charsOfUnits?_eq, Option.map_some, String.ofList_toList]
  | @unpaired body units hbody h =>
    have hnone : charsOfUnits? units = none := by
      refine Option.eq_none_iff_forall_ne_some.2 fun s hs => h s ?_
      exact (charsOfUnits?_eq_some_iff hbody.lt_of_mem).1 hs
    rw [htoken hbody, hnone, Option.map_none]

/-! ## Reading numerals -/

/-- A text does not go on with what could belong to a numeral before it. -/
def Follows (rest : List Char) : Prop :=
  ∀ c ∈ rest.head?, c.isDigit = false ∧ c ≠ '.' ∧ c ≠ 'e' ∧ c ≠ 'E'

lemma digitRun_append {digits rest : List Char} (hne : digits ≠ [])
    (h : ∀ c ∈ digits, c.isDigit = true) (hrest : ∀ c ∈ rest.head?, c.isDigit = false) :
    digitRun (digits ++ rest) = .ok digits.length := by
  have htake := (Decimal.takeWhile_isDigit_append h hrest).1
  rw [digitRun, htake]
  cases digits with
  | nil => exact absurd rfl hne
  | cons c digits => rfl

lemma IsWhole.forall_isDigit {whole : List Char} (h : IsWhole whole) :
    whole ≠ [] ∧ ∀ c ∈ whole, c.isDigit = true := by
  cases h with
  | zero => exact ⟨nofun, List.forall_mem_singleton.2 rfl⟩
  | positive hfirst _ hrest => exact ⟨nofun, List.forall_mem_cons.2 ⟨hfirst, hrest⟩⟩

lemma IsWhole.wholeRun_append {whole rest : List Char} (h : IsWhole whole)
    (hrest : ∀ c ∈ rest.head?, c.isDigit = false) :
    wholeRun (whole ++ rest) = .ok whole.length := by
  obtain ⟨hne, hdigits⟩ := h.forall_isDigit
  have htake := (Decimal.takeWhile_isDigit_append hdigits hrest).1
  have hrun := digitRun_append hne hdigits hrest
  unfold wholeRun
  rw [htake]
  cases h with
  | zero => exact hrun
  | positive _ hfirst _ =>
    split
    · next heq => exact absurd (List.cons.inj heq).1 hfirst
    · exact hrun

lemma IsFraction.fractionRun_append {point fraction rest : List Char}
    (h : IsFraction point fraction) (hrest : ∀ c ∈ rest.head?, c.isDigit = false ∧ c ≠ '.') :
    fractionRun (point ++ rest) = .ok point.length := by
  cases h with
  | absent =>
    rw [List.nil_append]
    unfold fractionRun
    split
    · exact absurd rfl (hrest '.' rfl).2
    · rfl
  | written hne h =>
    rw [List.cons_append, fractionRun, digitRun_append hne h fun c hc => (hrest c hc).1]
    rfl

lemma powerRun_append {mark rest : List Char} {power : Int} (h : Decimal.IsPower mark power)
    (hrest : Follows rest) : powerRun (mark ++ rest) = .ok mark.length := by
  cases h with
  | absent =>
    rw [List.nil_append]
    cases rest with
    | nil => rfl
    | cons c rest =>
      obtain ⟨-, -, he, hE⟩ := hrest c rfl
      unfold powerRun
      exact if_neg (not_or.2 ⟨he, hE⟩)
  | @written mark sign digits negative hmark hsign hne h =>
    have hrun := digitRun_append hne h fun c hc => (hrest c hc).1
    unfold powerRun
    rw [List.cons_append, List.append_assoc]
    simp only [if_pos hmark]
    cases hsign with
    | plus =>
      simp only [List.singleton_append, hrun]
      rfl
    | minus =>
      simp only [List.singleton_append, hrun]
      rfl
    | absent =>
      obtain ⟨first, digits, rfl⟩ := List.exists_cons_of_ne_nil hne
      have hfirst := Decimal.ne_of_isDigit (h first List.mem_cons_self)
      rw [List.nil_append, List.cons_append]
      split
      · next heq => exact absurd (List.cons.inj heq).1 hfirst.2
      · next heq => exact absurd (List.cons.inj heq).1 hfirst.1
      · rw [← List.cons_append, hrun]
        rfl

lemma forall_mem_head?_append {p : Char → Prop} {l l' : List Char} (h : ∀ c ∈ l.head?, p c)
    (h' : ∀ c ∈ l'.head?, p c) : ∀ c ∈ (l ++ l').head?, p c := by
  cases l with
  | nil => exact h'
  | cons c l => exact h

/-- A numeral is a digit, or a minus sign, and more characters. -/
lemma IsNumeral.exists_eq_cons {lexeme whole fraction : List Char} {negative : Bool} {power : Int}
    (h : IsNumeral lexeme negative whole fraction power) :
    ∃ c tail, lexeme = c :: tail ∧ (c = '-' ∨ c.isDigit = true) := by
  obtain ⟨hminus, hwhole, -, -⟩ := h
  obtain ⟨hne, hdigits⟩ := hwhole.forall_isDigit
  obtain ⟨c, whole, rfl⟩ := List.exists_cons_of_ne_nil hne
  cases hminus with
  | absent => exact ⟨c, _, rfl, .inr (hdigits c List.mem_cons_self)⟩
  | written => exact ⟨'-', _, rfl, .inl rfl⟩

/-- **A numeral is read** up to its end. -/
theorem IsNumeral.numberRun_append {lexeme whole fraction rest : List Char} {negative : Bool}
    {power : Int} (h : IsNumeral lexeme negative whole fraction power) (hrest : Follows rest) :
    numberRun (lexeme ++ rest) = .ok lexeme.length := by
  obtain @⟨minus, whole, point, fraction, mark, negative, power, hminus, hwhole, hfraction,
    hpower⟩ := h
  have hmark : ∀ c ∈ (mark ++ rest).head?, c.isDigit = false ∧ c ≠ '.' :=
    forall_mem_head?_append hpower.head fun c hc => ⟨(hrest c hc).1, (hrest c hc).2.1⟩
  have hpoint : ∀ c ∈ (point ++ (mark ++ rest)).head?, c.isDigit = false := by
    refine forall_mem_head?_append ?_ fun c hc => (hmark c hc).1
    cases hfraction with
    | absent => exact nofun
    | written _ _ => simp [Char.isDigit]
  have hsign : (if (minus ++ (whole ++ (point ++ (mark ++ rest)))).head? = some '-' then 1 else 0) =
      minus.length := by
    cases hminus with
    | written => rfl
    | absent =>
      obtain ⟨hne, hdigits⟩ := hwhole.forall_isDigit
      obtain ⟨c, whole, rfl⟩ := List.exists_cons_of_ne_nil hne
      refine if_neg fun hhead => ?_
      exact (Decimal.ne_of_isDigit (hdigits c List.mem_cons_self)).1 (Option.some.inj hhead)
  have hdrop : (minus ++ (whole ++ (point ++ (mark ++ rest)))).drop (minus.length + whole.length) =
      point ++ (mark ++ rest) := by
    rw [← List.append_assoc, List.drop_left' List.length_append]
  have hdrop' : (minus ++ (whole ++ (point ++ (mark ++ rest)))).drop
      (minus.length + whole.length + point.length) = mark ++ rest := by
    rw [← List.append_assoc, ← List.append_assoc,
      List.drop_left' (by simp only [List.length_append])]
  simp only [List.append_assoc]
  rw [numberRun, hsign]
  simp only [bind_eq_ok_iff, pure_eq_ok_iff]
  refine ⟨whole.length, ?_, point.length, ?_, mark.length, ?_, ?_⟩
  · rw [List.drop_left, hwhole.wholeRun_append hpoint]
  · rw [hdrop, hfraction.fractionRun_append hmark]
  · rw [hdrop', powerRun_append hpower hrest]
  · simp only [List.length_append, Nat.add_assoc]

lemma IsNumeral.tokensFrom_append {lexeme whole fraction rest : List Char} {negative : Bool}
    {power : Int} (h : IsNumeral lexeme negative whole fraction power) (hrest : Follows rest) :
    tokensFrom 0 (lexeme ++ rest) = .number lexeme :: tokensFrom 0 rest := by
  have hrun := h.numberRun_append hrest
  obtain ⟨c, tail, rfl, hc⟩ := h.exists_eq_cons
  rw [List.cons_append] at hrun
  have hscan : scan c (tail ++ rest) = (.number (c :: tail), tail.length) := by
    unfold scan
    split
    -- none of the characters that start other tokens starts a numeral
    iterate 10 exact absurd hc (by decide)
    rw [if_pos hc, hrun]
    simp
  have hseparator : isSeparator c = false := by
    simp only [isSeparator, Bool.or_eq_false_iff, beq_eq_false_iff_ne]
    rcases hc with rfl | hc
    · decide
    · refine ⟨⟨⟨?_, ?_⟩, ?_⟩, ?_⟩ <;> rintro rfl <;> exact absurd hc (by decide)
  rw [List.cons_append, tokensFrom, hseparator, if_neg Bool.false_ne_true, hscan]
  simp only [tokensFrom_length_append]

/-! ## Reading values -/

namespace Document

/-- The reading after a list of tokens. -/
def Reading.run (r : Reading) (ts : List Token) : Except Fault Reading :=
  ts.foldlM Reading.step r

lemma Reading.run_cons {r r' : Reading} {t : Token} (h : r.step t = .ok r') (ts : List Token) :
    r.run (t :: ts) = r'.run ts := by
  rw [Reading.run, List.foldlM_cons, h]
  rfl

/-- A value may follow. -/
def Expectation.AllowsValue : Expectation → Prop
  | .value | .valueOrClose => True
  | _ => False

/-- Where a value may follow, a token that starts one is taken as such. -/
lemma Reading.step_of_allowsValue {e : Expectation} (he : e.AllowsValue) (frames : List Frame)
    {t : Token} (ht : t ≠ .closeArray) : Reading.step ⟨frames, e⟩ t = stepValue frames t := by
  match e, he with
  | .value, _ => rfl
  | .valueOrClose, _ =>
    cases t with
    | closeArray => exact absurd rfl ht
    | _ => rfl

end Document

open Document

/-- What ends a value, or stands behind one, is no part of a numeral. -/
lemma follows_cons {c : Char} (hc : c = ',' ∨ c = ']' ∨ c = '\x7d') (rest : List Char) :
    Follows (c :: rest) := by
  intro c' hc'
  obtain rfl := Option.some.inj hc'
  rcases hc with rfl | rfl | rfl <;> decide

lemma IsBlank.follows_append {blank rest : List Char} (h : IsBlank blank) (hrest : Follows rest) :
    Follows (blank ++ rest) := by
  refine forall_mem_head?_append (fun c hc => ?_) hrest
  rcases h c (List.mem_of_mem_head? hc) with rfl | rfl | rfl | rfl <;> decide

mutual

/-- **The machine reads a value** that the grammar derives, whatever is open around it.

**Proof sketch.** By recursion on the derivation. What has been read of an array or object waits in
a frame, so for its elements and members the statement is about those read before as well. -/
theorem IsValue.run {s : List Char} {d : Document} (h : IsValue s d) {e : Expectation}
    (he : e.AllowsValue) (frames : List Frame) {rest : List Char} (hrest : Follows rest) :
    Reading.run ⟨frames, e⟩ (tokensFrom 0 (s ++ rest)) =
      Reading.run ⟨frames, .afterValue d⟩ (tokensFrom 0 rest) := by
  have hstep {t : Token} (ht : t ≠ .closeArray) {r : Reading}
      (h : Reading.stepValue frames t = .ok r) (ts : List Token) :
      Reading.run ⟨frames, e⟩ (t :: ts) = Reading.run r ts :=
    Reading.run_cons ((Reading.step_of_allowsValue he frames ht).trans h) ts
  match h with
  | .padded hbefore h hafter =>
    rw [List.append_assoc, List.append_assoc, hbefore.tokensFrom_append,
      h.run he frames (hafter.follows_append hrest), hafter.tokensFrom_append]
  | .null => exact hstep (t := .null) nofun rfl _
  | .true => exact hstep (t := .bool true) nofun rfl _
  | .false => exact hstep (t := .bool false) nofun rfl _
  | .number h =>
    rw [h.tokensFrom_append hrest]
    exact hstep (t := .number _) nofun rfl _
  | .text h =>
    rw [h.tokensFrom_append]
    exact hstep (t := .text _) nofun rfl _
  | .emptyArray h =>
    rw [List.cons_append, List.append_assoc]
    refine (hstep (t := .openArray) nofun rfl _).trans ?_
    rw [h.tokensFrom_append]
    exact Reading.run_cons rfl _
  | .array h =>
    rw [List.cons_append, List.append_assoc]
    exact (hstep (t := .openArray) nofun rfl _).trans
      (h.run (e := .valueOrClose) trivial [] frames rest)
  | .emptyObject h =>
    rw [List.cons_append, List.append_assoc]
    refine (hstep (t := .openObject) nofun rfl _).trans ?_
    rw [h.tokensFrom_append]
    exact Reading.run_cons rfl _
  | .object h =>
    rw [List.cons_append, List.append_assoc]
    exact (hstep (t := .openObject) nofun rfl _).trans (h.run [] true frames rest)

theorem IsElements.run {s : List Char} {elements : List Document} (h : IsElements s elements)
    {e : Expectation} (he : e.AllowsValue) (before : List Document) (frames : List Frame)
    (rest : List Char) :
    Reading.run ⟨.array before :: frames, e⟩ (tokensFrom 0 (s ++ ']' :: rest)) =
      Reading.run ⟨frames, .afterValue (.array (before.reverse ++ elements))⟩
        (tokensFrom 0 rest) := by
  match h with
  | .one (d := d) h =>
    rw [h.run he _ (follows_cons (by decide) rest), ← List.reverse_cons]
    exact Reading.run_cons rfl _
  | .cons (d := d) h hrest =>
    rw [List.append_assoc, List.cons_append, h.run he _ (follows_cons (by decide) _)]
    refine (Reading.run_cons rfl _).trans ?_
    rw [hrest.run (e := .value) trivial (d :: before) frames rest, List.reverse_cons,
      List.append_assoc]
    rfl

theorem IsMember.run {s : List Char} {m : Option String × Document} (h : IsMember s m)
    (before : List (Option String × Document)) (closeAllowed : Bool) (frames : List Frame)
    {rest : List Char} (hrest : Follows rest) :
    Reading.run ⟨frames, .name before closeAllowed⟩ (tokensFrom 0 (s ++ rest)) =
      Reading.run ⟨.object before m.1 :: frames, .afterValue m.2⟩ (tokensFrom 0 rest) := by
  match h with
  | .mk (n := n) hbefore hname hafter h =>
    have hstep : Reading.step ⟨frames, .name before closeAllowed⟩ (.text n) =
        .ok ⟨.object before n :: frames, .colon⟩ := by
      cases closeAllowed <;> rfl
    simp only [List.append_assoc, List.cons_append]
    rw [hbefore.tokensFrom_append, hname.tokensFrom_append, Reading.run_cons hstep,
      hafter.tokensFrom_append]
    exact (Reading.run_cons rfl _).trans (h.run (e := .value) trivial _ hrest)

theorem IsMembers.run {s : List Char} {members : List (Option String × Document)}
    (h : IsMembers s members) (before : List (Option String × Document)) (closeAllowed : Bool)
    (frames : List Frame) (rest : List Char) :
    Reading.run ⟨frames, .name before closeAllowed⟩ (tokensFrom 0 (s ++ '\x7d' :: rest)) =
      Reading.run ⟨frames, .afterValue (.object (before.reverse ++ members))⟩
        (tokensFrom 0 rest) := by
  match h with
  | .one (m := m) h =>
    rw [h.run before closeAllowed frames (follows_cons (by decide) rest), ← List.reverse_cons]
    exact Reading.run_cons rfl _
  | .cons (m := m) h hrest =>
    rw [List.append_assoc, List.cons_append,
      h.run before closeAllowed frames (follows_cons (by decide) _)]
    refine (Reading.run_cons rfl _).trans ?_
    rw [hrest.run (m :: before) false frames rest, List.reverse_cons, List.append_assoc]
    rfl

end

/-- **JSON texts are read** as the documents that the grammar says. -/
theorem IsValue.read_eq {text : String} {d : Document} (h : IsValue text.toList d) :
    Document.read text = .ok d := by
  have hend : Follows [] := nofun
  have hrun := h.run (e := .value) trivial [] hend
  rw [List.append_nil] at hrun
  rw [Document.read, tokens, ofTokens]
  change (Reading.run Reading.start (tokensFrom 0 text.toList) >>= Reading.finish) = _
  rw [Reading.start, hrun]
  rfl

end Sift.Json
