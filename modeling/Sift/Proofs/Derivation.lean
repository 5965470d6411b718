import Sift.Proofs.JsonGrammar

set_option autoImplicit false
set_option relaxedAutoImplicit false

/-!
# Derivations of what is read

Only JSON texts are read: behind each document that is read there is a derivation of the grammar.
The characters that have been read at some point of a text are open arrays and objects with what is
finished of them, and a token adds its lexeme to them. So the whole text is derived when nothing is
open any more.

## Main definitions

* `Sift.Json.IsLexeme` — the lexemes, with their tokens.
* `Sift.Json.IsOpen` — the characters of the arrays and objects that are still open.
* `Sift.Json.IsReached` — the characters that lead to a reading.

## Main results

* `Sift.Json.isLexeme_of_scan_eq` — tokens have lexemes.
* `Sift.Json.IsReached.step`, `Sift.Json.IsReached.run` — one token and many.
* `Sift.Json.read_eq_ok_iff` — the texts that are read are the JSON texts.
-/

namespace Sift.Json

/-! ## Numerals -/

lemma digitRun_eq_ok {s : List Char} {n : Nat} (h : digitRun s = .ok n) :
    s.take n = s.takeWhile Char.isDigit ∧ s.take n ≠ [] := by
  have htake : s.take (s.takeWhile Char.isDigit).length = s.takeWhile Char.isDigit :=
    (List.prefix_iff_eq_take.1 (List.takeWhile_prefix _)).symm
  unfold digitRun at h
  split at h
  · exact nomatch h
  · next hne =>
    obtain rfl := Except.ok.inj h
    rw [htake]
    exact ⟨rfl, hne⟩

lemma forall_isDigit_takeWhile (s : List Char) : ∀ c ∈ s.takeWhile Char.isDigit, c.isDigit = true :=
  fun _ hc => List.mem_takeWhile_imp hc

lemma isWhole_of_wholeRun_eq {s : List Char} {n : Nat} (h : wholeRun s = .ok n) :
    IsWhole (s.take n) := by
  have hdigits := forall_isDigit_takeWhile s
  unfold wholeRun at h
  split at h
  · exact nomatch h
  next hzero =>
  obtain ⟨htake, hne⟩ := digitRun_eq_ok h
  rw [htake] at hne ⊢
  obtain ⟨first, rest, hcons⟩ := List.exists_cons_of_ne_nil hne
  rw [hcons] at hdigits hzero ⊢
  by_cases hfirst : first = '0'
  · cases rest with
    | nil =>
      rw [hfirst]
      exact .zero
    | cons c rest => exact absurd (hfirst ▸ rfl) (hzero c rest)
  · obtain ⟨hdigit, hrest⟩ := List.forall_mem_cons.1 hdigits
    exact .positive hdigit hfirst hrest

lemma exists_isFraction_of_fractionRun_eq {s : List Char} {n : Nat} (h : fractionRun s = .ok n) :
    ∃ digits, IsFraction (s.take n) digits := by
  unfold fractionRun at h
  split at h
  · next rest =>
    obtain ⟨k, hk, rfl⟩ := map_eq_ok_iff.1 h
    obtain ⟨htake, hne⟩ := digitRun_eq_ok hk
    refine ⟨rest.take k, .written hne ?_⟩
    rw [htake]
    exact forall_isDigit_takeWhile rest
  · obtain rfl := Except.ok.inj h
    exact ⟨[], .absent⟩

lemma exists_isPower_of_powerRun_eq {s : List Char} {n : Nat} (h : powerRun s = .ok n) :
    ∃ power, Decimal.IsPower (s.take n) power := by
  -- the digits of a power, behind its mark and its sign
  have hwritten {mark : Char} (hmark : mark = 'e' ∨ mark = 'E') {sign digits : List Char}
      {negative : Bool} (hsign : Decimal.IsSign sign negative) {k : Nat}
      (hk : digitRun digits = .ok k) :
      ∃ power, Decimal.IsPower (mark :: (sign ++ digits.take k)) power := by
    obtain ⟨htake, hne⟩ := digitRun_eq_ok hk
    refine ⟨_, .written hmark hsign hne ?_⟩
    rw [htake]
    exact forall_isDigit_takeWhile digits
  unfold powerRun at h
  split at h
  · next c rest =>
    split at h
    · next hmark =>
      split at h
      · obtain ⟨k, hk, rfl⟩ := map_eq_ok_iff.1 h
        exact hwritten hmark .plus hk
      · obtain ⟨k, hk, rfl⟩ := map_eq_ok_iff.1 h
        exact hwritten hmark .minus hk
      · obtain ⟨k, hk, rfl⟩ := map_eq_ok_iff.1 h
        exact hwritten hmark .absent hk
    · obtain rfl := Except.ok.inj h
      exact ⟨0, .absent⟩
  · obtain rfl := Except.ok.inj h
    exact ⟨0, .absent⟩

/-- The characters that are read as a number are a numeral. -/
lemma exists_isNumeral_of_numberRun_eq {s : List Char} {n : Nat} (h : numberRun s = .ok n) :
    ∃ negative whole fraction power, IsNumeral (s.take n) negative whole fraction power := by
  obtain ⟨negative, hminus⟩ :
      ∃ negative, IsMinus (s.take (if s.head? = some '-' then 1 else 0)) negative := by
    split
    · next hhead =>
      obtain ⟨rest, rfl⟩ := List.head?_eq_some_iff.1 hhead
      exact ⟨true, .written⟩
    · exact ⟨false, .absent⟩
  simp only [numberRun, bind_eq_ok_iff, pure_eq_ok_iff] at h
  obtain ⟨whole, hwhole, fraction, hfraction, power, hpower, rfl⟩ := h
  obtain ⟨digits, hfraction⟩ := exists_isFraction_of_fractionRun_eq hfraction
  obtain ⟨e, hpower⟩ := exists_isPower_of_powerRun_eq hpower
  have hnumeral := IsNumeral.mk hminus (isWhole_of_wholeRun_eq hwhole) hfraction hpower
  rw [← List.take_add, ← List.take_add, ← List.take_add] at hnumeral
  exact ⟨_, _, _, _, hnumeral⟩

/-! ## Quoted texts -/

lemma isHexDigit_of_hexValue?_eq {c : Char} {n : Nat} (h : Text.hexValue? c = some n) :
    IsHexDigit c n := by
  have hall : ∀ k < 128, ∀ n < 16, Text.hexValue? (Char.ofNat k) = some n →
      "0123456789abcdef".toList[n]? = some (Char.ofNat k) ∨
        "0123456789ABCDEF".toList[n]? = some (Char.ofNat k) := by decide
  have hbounds : c.toNat < 128 ∧ n < 16 := by
    have hcode : c.toNat = c.val.toNat := rfl
    simp only [Text.hexValue?, Char.le_def, UInt32.le_iff_toNat_le, UInt32.reduceToNat,
      Char.reduceVal, Char.reduceToNat] at h
    split at h
    · obtain rfl := Option.some.inj h
      omega
    split at h
    · obtain rfl := Option.some.inj h
      omega
    split at h
    · obtain rfl := Option.some.inj h
      omega
    · exact nomatch h
  have hvalue := hall c.toNat hbounds.1 n hbounds.2
  rw [Char.ofNat_toNat] at hvalue
  exact hvalue h

/-- The four characters behind `\u` are digits. -/
lemma isUnit_of_natOfDigitsIn?_eq {a b c d : Char} {unit : Nat}
    (h : Text.natOfDigitsIn? 16 [a, b, c, d] = some unit) :
    IsUnit ['\\', 'u', a, b, c, d] unit := by
  simp only [Text.natOfDigitsIn?, List.foldlM, Option.bind_eq_bind, Option.bind_eq_some_iff,
    Option.ite_none_right_eq_some, Option.pure_def, Option.some.injEq] at h
  obtain ⟨_, ⟨i, ha, -, rfl⟩, _, ⟨j, hb, -, rfl⟩, _, ⟨k, hc, -, rfl⟩, _, ⟨l, hd, -, rfl⟩, rfl⟩ := h
  rw [Nat.zero_mul, Nat.zero_add]
  exact .digits (isHexDigit_of_hexValue?_eq ha) (isHexDigit_of_hexValue?_eq hb)
    (isHexDigit_of_hexValue?_eq hc) (isHexDigit_of_hexValue?_eq hd)

lemma mem_escapes_of_escaped?_eq {c char : Char} (h : escaped? c = some char) :
    (c, char) ∈ escapes := by
  unfold escaped? at h
  split at h
  -- the letters that stand for characters
  iterate 8
    obtain rfl := Option.some.inj h
    decide
  exact nomatch h

/-- One unit in front of what stands between quotes. -/
lemma IsUnit.exists_isBody_append {front rest : List Char} {unit : Nat} (h : IsUnit front unit)
    (hrest : ∀ {units n}, scanQuoted rest = .closed units n →
      ∃ body, IsBody body units ∧ rest.take n = body ++ ['"'])
    {units : List Nat} {n : Nat}
    (hpush : (scanQuoted rest).push unit front.length = .closed units n) :
    ∃ body, IsBody body units ∧ (front ++ rest).take n = body ++ ['"'] := by
  cases hscan : scanQuoted rest with
  | broken fault =>
    rw [hscan] at hpush
    exact nomatch hpush
  | closed units' n' =>
    rw [hscan] at hpush
    obtain ⟨rfl, rfl⟩ := QuotedScan.closed.inj hpush
    obtain ⟨body, hbody, htake⟩ := hrest hscan
    refine ⟨front ++ body, .cons h hbody, ?_⟩
    rw [List.take_length_add_append, htake, List.append_assoc]

/-- The characters up to a closing quote are what stands between quotes. -/
lemma exists_isBody_of_scanQuoted_eq {s : List Char} {units : List Nat} {n : Nat}
    (h : scanQuoted s = .closed units n) :
    ∃ body, IsBody body units ∧ s.take n = body ++ ['"'] := by
  induction s using scanQuoted.induct generalizing units n with
  | case1 | case2 => cases h
  | case3 rest =>
    obtain ⟨rfl, rfl⟩ := QuotedScan.closed.inj h
    exact ⟨[], .nil, rfl⟩
  | case4 a b c d rest unit hvalue ih =>
    simp only [scanQuoted, hvalue] at h
    exact (isUnit_of_natOfDigitsIn?_eq hvalue).exists_isBody_append ih h
  | case5 a b c d rest hvalue =>
    simp only [scanQuoted, hvalue, reduceCtorEq] at h
  | case6 rest hshort =>
    rw [scanQuoted] at h
    · cases h
    · exact hshort
  | case7 c rest hshort hne char hchar ih =>
    rw [scanQuoted, hchar] at h
    · exact (IsUnit.letter (mem_escapes_of_escaped?_eq hchar)).exists_isBody_append ih h
    · exact hshort
    · exact hne
  | case8 c rest hshort hne hchar =>
    rw [scanQuoted, hchar] at h
    · cases h
    · exact hshort
    · exact hne
  | case9 c rest hlast hquote hcode hshort hpair hcontrol =>
    rw [scanQuoted, if_pos hcontrol] at h
    · cases h
    · exact hlast
    · exact hquote
    · exact hcode
    · exact hshort
    · exact hpair
  | case10 c rest hlast hquote hcode hshort hpair hordinary ih =>
    rw [scanQuoted, if_neg hordinary] at h
    · have hbackslash : c ≠ '\\' := by
        rintro rfl
        cases rest with
        | nil => exact hlast rfl rfl
        | cons c rest => exact hpair c rest rfl rfl
      exact (IsUnit.plain hquote hbackslash (Nat.le_of_not_lt hordinary)).exists_isBody_append ih h
    · exact hlast
    · exact hquote
    · exact hcode
    · exact hshort
    · exact hpair

/-- A text between quotes is one of the grammar. -/
lemma isQuoted_of_scanQuoted_eq {s : List Char} {units : List Nat} {n : Nat}
    (h : scanQuoted s = .closed units n) :
    IsQuoted ('"' :: s.take n) ((charsOfUnits? units).map String.ofList) := by
  obtain ⟨body, hbody, htake⟩ := exists_isBody_of_scanQuoted_eq h
  rw [htake]
  cases hchars : charsOfUnits? units with
  | none =>
    refine .unpaired hbody fun s hs => ?_
    rw [hs.charsOfUnits?_eq] at hchars
    exact nomatch hchars
  | some s =>
    refine .text hbody ?_
    rw [String.toList_ofList]
    exact (charsOfUnits?_eq_some_iff hbody.lt_of_mem).1 hchars

/-! ## Tokens -/

/-- A lexeme, with its token. -/
inductive IsLexeme : List Char → Token → Prop
  | openArray : IsLexeme ['['] .openArray
  | closeArray : IsLexeme [']'] .closeArray
  | openObject : IsLexeme ['\x7b'] .openObject
  | closeObject : IsLexeme ['\x7d'] .closeObject
  | comma : IsLexeme [','] .comma
  | colon : IsLexeme [':'] .colon
  | null : IsLexeme ['n', 'u', 'l', 'l'] .null
  | true : IsLexeme ['t', 'r', 'u', 'e'] (.bool true)
  | false : IsLexeme ['f', 'a', 'l', 's', 'e'] (.bool false)
  | number {lexeme whole fraction : List Char} {negative : Bool} {power : Int}
      (h : IsNumeral lexeme negative whole fraction power) : IsLexeme lexeme (.number lexeme)
  | text {s : List Char} {t : Option String} (h : IsQuoted s t) : IsLexeme s (.text t)

/-- A token stands for a lexeme. -/
def Token.IsUnbroken (t : Token) : Prop :=
  ∀ quoted fault, t ≠ .broken quoted fault

lemma scanWord_eq {token t : Token} {expected rest : List Char} {n : Nat}
    (h : scanWord token expected rest = (t, n)) (ht : t.IsUnbroken) :
    t = token ∧ rest.take n = expected := by
  unfold scanWord at h
  split at h
  · next hprefix =>
    obtain ⟨rfl, rfl⟩ := Prod.mk.inj h
    exact ⟨rfl, (List.prefix_iff_eq_take.1 (List.isPrefixOf_iff_prefix.1 hprefix)).symm⟩
  · exact absurd (Prod.mk.inj h).1.symm (ht _ _)

/-- **Tokens have lexemes**: a token starts with the character it is told from, and takes the
further characters of its lexeme. -/
theorem isLexeme_of_scan_eq {c : Char} {rest : List Char} {t : Token} {n : Nat}
    (h : scan c rest = (t, n)) (ht : t.IsUnbroken) : IsLexeme (c :: rest.take n) t := by
  unfold scan at h
  split at h
  · obtain ⟨rfl, rfl⟩ := Prod.mk.inj h
    exact .openArray
  · obtain ⟨rfl, rfl⟩ := Prod.mk.inj h
    exact .closeArray
  · obtain ⟨rfl, rfl⟩ := Prod.mk.inj h
    exact .openObject
  · obtain ⟨rfl, rfl⟩ := Prod.mk.inj h
    exact .closeObject
  · obtain ⟨rfl, rfl⟩ := Prod.mk.inj h
    exact .comma
  · obtain ⟨rfl, rfl⟩ := Prod.mk.inj h
    exact .colon
  · obtain ⟨rfl, htake⟩ := scanWord_eq h ht
    rw [htake]
    exact .null
  · obtain ⟨rfl, htake⟩ := scanWord_eq h ht
    rw [htake]
    exact .true
  · obtain ⟨rfl, htake⟩ := scanWord_eq h ht
    rw [htake]
    exact .false
  · split at h
    · next units length hscan =>
      obtain ⟨rfl, rfl⟩ := Prod.mk.inj h
      exact .text (isQuoted_of_scanQuoted_eq hscan)
    · exact absurd (Prod.mk.inj h).1.symm (ht _ _)
  · split at h
    · split at h
      · next length hrun =>
        obtain ⟨rfl, rfl⟩ := Prod.mk.inj h
        obtain ⟨negative, whole, fraction, power, hnumeral⟩ := exists_isNumeral_of_numberRun_eq hrun
        cases length with
        | zero =>
          obtain ⟨c, tail, hcons, -⟩ := hnumeral.exists_eq_cons
          exact nomatch hcons
        | succ length => exact .number hnumeral
      · exact absurd (Prod.mk.inj h).1.symm (ht _ _)
    · exact absurd (Prod.mk.inj h).1.symm (ht _ _)

lemma tokensFrom_eq_tokensFrom_drop (n : Nat) (s : List Char) :
    tokensFrom n s = tokensFrom 0 (s.drop n) := by
  induction s generalizing n with
  | nil => rw [List.drop_nil, tokensFrom, tokensFrom]
  | cons c s ih =>
    cases n with
    | zero => rfl
    | succ n => exact ih n

lemma eq_of_isSeparator {c : Char} (h : isSeparator c = true) :
    c = ' ' ∨ c = '\t' ∨ c = '\n' ∨ c = '\r' := by
  simpa only [isSeparator, Bool.or_eq_true, beq_iff_eq, or_assoc] using h

/-- A text without tokens is blank. -/
lemma isBlank_of_tokensFrom_eq_nil {s : List Char} (h : tokensFrom 0 s = []) : IsBlank s := by
  induction s with
  | nil => exact List.forall_mem_nil _
  | cons c s ih =>
    rw [tokensFrom] at h
    split at h
    · next hc => exact List.forall_mem_cons.2 ⟨eq_of_isSeparator hc, ih h⟩
    · split at h <;> cases h

/-- The first token of a text has a lexeme, in front of which there is nothing but blanks. -/
lemma exists_eq_of_tokensFrom_eq_cons {s : List Char} {t : Token} {ts : List Token}
    (h : tokensFrom 0 s = t :: ts) (ht : t.IsUnbroken) :
    ∃ blank lexeme rest, s = blank ++ lexeme ++ rest ∧ IsBlank blank ∧ IsLexeme lexeme t ∧
      tokensFrom 0 rest = ts := by
  induction s with
  | nil => exact nomatch h
  | cons c s ih =>
    rw [tokensFrom] at h
    split at h
    · next hc =>
      obtain ⟨blank, lexeme, rest, rfl, hblank, hlexeme, hrest⟩ := ih h
      exact ⟨c :: blank, lexeme, rest, rfl,
        List.forall_mem_cons.2 ⟨eq_of_isSeparator hc, hblank⟩, hlexeme, hrest⟩
    · split at h
      · exact absurd (List.cons.inj h).1.symm (ht _ _)
      · next t' n _ hscan =>
        obtain ⟨rfl, hrest⟩ := List.cons.inj h
        refine ⟨[], c :: s.take n, s.drop n, ?_, List.forall_mem_nil _,
          isLexeme_of_scan_eq hscan ht, ?_⟩
        · rw [List.nil_append, List.cons_append, List.take_append_drop]
        · rw [← tokensFrom_eq_tokensFrom_drop, hrest]

/-! ## What is open -/

/-- The elements of an array, or the members of an object, up to the current one, each with the
comma behind it. What was read last comes first. -/
inductive IsBefore {α : Type} (Derives : List Char → α → Prop) : List Char → List α → Prop
  | nil : IsBefore Derives [] []
  | cons {s t : List Char} {before : List α} {a : α} (h : IsBefore Derives s before)
      (ha : Derives t a) : IsBefore Derives (s ++ t ++ [',']) (a :: before)

/-- What was read comes in front of what follows. -/
lemma IsBefore.append {α : Type} {Derives : List Char → α → Prop}
    {DerivesAll : List Char → List α → Prop}
    (hcons : ∀ {t rest : List Char} {a : α} {l : List α}, Derives t a → DerivesAll rest l →
      DerivesAll (t ++ ',' :: rest) (a :: l))
    {s t : List Char} {before l : List α} (h : IsBefore Derives s before) (hrest : DerivesAll t l) :
    DerivesAll (s ++ t) (before.reverse ++ l) := by
  induction h generalizing t l with
  | nil => exact hrest
  | cons _ ha ih =>
    have hall := ih (hcons ha hrest)
    simpa only [List.append_assoc, List.cons_append, List.nil_append, List.reverse_cons] using hall

open Document

/-- The characters of the arrays and objects that are open where a value follows, the innermost one
first, with what is finished of them. -/
inductive IsOpen : List Char → List Frame → Prop
  | nil : IsOpen [] []
  | array {s blank t : List Char} {frames : List Frame} {before : List Document}
      (h : IsOpen s frames) (hblank : IsBlank blank) (hbefore : IsBefore IsValue t before) :
      IsOpen (s ++ blank ++ '[' :: t) (.array before :: frames)
  | object {s blank t front name back : List Char} {frames : List Frame}
      {before : List (Option String × Document)} {n : Option String} (h : IsOpen s frames)
      (hblank : IsBlank blank) (hbefore : IsBefore IsMember t before) (hfront : IsBlank front)
      (hname : IsQuoted name n) (hback : IsBlank back) :
      IsOpen (s ++ blank ++ '\x7b' :: (t ++ front ++ name ++ back ++ [':']))
        (.object before n :: frames)

/-- The characters that lead to a reading. -/
inductive IsReached : List Char → Reading → Prop
  | value {s : List Char} {frames : List Frame} (h : IsOpen s frames) :
      IsReached s ⟨frames, .value⟩
  | valueOrClose {s blank : List Char} {frames : List Frame} (h : IsOpen s frames)
      (hblank : IsBlank blank) :
      IsReached (s ++ blank ++ ['[']) ⟨.array [] :: frames, .valueOrClose⟩
  | firstName {s blank : List Char} {frames : List Frame} (h : IsOpen s frames)
      (hblank : IsBlank blank) : IsReached (s ++ blank ++ ['\x7b']) ⟨frames, .name [] true⟩
  | name {s blank t : List Char} {frames : List Frame} {before : List (Option String × Document)}
      (h : IsOpen s frames) (hblank : IsBlank blank) (hbefore : IsBefore IsMember t before) :
      IsReached (s ++ blank ++ '\x7b' :: t) ⟨frames, .name before false⟩
  | colon {s blank t front name : List Char} {frames : List Frame}
      {before : List (Option String × Document)} {n : Option String} (h : IsOpen s frames)
      (hblank : IsBlank blank) (hbefore : IsBefore IsMember t before) (hfront : IsBlank front)
      (hname : IsQuoted name n) :
      IsReached (s ++ blank ++ '\x7b' :: (t ++ front ++ name)) ⟨.object before n :: frames, .colon⟩
  | afterValue {s t : List Char} {frames : List Frame} {d : Document} (h : IsOpen s frames)
      (hd : IsValue t d) : IsReached (s ++ t) ⟨frames, .afterValue d⟩

/-! ## Tokens behind what is open -/

lemma IsValue.append_blank {s blank : List Char} {d : Document} (h : IsValue s d)
    (hblank : IsBlank blank) : IsValue (s ++ blank) d :=
  .padded (List.forall_mem_nil _) h hblank

lemma IsValue.blank_append {s blank : List Char} {d : Document} (hblank : IsBlank blank)
    (h : IsValue s d) : IsValue (blank ++ s) d := by
  have hpadded := IsValue.padded hblank h (List.forall_mem_nil _)
  rwa [List.append_nil] at hpadded

/-- No token that goes wrong is passed over. -/
lemma isUnbroken_of_step_eq {r r' : Reading} {t : Token} (h : r.step t = .ok r') :
    t.IsUnbroken := by
  rintro quoted fault rfl
  obtain ⟨frames, e⟩ := r
  cases e with
  | value | valueOrClose | colon => exact nomatch h
  | name before closeAllowed => cases closeAllowed <;> cases quoted <;> exact nomatch h
  | afterValue d => rcases frames with _ | ⟨_ | _, frames⟩ <;> exact nomatch h

section Step

variable {s blank lexeme : List Char} {t : Token} {r' : Reading} (hblank : IsBlank blank)
  (hlexeme : IsLexeme lexeme t)

include hblank hlexeme

/-- A token where a value follows. -/
lemma IsOpen.stepValue {frames : List Frame} (h : IsOpen s frames)
    (hstep : Reading.stepValue frames t = .ok r') : IsReached (s ++ (blank ++ lexeme)) r' := by
  -- a token that is a whole value
  have hvalue {d : Document} (hd : IsValue lexeme d)
      (hstep : (.ok ⟨frames, .afterValue d⟩ : Except Fault Reading) = .ok r') :
      IsReached (s ++ (blank ++ lexeme)) r' := by
    obtain rfl := Except.ok.inj hstep
    exact .afterValue h (.blank_append hblank hd)
  cases hlexeme with
  | null => exact hvalue .null hstep
  | true => exact hvalue .true hstep
  | false => exact hvalue .false hstep
  | number hnumeral => exact hvalue (.number hnumeral) hstep
  | text hquoted => exact hvalue (.text hquoted) hstep
  | openArray =>
    obtain rfl := Except.ok.inj hstep
    rw [← List.append_assoc]
    exact .valueOrClose h hblank
  | openObject =>
    obtain rfl := Except.ok.inj hstep
    rw [← List.append_assoc]
    exact .firstName h hblank
  | closeArray | closeObject | comma | colon => exact nomatch hstep

/-- A token behind a finished value. -/
lemma IsOpen.stepAfter {frames : List Frame} {s' : List Char} {d : Document} (h : IsOpen s frames)
    (hd : IsValue s' d) (hstep : Reading.stepAfter frames d t = .ok r') :
    IsReached (s ++ s' ++ (blank ++ lexeme)) r' := by
  have hvalue := hd.append_blank hblank
  cases h with
  | nil => exact nomatch hstep
  | array h hspace hbefore =>
    cases hlexeme with
    | comma =>
      obtain rfl := Except.ok.inj hstep
      have hopen := IsOpen.array h hspace (.cons hbefore hvalue)
      simpa only [List.append_assoc, List.cons_append, List.nil_append] using IsReached.value hopen
    | closeArray =>
      obtain rfl := Except.ok.inj hstep
      have harray := IsValue.array (hbefore.append IsElements.cons (.one hvalue))
      have hreached := IsReached.afterValue h (.blank_append hspace harray)
      simpa only [List.append_assoc, List.cons_append, List.nil_append, List.reverse_cons]
        using hreached
    | _ => exact nomatch hstep
  | object h hspace hbefore hfront hname hback =>
    have hmember := IsMember.mk hfront hname hback hvalue
    cases hlexeme with
    | comma =>
      obtain rfl := Except.ok.inj hstep
      have hreached := IsReached.name h hspace (.cons hbefore hmember)
      simpa only [List.append_assoc, List.cons_append, List.nil_append] using hreached
    | closeObject =>
      obtain rfl := Except.ok.inj hstep
      have hobject := IsValue.object (hbefore.append IsMembers.cons (.one hmember))
      have hreached := IsReached.afterValue h (.blank_append hspace hobject)
      simpa only [List.append_assoc, List.cons_append, List.nil_append, List.reverse_cons]
        using hreached
    | _ => exact nomatch hstep

/-- **A token adds its lexeme** to the characters that lead to a reading, with the blanks in front
of it. -/
theorem IsReached.step {r : Reading} (h : IsReached s r) (hstep : r.step t = .ok r') :
    IsReached (s ++ (blank ++ lexeme)) r' := by
  cases h with
  | value h => exact h.stepValue hblank hlexeme hstep
  | @valueOrClose s space frames h hspace =>
    by_cases hclose : t = .closeArray
    · subst hclose
      cases hlexeme with
      | closeArray =>
        obtain rfl := Except.ok.inj hstep
        have hreached := IsReached.afterValue h (.blank_append hspace (.emptyArray hblank))
        simpa only [List.append_assoc, List.cons_append, List.nil_append, List.tail_cons]
          using hreached
    · have hopen := IsOpen.array h hspace .nil
      refine hopen.stepValue hblank hlexeme ?_
      rw [← hstep]
      exact (Reading.step_of_allowsValue (e := .valueOrClose) trivial _ hclose).symm
  | firstName h hspace =>
    cases hlexeme with
    | closeObject =>
      obtain rfl := Except.ok.inj hstep
      have hreached := IsReached.afterValue h (.blank_append hspace (.emptyObject hblank))
      simpa only [List.append_assoc, List.cons_append, List.nil_append] using hreached
    | text hquoted =>
      obtain rfl := Except.ok.inj hstep
      have hreached := IsReached.colon h hspace .nil hblank hquoted
      simpa only [List.append_assoc, List.cons_append, List.nil_append] using hreached
    | _ => exact nomatch hstep
  | name h hspace hbefore =>
    cases hlexeme with
    | text hquoted =>
      obtain rfl := Except.ok.inj hstep
      have hreached := IsReached.colon h hspace hbefore hblank hquoted
      simpa only [List.append_assoc, List.cons_append, List.nil_append] using hreached
    | _ => exact nomatch hstep
  | colon h hspace hbefore hfront hname =>
    cases hlexeme with
    | colon =>
      obtain rfl := Except.ok.inj hstep
      have hopen := IsOpen.object h hspace hbefore hfront hname hblank
      simpa only [List.append_assoc, List.cons_append, List.nil_append] using IsReached.value hopen
    | _ => exact nomatch hstep
  | afterValue h hd => exact h.stepAfter hblank hlexeme hd hstep

end Step

/-! ## Texts -/

/-- **All tokens of a text** lead to a reading that the text leads to, up to blanks at its end.

**Proof sketch.** By induction on the tokens. The first one takes its lexeme and the blanks in front
of it from the text, and leaves a text that has the other tokens. -/
theorem IsReached.run {ts : List Token} {s s' : List Char} {r r' : Reading} (h : IsReached s r)
    (hts : tokensFrom 0 s' = ts) (hrun : r.run ts = .ok r') :
    ∃ front blank, s ++ s' = front ++ blank ∧ IsBlank blank ∧ IsReached front r' := by
  induction ts generalizing s s' r with
  | nil =>
    obtain rfl := Except.ok.inj hrun
    exact ⟨s, s', rfl, isBlank_of_tokensFrom_eq_nil hts, h⟩
  | cons t ts ih =>
    rw [Reading.run, List.foldlM_cons, bind_eq_ok_iff] at hrun
    obtain ⟨r₁, hstep, hrun⟩ := hrun
    obtain ⟨blank, lexeme, rest, rfl, hblank, hlexeme, hrest⟩ :=
      exists_eq_of_tokensFrom_eq_cons hts (isUnbroken_of_step_eq hstep)
    have hstep' := h.step hblank hlexeme hstep
    obtain ⟨front, back, hs, hback, hfront⟩ := ih hstep' hrest hrun
    exact ⟨front, back, by simp only [← hs, List.append_assoc], hback, hfront⟩

end Sift.Json
