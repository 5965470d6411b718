import Sift.Proofs.NearestNumber
import Sift.Proofs.Positional

set_option autoImplicit false
set_option relaxedAutoImplicit false

/-!
# The grammar of literals

A text is read as a number by taking it apart from the left: a sign, the digits before the point and
behind it, and a power of ten. The same literals are described here by a grammar that says which
characters may stand one behind the other and what number they denote, and not how they are read.
The two agree: each part is read as what the grammar says, since what follows it cannot be taken for
more of it. Hence a text is read as a number iff it is a literal whose nearest binary64 is finite.
From this it follows where the range of the numbers ends, and which texts are not read although they
look like numbers.

## Main definitions

* `Sift.Decimal.IsSign`, `Sift.Decimal.IsMantissa`, `Sift.Decimal.IsPower` — the parts of a literal.
* `Sift.Decimal.IsLiteral` — the literals, with their signs and magnitudes.

## Main results

* `Sift.Decimal.power?_eq_some_iff` — which powers of ten are read.
* `Sift.Decimal.isLiteral_iff` — which literals are read, and as which decimals.
* `Sift.Numeral.reads_finite_literals` — which texts are read as numbers, and as which ones.
-/

namespace Sift

open Text

namespace Decimal

/-! ## The grammar -/

/-- A sign, as whether it is a minus. It may be left out. -/
inductive IsSign : List Char → Bool → Prop
  | absent : IsSign [] false
  | plus : IsSign ['+'] false
  | minus : IsSign ['-'] true

/-- Digits with or without a point, and the number they denote. There need not be digits on both
sides of the point. -/
inductive IsMantissa : List Char → ℚ → Prop
  | whole {digits : List Char} (hne : digits ≠ []) (h : ∀ c ∈ digits, c.isDigit = true) :
      IsMantissa digits (natOfDigits digits)
  | point {digits places : List Char} (hne : digits ≠ []) (h : ∀ c ∈ digits, c.isDigit = true)
      (hplaces : ∀ c ∈ places, c.isDigit = true) :
      IsMantissa (digits ++ '.' :: places)
        (natOfDigits digits + natOfDigits places / 10 ^ places.length)
  | fraction {places : List Char} (hne : places ≠ []) (h : ∀ c ∈ places, c.isDigit = true) :
      IsMantissa ('.' :: places) (natOfDigits places / 10 ^ places.length)

/-- A power of ten, as its exponent. It may be left out. -/
inductive IsPower : List Char → Int → Prop
  | absent : IsPower [] 0
  | written {mark : Char} {sign digits : List Char} {negative : Bool}
      (hmark : mark = 'e' ∨ mark = 'E') (hsign : IsSign sign negative) (hne : digits ≠ [])
      (h : ∀ c ∈ digits, c.isDigit = true) :
      IsPower (mark :: (sign ++ digits))
        (if negative then -(natOfDigits digits : Int) else natOfDigits digits)

/-- A literal, as whether it is negative and its magnitude: a sign, a mantissa and a power of
ten in this order. -/
inductive IsLiteral : List Char → Bool → ℚ → Prop
  | mk {sign digits power : List Char} {negative : Bool} {m : ℚ} {e : Int}
      (hsign : IsSign sign negative) (hdigits : IsMantissa digits m) (hpower : IsPower power e) :
      IsLiteral (sign ++ digits ++ power) negative (m * 10 ^ e)

/-! ## Signs -/

/-- What is read as a sign is one. -/
lemma exists_isSign (s : List Char) :
    ∃ sign, IsSign sign (signed s).1 ∧ s = sign ++ (signed s).2 := by
  unfold signed
  split
  · exact ⟨_, .minus, rfl⟩
  · exact ⟨_, .plus, rfl⟩
  · exact ⟨_, .absent, rfl⟩

/-- A sign is read where no other one follows it. -/
lemma IsSign.signed_append {sign rest : List Char} {negative : Bool} (h : IsSign sign negative)
    (hrest : ∀ c ∈ rest.head?, c ≠ '-' ∧ c ≠ '+') : signed (sign ++ rest) = (negative, rest) := by
  cases h with
  | plus => rfl
  | minus => rfl
  | absent =>
    unfold signed
    split
    · next hminus =>
      rw [List.nil_append] at hminus
      exact absurd rfl (hrest '-' (hminus ▸ rfl)).1
    · next hplus =>
      rw [List.nil_append] at hplus
      exact absurd rfl (hrest '+' (hplus ▸ rfl)).2
    · rfl

/-- A digit is no sign. -/
lemma ne_of_isDigit {c : Char} (h : c.isDigit = true) : c ≠ '-' ∧ c ≠ '+' := by
  constructor <;> rintro rfl <;> exact absurd h (by decide)

/-! ## Powers of ten -/

/-- A power of ten starts with its mark. -/
lemma IsPower.head {s : List Char} {e : Int} (h : IsPower s e) :
    ∀ c ∈ s.head?, c.isDigit = false ∧ c ≠ '.' := by
  cases h with
  | absent => exact fun c hc => nomatch hc
  | written hmark _ _ _ =>
    intro c hc
    obtain rfl := Option.some.inj hc
    rcases hmark with rfl | rfl <;> decide

/-- **The powers of ten that are read** are those of the grammar. -/
lemma power?_eq_some_iff {s : List Char} {e : Int} : power? s = some e ↔ IsPower s e := by
  constructor
  · intro h
    cases s with
    | nil =>
      obtain rfl := Option.some.inj h
      exact .absent
    | cons mark rest =>
      obtain ⟨sign, hsign, hrest⟩ := exists_isSign rest
      rw [power?, Option.ite_none_right_eq_some, Option.map_eq_some_iff] at h
      obtain ⟨hmark, n, hn, rfl⟩ := h
      obtain ⟨k, hk, hcast⟩ := Option.bind_eq_some_iff.1 hn
      obtain rfl := Option.some.inj hcast
      obtain ⟨hne, hdigits, rfl⟩ := nat?_eq_some_iff_natOfDigits.1 hk
      have hpower := IsPower.written hmark hsign hne hdigits
      rwa [← hrest] at hpower
  · intro h
    cases h with
    | absent => rfl
    | @written mark sign digits negative hmark hsign hne hdigits =>
      have hhead : ∀ c ∈ digits.head?, c ≠ '-' ∧ c ≠ '+' := fun c hc =>
        ne_of_isDigit (hdigits c (List.mem_of_mem_head? hc))
      have hnat : nat? digits = some (natOfDigits digits) :=
        nat?_eq_some_iff_natOfDigits.2 ⟨hne, hdigits, rfl⟩
      simp only [power?, if_pos hmark, hsign.signed_append hhead, hnat]
      rfl

/-! ## Mantissas -/

/-- Digits in front of a point and digits behind it, read as one number of so many places. -/
lemma natOfDigits_append_div (digits places : List Char) :
    (natOfDigits (digits ++ places) : ℚ) / 10 ^ places.length =
      natOfDigits digits + natOfDigits places / 10 ^ places.length := by
  have hvalue : natOfDigits (digits ++ places) =
      10 ^ places.length * natOfDigits digits + natOfDigits places := by
    rw [natOfDigits, Nat.ofDigitChars_append, Nat.ofDigitChars_eq_ofDigitChars_zero, natOfDigits,
      natOfDigits]
  rw [hvalue]
  push_cast
  field_simp

/-- What is read as a mantissa is one. -/
lemma exists_isMantissa {s whole fraction rest : List Char}
    (h : mantissa s = (whole, fraction, rest)) (hne : whole ≠ [] ∨ fraction ≠ []) :
    ∃ digits, IsMantissa digits (natOfDigits (whole ++ fraction) / 10 ^ fraction.length) ∧
      s = digits ++ rest := by
  have hsplit (l : List Char) : (∀ c ∈ l.takeWhile Char.isDigit, c.isDigit = true) ∧
      l = l.takeWhile Char.isDigit ++ l.dropWhile Char.isDigit :=
    ⟨fun c hc => List.mem_takeWhile_imp hc, List.takeWhile_append_dropWhile.symm⟩
  obtain ⟨hwhole, hs⟩ := hsplit s
  unfold mantissa at h
  split at h
  · next tail hpoint =>
    obtain ⟨hplaces, htail⟩ := hsplit tail
    simp only [Prod.mk.injEq] at h
    obtain ⟨rfl, rfl, rfl⟩ := h
    rw [hpoint] at hs
    by_cases hnil : s.takeWhile Char.isDigit = []
    · rw [hnil, List.nil_append] at hs ⊢
      refine ⟨_, .fraction (hne.resolve_left fun h => h hnil) hplaces, ?_⟩
      rw [List.cons_append, ← htail, hs]
    · rw [natOfDigits_append_div]
      refine ⟨_, .point hnil hwhole hplaces, ?_⟩
      rw [List.append_assoc, List.cons_append, ← htail, ← hs]
  · next hpoint =>
    simp only [Prod.mk.injEq] at h
    obtain ⟨rfl, rfl, rfl⟩ := h
    refine ⟨_, ?_, hs⟩
    have hmantissa := IsMantissa.whole (hne.resolve_right fun h => h rfl) hwhole
    simpa using hmantissa

/-- A mantissa is read as one where neither a digit nor a point follows it. -/
lemma IsMantissa.exists_mantissa_eq {digits rest : List Char} {m : ℚ} (h : IsMantissa digits m)
    (hrest : ∀ c ∈ rest.head?, c.isDigit = false ∧ c ≠ '.') :
    ∃ whole fraction, mantissa (digits ++ rest) = (whole, fraction, rest) ∧
      (whole ≠ [] ∨ fraction ≠ []) ∧
      m = natOfDigits (whole ++ fraction) / 10 ^ fraction.length := by
  have hrest' : ∀ c ∈ rest.head?, c.isDigit = false := fun c hc => (hrest c hc).1
  cases h with
  | whole hne hdigits =>
    exact ⟨_, [], mantissa_append_of_ne hdigits hrest, .inl hne, by simp⟩
  | @point digits places hne hdigits hplaces =>
    refine ⟨digits, places, ?_, .inl hne, (natOfDigits_append_div _ _).symm⟩
    rw [List.append_assoc, List.cons_append, mantissa_append hdigits hplaces hrest']
  | @fraction places hne hplaces =>
    have hnil : ∀ c ∈ ([] : List Char), c.isDigit = true := fun c hc => nomatch hc
    exact ⟨[], places, mantissa_append hnil hplaces hrest', .inr hne, rfl⟩

/-! ## Literals -/

/-- What is left of a literal without its sign does not start with another sign. -/
lemma IsMantissa.head {digits rest : List Char} {m : ℚ} (h : IsMantissa digits m) :
    ∀ c ∈ (digits ++ rest).head?, c ≠ '-' ∧ c ≠ '+' := by
  have hdigit {l tail : List Char} (hne : l ≠ []) (hl : ∀ c ∈ l, c.isDigit = true) :
      ∀ c ∈ (l ++ tail).head?, c ≠ '-' ∧ c ≠ '+' := by
    intro c hc
    rw [List.head?_append_of_ne_nil _ hne] at hc
    exact ne_of_isDigit (hl c (List.mem_of_mem_head? hc))
  cases h with
  | whole hne h => exact hdigit hne h
  | point hne h _ =>
    rw [List.append_assoc]
    exact hdigit hne h
  | fraction _ _ =>
    intro c hc
    obtain rfl := Option.some.inj hc
    decide

/-- The digits behind the point are put into the coefficient, which the exponent makes up for. -/
lemma magnitude_sub (negative : Bool) (coefficient places : Nat) (e : Int) :
    magnitude ⟨negative, coefficient, e - places⟩ = coefficient / 10 ^ places * 10 ^ e := by
  have hten : (10 : ℚ) ≠ 0 := by norm_num
  rw [magnitude, zpow_sub₀ hten, zpow_natCast]
  ring

/-- **The literals that are read** are those of the grammar, and the decimal that is read has the
sign and the magnitude of the literal. -/
theorem isLiteral_iff {s : List Char} {negative : Bool} {q : ℚ} :
    IsLiteral s negative q ↔
      ∃ d, ofChars? s = some d ∧ d.negative = negative ∧ d.magnitude = q := by
  constructor
  · rintro ⟨hsign, hdigits, hpower⟩
    obtain ⟨whole, fraction, hmantissa, hne, rfl⟩ := hdigits.exists_mantissa_eq hpower.head
    have hempty : (whole.isEmpty && fraction.isEmpty) = false := by
      simpa [imp_iff_not_or] using hne
    refine ⟨_, ?_, rfl, magnitude_sub negative _ _ _⟩
    rw [List.append_assoc, ofChars?, hsign.signed_append hdigits.head]
    simp only [hmantissa, hempty, power?_eq_some_iff.2 hpower, Bool.false_eq_true, if_false,
      Option.map_some]
  · rintro ⟨d, hd, rfl, rfl⟩
    obtain ⟨sign, hsign, hs⟩ := exists_isSign s
    rcases hmantissa : mantissa (signed s).2 with ⟨whole, fraction, rest⟩
    simp only [ofChars?, hmantissa, Option.ite_none_left_eq_some, Option.map_eq_some_iff] at hd
    obtain ⟨hempty, e, hpower, rfl⟩ := hd
    have hne : whole ≠ [] ∨ fraction ≠ [] := by
      simpa [imp_iff_not_or] using hempty
    obtain ⟨digits, hdigits, hunsigned⟩ := exists_isMantissa hmantissa hne
    have hliteral := IsLiteral.mk hsign hdigits (power?_eq_some_iff.1 hpower)
    rwa [List.append_assoc, ← hunsigned, ← hs, ← magnitude_sub (signed s).1] at hliteral

end Decimal

/-! ## Numbers -/

namespace Numeral

open Decimal

/-- A literal denotes a number iff the nearest binary64 is finite. -/
lemma read?_eq_some_iff_isLiteral {s : String} {x : Binary64} :
    read? s = some x ↔ ∃ negative magnitude, IsLiteral (trim s).toList negative magnitude ∧
      x.IsRounding negative magnitude ∧ x.isFinite = true := by
  rw [read?_eq_some_iff, toList_trim]
  constructor
  · rintro ⟨d, hd, rfl, hfinite⟩
    exact ⟨_, _, isLiteral_iff.2 ⟨d, hd, rfl, rfl⟩, d.isRounding_nearest, hfinite⟩
  · rintro ⟨negative, magnitude, hliteral, hrounding, hfinite⟩
    obtain ⟨d, hd, rfl, rfl⟩ := isLiteral_iff.1 hliteral
    exact ⟨d, hd, d.isRounding_nearest.eq hrounding, hfinite⟩

/-- Nothing is lost by not reading the words for infinity and for what is not a number. -/
lemma read?_eq_filter (s : String) :
    read? s = (Binary64.ofChars? (trim s).toList).filter Binary64.isFinite := by
  rw [read?, toList_trim, Binary64.ofChars?]
  cases Decimal.ofChars? (trimChars s.toList) with
  | some d => rfl
  | none =>
    dsimp only
    split <;> rfl

/-- The words for infinity and for what is not a number have an `n` in them, and no literal has. -/
lemma read?_eq_none_of_word {s : String} {sign word : List Char}
    (hs : (trim s).toList = sign ++ word)
    (hword : String.ofList (word.map Char.toLower) ∈ ["inf", "infinity", "nan"]) :
    read? s = none := by
  have hmem : ∃ c ∈ word, c.toLower = 'n' := by
    rw [← List.mem_map, ← String.toList_ofList (l := word.map Char.toLower)]
    simp only [List.mem_cons, List.not_mem_nil, or_false] at hword
    rcases hword with h | h | h <;> rw [h] <;> decide
  obtain ⟨c, hc, hlower⟩ := hmem
  have hmem : c ∈ trimChars s.toList := by
    rw [← toList_trim, hs]
    exact List.mem_append_right _ hc
  refine read?_eq_none_of_not_isLiteralChar hmem fun hliteral => ?_
  exact absurd (hlower ▸ hliteral.toLower) (by decide)

section Literal

variable {s : String} {negative : Bool} {magnitude : ℚ}
  (h : IsLiteral (trim s).toList negative magnitude)

include h

/-- A literal denotes its nearest binary64, if that is finite. -/
lemma exists_read?_eq :
    ∃ x : Binary64, x.IsRounding negative magnitude ∧
      read? s = (some x).filter Binary64.isFinite := by
  obtain ⟨d, hd, rfl, rfl⟩ := isLiteral_iff.1 h
  rw [toList_trim] at hd
  exact ⟨d.nearest, d.isRounding_nearest, by rw [read?, hd, Option.map_some]⟩

lemma read?_eq_none_iff : read? s = none ↔ 2 ^ 1024 - 2 ^ 970 ≤ magnitude := by
  obtain ⟨x, hx, hread⟩ := exists_read?_eq h
  rw [hread, Option.filter_some, ← not_lt, ← hx.isFinite_iff]
  simp

lemma read?_eq_signedZero (hle : magnitude ≤ 2⁻¹ ^ 1075) :
    read? s = some (.signedZero negative) := by
  obtain ⟨d, hd, rfl, rfl⟩ := isLiteral_iff.1 h
  rw [read?_eq_some_iff, ← toList_trim]
  have hnonneg : 0 ≤ d.magnitude := by
    have hpow : (0 : ℚ) < 10 ^ d.exponent := zpow_pos (by norm_num) _
    exact mul_nonneg (Nat.cast_nonneg _) hpow.le
  exact ⟨d, hd, d.isRounding_nearest.eq_signedZero hnonneg hle, rfl⟩

end Literal

/-- **The texts that are read are the finite literals.** A text is read as a number iff, blanks at
its ends aside, it is a literal whose nearest binary64 is finite, and that is the number. It is the
same to read words for infinity and for what is not a number as well and to drop what is not finite
afterwards: such words denote no number, whatever sign they have. Neither do texts with any other
character than those of literals, be it a blank, a separator or the mark of another base. A literal
denotes no number from the middle between the greatest finite number and `2 ^ 1024` on, and up to
half a unit it denotes the zero with its sign. -/
theorem reads_finite_literals :
    (∀ (s : String) (x : Binary64), read? s = some x ↔
      ∃ negative magnitude, IsLiteral (trim s).toList negative magnitude ∧
        x.IsRounding negative magnitude ∧ x.isFinite = true) ∧
    (∀ s : String, read? s = (Binary64.ofChars? (trim s).toList).filter Binary64.isFinite) ∧
    (∀ (s : String) (sign word : List Char), (trim s).toList = sign ++ word →
      String.ofList (word.map Char.toLower) ∈ ["inf", "infinity", "nan"] → read? s = none) ∧
    (∀ (s : String) (c : Char), c ∈ (trim s).toList → ¬IsLiteralChar c → read? s = none) ∧
    ∀ (s : String) (negative : Bool) (magnitude : ℚ),
      IsLiteral (trim s).toList negative magnitude →
        (read? s = none ↔ 2 ^ 1024 - 2 ^ 970 ≤ magnitude) ∧
        (magnitude ≤ 2⁻¹ ^ 1075 → read? s = some (.signedZero negative)) := by
  refine ⟨fun s x => read?_eq_some_iff_isLiteral, read?_eq_filter, ?_, ?_, ?_⟩
  · intro s sign word hs hword
    exact read?_eq_none_of_word hs hword
  · intro s c hc h
    rw [toList_trim] at hc
    exact read?_eq_none_of_not_isLiteralChar hc h
  · intro s negative magnitude h
    exact ⟨read?_eq_none_iff h, read?_eq_signedZero h⟩

/-- The least literal of its length beyond the range, and one that is too small for a unit. -/
theorem reads_finite_literals_at_bounds :
    read? "\u3000-.5E+1\n" = some (.ofInt (-5)) ∧
      read? "1.7976931348623159e308" = none ∧
      read? "-1e-400" = some (.signedZero true) ∧
      read? "\t-Infinity" = none ∧
      read? "1 000" = none := by
  obtain ⟨hread, -, hword, hchar, hbound⟩ := reads_finite_literals
  refine ⟨(hread _ _).2 ⟨true, 5, ?_, ?_, ?_⟩, ?_, ?_, ?_, ?_⟩
  · exact isLiteral_iff.2 ⟨⟨true, 5, 0⟩, by decide +kernel, rfl, by norm_num [magnitude]⟩
  · obtain ⟨d, hd⟩ : ∃ d : Decimal, d = ⟨true, 5, 0⟩ := ⟨_, rfl⟩
    have hnearest : d.nearest = .ofInt (-5) := by rw [hd]; decide +kernel
    have hmagnitude : d.magnitude = 5 := by norm_num [hd, magnitude]
    have hrounding := d.isRounding_nearest
    rw [hnearest, hmagnitude, hd] at hrounding
    exact hrounding
  · decide +kernel
  · have hliteral : IsLiteral (trim "1.7976931348623159e308").toList false
        (magnitude ⟨false, 17976931348623159, 292⟩) :=
      isLiteral_iff.2 ⟨⟨false, 17976931348623159, 292⟩, by decide +kernel, rfl, rfl⟩
    refine (hbound _ _ _ hliteral).1.2 ?_
    have hnat : 2 ^ (1024 : Nat) ≤ 17976931348623159 * 10 ^ (292 : Nat) + 2 ^ (970 : Nat) := by
      decide +kernel
    have hcast := (Nat.cast_le (α := ℚ)).2 hnat
    rw [Nat.cast_add, Nat.cast_mul, Nat.cast_pow, Nat.cast_pow, Nat.cast_pow] at hcast
    rw [magnitude, sub_le_iff_le_add]
    exact hcast
  · have hliteral : IsLiteral (trim "-1e-400").toList true (magnitude ⟨true, 1, -400⟩) :=
      isLiteral_iff.2 ⟨⟨true, 1, -400⟩, by decide +kernel, rfl, rfl⟩
    refine (hbound _ _ _ hliteral).2 ?_
    have hnat : 2 ^ (1075 : Nat) ≤ 10 ^ (400 : Nat) := by decide +kernel
    have hcast := (Nat.cast_le (α := ℚ)).2 hnat
    rw [Nat.cast_pow, Nat.cast_pow] at hcast
    rw [magnitude, Nat.cast_one, one_mul, inv_pow, zpow_neg]
    exact inv_anti₀ (pow_pos two_pos _) hcast
  · exact hword _ ['-'] "Infinity".toList (by decide +kernel) (by decide +kernel)
  · exact hchar _ ' ' (by decide +kernel) (by decide)

end Numeral

end Sift
