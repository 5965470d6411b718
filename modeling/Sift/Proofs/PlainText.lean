import Sift.Config.Settings
import Sift.Proofs.AsciiCase
import Sift.Proofs.ShortestText
import Sift.Proofs.Walk

set_option autoImplicit false
set_option relaxedAutoImplicit false

/-!
# Plain texts

A variable whose text is a literal, that is a truth value or a number, gives the value of the
literal. Where a text is asked for, this value is written out again, in one way for all literals of
the value: this is the plain text of the literal. So a literal may come out as another text than it
went in, but its plain text stays as it is, other than `-0`, which is taken for the whole number
zero.

## Main definitions

* `Sift.Config.Variable.IsLiteral` — a text is a truth value or a number.
* `Sift.Config.Variable.plain` — the text that the value of a variable is written as.

## Main results

* `Sift.Config.Variable.plain_of_not_isLiteral` — texts that are no literals stay as they are.
* `Sift.Config.Variable.plain_eq_self_iff` — of all texts, those do that are plain texts other than
  `-0`.
-/

namespace Sift

open Text

/-! ## Whole numbers -/

lemma Text.le_of_intWithin? {lo hi n : Int} {s : String} (h : intWithin? lo hi s = some n) :
    lo ≤ n ∧ n ≤ hi := by
  simp only [intWithin?] at h
  split at h
  · obtain ⟨hle, hn⟩ := Option.ite_none_right_eq_some.1 h
    exact Option.some.inj hn ▸ hle
  · exact nomatch h

namespace Decimal

/-- The value of a decimal without a power of ten. -/
def whole (negative : Bool) (n : Nat) : Int :=
  if negative then -n else n

/-- **A whole number is read back** from its digits. -/
lemma intWithin?_chars (lo hi : Int) (negative : Bool) (n : Nat) :
    intWithin? lo hi (String.ofList (chars ⟨negative, n, 0⟩)) =
      if lo ≤ whole negative n ∧ whole negative n ≤ hi then some (whole negative n) else none := by
  have hsigned : signed (chars ⟨negative, n, 0⟩) = (negative, digitsOfNat n ++ []) :=
    signed_append (fun _ hc => isDigit_of_mem_digitsOfNat hc) (digitsOfNat_ne_nil n) negative []
  have hnat : nat? (digitsOfNat n) = some n := nat?_eq_some_iff.2 ⟨0, rfl⟩
  simp only [intWithin?, String.toList_ofList, hsigned, List.append_nil, hnat]
  rfl

/-- The digits of a whole number, unless it is zero with a minus sign. -/
lemma ofList_chars_whole {negative : Bool} {n : Nat} (h : n = 0 → negative = false) :
    String.ofList (chars ⟨negative, n, 0⟩) = intText (whole negative n) := by
  have hnegative : decide (whole negative n < 0) = negative := by
    cases negative with
    | true =>
      have hpos : n ≠ 0 := fun hzero => Bool.noConfusion (h hzero)
      simp only [whole, if_true, decide_eq_true_eq]
      omega
    | false =>
      simp only [whole, Bool.false_eq_true, if_false, decide_eq_false_iff_not]
      omega
  have habs : (whole negative n).natAbs = n := by
    cases negative with
    | true => exact (Int.natAbs_neg n).trans (Int.natAbs_natCast n)
    | false => exact Int.natAbs_natCast n
  rw [intText_eq, hnegative, habs]

/-- A positive power of ten is written as zeros. -/
lemma chars_spread {d : Decimal} (h : d.coefficient = 0 → d.exponent = 0) :
    d.spread.chars = d.chars := by
  obtain ⟨negative, coefficient, exponent⟩ := d
  cases exponent with
  | negSucc e => rfl
  | ofNat e =>
    have hdigits : digitsOfNat coefficient ++ List.replicate e '0' =
        digitsOfNat (coefficient * 10 ^ e) := by
      rcases Nat.eq_zero_or_pos coefficient with hzero | hpos
      · obtain rfl : e = 0 := Int.ofNat.inj (h hzero)
        rw [List.replicate_zero, List.append_nil, Nat.pow_zero, Nat.mul_one]
      · exact digitsOfNat_append_replicate hpos e
    simp only [chars, spread, hdigits]
    rw [← hdigits]
    simp

/-- A decimal with a point is no whole number. -/
lemma intWithin?_chars_of_negSucc (lo hi : Int) (negative : Bool) (coefficient e : Nat) :
    intWithin? lo hi (String.ofList (chars ⟨negative, coefficient, .negSucc e⟩)) = none := by
  have hdigits : ∀ c ∈ digitsOfNat coefficient, c.isDigit = true :=
    fun c hc => isDigit_of_mem_digitsOfNat hc
  obtain ⟨front, fraction, hpoint, hne, hfront, -⟩ := exists_withPoint_eq hdigits (e + 1)
  have hsigned : signed (chars ⟨negative, coefficient, .negSucc e⟩) =
      (negative, front ++ '.' :: fraction) := by
    simp only [chars, hpoint]
    exact signed_append hfront hne negative ('.' :: fraction)
  have hnat : nat? (front ++ '.' :: fraction) = none := by
    rw [Option.eq_none_iff_forall_ne_some]
    intro n hn
    have hdigit := (nat?_eq_some_iff_natOfDigits.1 hn).2.1 '.' (by simp)
    exact absurd hdigit (by decide)
  simp only [intWithin?, String.toList_ofList, hsigned, hnat]

/-- **A whole number is written again as it was read**, unless it was zero with a minus sign. -/
theorem intText_of_intWithin? {lo hi n : Int} {d : Decimal}
    (hzero : d.coefficient = 0 → d.exponent = 0 ∧ d.negative = false)
    (hn : intWithin? lo hi (String.ofList d.chars) = some n) :
    intText n = String.ofList d.chars := by
  have hspread : d.spread.chars = d.chars := chars_spread fun h => (hzero h).1
  obtain ⟨negative, coefficient, exponent⟩ := d
  cases exponent with
  | negSucc e =>
    rw [intWithin?_chars_of_negSucc] at hn
    exact nomatch hn
  | ofNat e =>
    have hminus : coefficient * 10 ^ e = 0 → negative = false := by
      intro h
      have hpow : 10 ^ e ≠ 0 := Nat.pos_iff_ne_zero.1 (Nat.pow_pos (by decide))
      exact (hzero ((Nat.mul_eq_zero.1 h).resolve_right hpow)).2
    rw [← hspread, spread, intWithin?_chars, Option.ite_none_right_eq_some] at hn
    rw [← hspread, spread, ofList_chars_whole hminus, Option.some.inj hn.2]

lemma nearest_of_coefficient_eq_zero {d : Decimal} (h : d.coefficient = 0) :
    d.nearest = .signedZero d.negative := by
  obtain ⟨negative, coefficient, exponent⟩ := d
  obtain rfl : coefficient = 0 := h
  cases exponent with
  | ofNat e => simp only [nearest, if_true]
  | negSucc e =>
    have hpow : 0 < 10 ^ (e + 1) := Nat.pow_pos (by decide)
    simp only [nearest, Nat.zero_mul, Binary64.ofQuotient_zero negative hpow, ite_self]

/-- The characters of a literal are ASCII. -/
lemma IsLiteralChar.toNat_lt {c : Char} (h : IsLiteralChar c) : c.toNat < 0x80 := by
  rcases h with hdigit | hmark
  · have hrange : 48 ≤ c.toNat ∧ c.toNat ≤ 57 := Char.isDigit_iff_toNat.1 hdigit
    omega
  · simp only [List.mem_cons, List.not_mem_nil, or_false] at hmark
    rcases hmark with rfl | rfl | rfl | rfl | rfl <;> decide

end Decimal

/-- Only zero is written with the coefficient zero. -/
lemma Binary64.decimal_of_coefficient_eq_zero {negative : Bool} {units : Nat}
    (hfits : Representable units) (h : (decimal negative units).coefficient = 0) :
    decimal negative units = ⟨negative, 0, 0⟩ := by
  have hnearest := nearest_decimal negative hfits
  rw [Decimal.nearest_of_coefficient_eq_zero h, signedZero] at hnearest
  obtain rfl : 0 = units := by injection hnearest
  rfl

namespace Config.Variable

/-! ## Values of variables -/

/-- A text reads as a truth value, as a whole number of 64 bits or as a binary64. -/
def IsLiteral (s : String) : Prop :=
  lower s = "true" ∨ lower s = "false" ∨ (intWithin? minInteger maxInteger s).isSome = true ∨
    (Binary64.ofChars? s.toList).isSome = true

/-- The text that the value of a variable is written as where a text is asked for. -/
def plain (s : String) : String :=
  match value s with
  | .bool b => if b then "true" else "false"
  | .integer n => intText n
  | .float x => x.text
  | _ => s

/-- **The value of a variable** is that of a literal, or else the text itself. -/
theorem value_cases (s : String) :
    (∃ b, lower s = (if b then "true" else "false") ∧ value s = .bool b) ∨
    (∃ n, intWithin? minInteger maxInteger s = some n ∧ value s = .integer n) ∨
    (∃ x, intWithin? minInteger maxInteger s = none ∧ Binary64.ofChars? s.toList = some x ∧
      value s = .float x) ∨
    ¬IsLiteral s ∧ value s = .text s := by
  unfold value IsLiteral
  split
  · next htrue => exact Or.inl ⟨true, htrue, rfl⟩
  · next hfalse => exact Or.inl ⟨false, hfalse, rfl⟩
  · next htrue hfalse =>
    cases hint : intWithin? minInteger maxInteger s with
    | some n => exact Or.inr (Or.inl ⟨n, rfl, rfl⟩)
    | none =>
      cases hfloat : Binary64.ofChars? s.toList with
      | some x => exact Or.inr (Or.inr (Or.inl ⟨x, rfl, rfl, rfl⟩))
      | none =>
        refine Or.inr (Or.inr (Or.inr ⟨?_, rfl⟩))
        rintro (h | h | h | h)
        · exact htrue h
        · exact hfalse h
        · exact Bool.noConfusion h
        · exact Bool.noConfusion h

/-- **The plain text** is what the value of a variable stands for. -/
theorem toText_value (s : String) : (value s).toText = .ok (plain s) := by
  unfold plain
  obtain ⟨b, -, h⟩ | ⟨n, -, h⟩ | ⟨x, -, -, h⟩ | ⟨-, h⟩ := value_cases s <;> rw [h] <;> rfl

/-- What is no literal stays as it is. -/
theorem plain_of_not_isLiteral {s : String} (hs : ¬IsLiteral s) : plain s = s := by
  unfold plain
  obtain ⟨b, hb, -⟩ | ⟨n, hn, -⟩ | ⟨x, -, hx, -⟩ | ⟨-, h⟩ := value_cases s
  · cases b with
    | true => exact absurd (Or.inl hb) hs
    | false => exact absurd (Or.inr (Or.inl hb)) hs
  · exact absurd (Or.inr (Or.inr (Or.inl (Option.isSome_of_eq_some hn)))) hs
  · exact absurd (Or.inr (Or.inr (Or.inr (Option.isSome_of_eq_some hx)))) hs
  · rw [h]

/-! ## Plain texts of plain texts -/

/-- A text in the characters of literals is no truth value. -/
lemma lower_ne_of_forall {s : List Char} (hs : ∀ c ∈ s, Decimal.IsLiteralChar c) (b : Bool) :
    lower (String.ofList s) ≠ if b then "true" else "false" := by
  have hlower : lower (String.ofList s) = String.ofList (s.map Char.toLower) := by
    rw [lower, String.toList_ofList, lowerAfter_of_isAscii fun c hc => (hs c hc).toNat_lt]
  have hliteral : ∀ c ∈ (String.ofList (s.map Char.toLower)).toList, Decimal.IsLiteralChar c := by
    simpa using fun c hc => (hs c hc).toLower
  intro hword
  rw [← hlower, hword] at hliteral
  cases b with
  | true => exact absurd (hliteral 't' (by decide)) (by decide)
  | false => exact absurd (hliteral 'f' (by decide)) (by decide)

/-- **The text of a decimal is plain** if it is a whole number of 64 bits, or else that of its
nearest binary64. -/
theorem plain_chars {d : Decimal} (hzero : d.coefficient = 0 → d.exponent = 0 ∧ d.negative = false)
    (hnearest : intWithin? minInteger maxInteger (String.ofList d.chars) = none →
      d.spread.nearest.text = String.ofList d.chars) :
    plain (String.ofList d.chars) = String.ofList d.chars := by
  have hliteral := Decimal.isLiteralChar_of_ofChars?_eq_some (Decimal.ofChars?_chars d)
  unfold plain
  obtain ⟨b, hb, -⟩ | ⟨n, hn, h⟩ | ⟨x, hnone, hx, h⟩ | ⟨-, h⟩ := value_cases (String.ofList d.chars)
  · exact absurd hb (lower_ne_of_forall hliteral b)
  · rw [h]
    exact Decimal.intText_of_intWithin? hzero hn
  · rw [String.toList_ofList, Binary64.ofChars?, Decimal.ofChars?_chars] at hx
    obtain rfl := Option.some.inj hx
    rw [h]
    exact hnearest hnone
  · rw [h]

lemma plain_intText {n : Int} (hn : minInteger ≤ n ∧ n ≤ maxInteger) :
    plain (intText n) = intText n := by
  have hwhole : Decimal.whole (decide (n < 0)) n.natAbs = n := by
    simp only [Decimal.whole, decide_eq_true_eq]
    omega
  rw [intText_eq]
  refine plain_chars (fun h => ⟨rfl, ?_⟩) fun hnone => ?_
  · obtain rfl : n = 0 := Int.natAbs_eq_zero.1 h
    rfl
  · rw [Decimal.intWithin?_chars, hwhole, if_pos hn] at hnone
    exact nomatch hnone

lemma plain_text_of_finite {negative : Bool} {units : Nat} (hfits : Binary64.Representable units)
    (hminus : (Binary64.finite negative units hfits).text ≠ "-0") :
    plain (Binary64.finite negative units hfits).text =
      (Binary64.finite negative units hfits).text := by
  have hnearest := Binary64.nearest_decimal negative hfits
  refine plain_chars (fun h => ?_) fun _ => ?_
  · have hdecimal := Binary64.decimal_of_coefficient_eq_zero hfits h
    rw [hdecimal]
    refine ⟨rfl, ?_⟩
    cases negative with
    | false => rfl
    | true =>
      have htext : (Binary64.finite true units hfits).text = "-0" := by
        rw [Binary64.text, hdecimal]
        decide
      exact absurd htext hminus
  · rw [Decimal.nearest_spread (by rw [hnearest]; rfl), hnearest]
    rfl

/-- **Plain texts stay as they are**, other than `-0`. -/
theorem plain_plain {s : String} (h : plain s ≠ "-0") : plain (plain s) = plain s := by
  obtain ⟨b, -, hv⟩ | ⟨n, hn, hv⟩ | ⟨x, -, -, hv⟩ | ⟨-, hv⟩ := value_cases s
  · have hplain : plain s = if b then "true" else "false" := by rw [plain, hv]
    rw [hplain]
    cases b <;> decide +kernel
  · have hplain : plain s = intText n := by rw [plain, hv]
    rw [hplain]
    exact plain_intText (le_of_intWithin? hn)
  · have hplain : plain s = x.text := by rw [plain, hv]
    rw [hplain] at h ⊢
    cases x with
    | nan => decide +kernel
    | infinite negative => cases negative <;> decide +kernel
    | finite negative units hfits => exact plain_text_of_finite hfits h
  · have hplain : plain s = s := by rw [plain, hv]
    rw [hplain, hplain]

/-- **Which texts stay as they are**: the plain texts other than `-0`, which comes out as `0`. -/
theorem plain_eq_self_iff {s : String} :
    plain s = s ↔ s ≠ "-0" ∧ ∃ t, plain t = s := by
  constructor
  · intro h
    refine ⟨?_, s, h⟩
    rintro rfl
    exact absurd h (by decide +kernel)
  · rintro ⟨hminus, t, rfl⟩
    exact plain_plain hminus

/-- Leading zeros, plus signs, exponents and capital letters are lost. -/
example :
    ["007", "+5", "1e3", "TRUE", "-0.0", "12.50", "Nan"].map plain =
      ["7", "5", "1000", "true", "-0", "12.5", "NaN"] := by
  decide +kernel

end Config.Variable

end Sift
