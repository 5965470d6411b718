import Sift.Binary64.Arithmetic
import Sift.Decimal.Literal
import Sift.Json.Basic

set_option autoImplicit false
set_option relaxedAutoImplicit false

/-!
# Numerals

The numbers that the numerals of a JSON text denote. A numeral without a point and without a power
of ten is a whole number if it fits 64 bits. Any other numeral becomes a binary64 in a few steps,
each of which rounds: as many of its digits as fit 64 bits are taken as a whole number, and the
binary64 of this number is multiplied with a power of ten, or divided by powers of ten. The result
is near what is written, but it need not be the nearest binary64. A numeral of which the product is
infinite denotes nothing.

## Main definitions

* `Sift.Json.wordOfDigits`: the digits that fit 64 bits.
* `Sift.Binary64.timesPowerOfTen`: a number times a power of ten.
* `Sift.Number.ofLexeme?`: the number that a numeral denotes.
-/

namespace Sift

namespace Json

/-- The number that digits continue another one to, of which as many are taken as fit 64 bits, and
how many are left. -/
def wordOfDigits (n : Nat) : List Char → Nat × Nat
  | [] => (n, 0)
  | c :: rest =>
    let next := n * 10 + (c.toNat - '0'.toNat)
    if next < 18446744073709551616 then wordOfDigits next rest else (n, rest.length + 1)

/-- The whole number and the power of ten that stand for a numeral with the given digits before and
after the point. Digits after the point are tried even if some before it did not fit. -/
def significand (whole fraction : List Char) (power : Int) : Nat × Int :=
  let (n, left) := wordOfDigits 0 whole
  let (word, left') := wordOfDigits n fraction
  (word, power - fraction.length + left + left')

end Json

namespace Binary64

/-- The greatest power of ten that numbers are multiplied with or divided by. -/
def greatestPower : Nat :=
  308

/-- The binary64 nearest to a power of ten. -/
def powerOfTen (e : Nat) : Binary64 :=
  ofNat (10 ^ e)

/-- A number after some divisions by the greatest power of ten. Zero stays as it is. -/
def lowered : (times : Nat) → Binary64 → Binary64
  | 0, x => x
  | times + 1, x => if x.isZero then x else lowered times (x.div (powerOfTen greatestPower))

/-- A number times a power of ten, which is infinite if the power is too large. -/
def timesPowerOfTen (x : Binary64) : Int → Binary64
  | .ofNat e =>
    if e ≤ greatestPower then x.mul (powerOfTen e) else if x.isZero then x else .infinite false
  | .negSucc e => (lowered (e / greatestPower) x).div (powerOfTen (e % greatestPower + 1))

end Binary64

namespace Number

open Json

/-- The numeral is written as a whole number: without a point and without a power of ten. -/
def isWhole (lexeme : List Char) : Bool :=
  lexeme.all fun c => c != '.' && c != 'e' && c != 'E'

/-- The binary64 of a numeral with the given sign, digits before and after the point, and power of
ten. -/
def approximate (negative : Bool) (whole fraction : List Char) (power : Int) : Binary64 :=
  let (word, exponent) := significand whole fraction power
  ((Binary64.ofNat word).timesPowerOfTen exponent).withSign negative

/-- The number that a numeral denotes: a whole number if it is written as one, fits 64 bits and is
not a negative zero, and otherwise a binary64, unless that is infinite. -/
def ofLexeme? (lexeme : List Char) : Option Number :=
  let (negative, unsigned) := Text.signed lexeme
  let (digits, fraction, rest) := Decimal.mantissa unsigned
  match Decimal.power? rest with
  | none => none
  | some power =>
    let coefficient := Text.natOfDigits digits
    let value : Int := if negative then -coefficient else coefficient
    if h : isWhole lexeme = true ∧ IsWord value ∧ ¬(negative = true ∧ coefficient = 0) then
      some (.integer value h.2.1)
    else
      ofBinary64? (approximate negative digits fraction power)

end Number

end Sift
