import Sift.Decimal.Basic
import Sift.Text.Digits

set_option autoImplicit false
set_option relaxedAutoImplicit false

/-!
# Shortest decimal texts

The text of a binary64 is the decimal with the fewest digits whose nearest binary64 is the number
itself; of two such decimals with equally many digits, the one nearer to the number, and the larger
one if both are equally near. It is written positionally, without an exponent and without a point
that no digit follows.

## Main definitions

* `Sift.Decimal.shortest`: the decimal that stands for a count of units.
* `Sift.Decimal.text`: a decimal written positionally.
* `Sift.Binary64.text`: the text of a binary64.
-/

namespace Sift

open Sift.Text

namespace Decimal

/-- The zeros between the point and the first other digit of a number of units below one, of which
there are at most `fuel`. -/
def zerosAfterPoint : (fuel units : Nat) → Nat
  | 0, _ => 0
  | fuel + 1, units =>
    if Binary64.unitsPerOne ≤ units * 10 then 0 else zerosAfterPoint fuel (units * 10) + 1

/-- The power of ten of the first significant digit of a positive number of units. No binary64 has
more than 323 zeros after the point. -/
def leadingPower (units : Nat) : Int :=
  if Binary64.unitsPerOne ≤ units then
    (digitsOfNat (units / Binary64.unitsPerOne)).length - 1
  else
    -(zerosAfterPoint 323 units + 1)

/-- The quotient of a number of units by a power of ten, as a numerator and a denominator. -/
def scaled (units : Nat) (power : Int) : Nat × Nat :=
  match power with
  | .ofNat p => (units, Binary64.unitsPerOne * 10 ^ p)
  | .negSucc p => (units * 10 ^ (p + 1), Binary64.unitsPerOne)

/-- The decimal that follows `n * 10 ^ power` among those with the given number of digits, written
with the fewest digits. -/
def next (digits n : Nat) (power : Int) : Decimal :=
  if n + 1 = 10 ^ digits then ⟨false, 1, power + digits⟩ else ⟨false, n + 1, power⟩

/-- The decimal with the given number of digits that stands for a number of units: of its two
neighbours on the grid of such decimals one whose nearest binary64 it is, and the nearer one if both
are. -/
def withDigits? (units digits : Nat) : Option Decimal :=
  let power := leadingPower units - digits + 1
  let (num, den) := scaled units power
  let below : Decimal := ⟨false, num / den, power⟩
  let above := next digits (num / den) power
  let standsFor (d : Decimal) : Bool := d.nearest.position? == some (units : Int)
  let order := if 2 * (num % den) < den then [below, above] else [above, below]
  order.find? standsFor

/-- The decimal with the fewest digits that stands for a number of units. Seventeen digits are
enough for every binary64; the last alternative is the exact decimal value. -/
def shortest (units : Nat) : Decimal :=
  ((List.range 17).findSome? fun i => withDigits? units (i + 1)).getD
    ⟨false, units * 5 ^ Binary64.places, -Binary64.places⟩

/-- Digits with the point before the last `places` of them, and a zero before a leading point. -/
def withPoint (digits : List Char) (places : Nat) : List Char :=
  if places < digits.length then
    digits.take (digits.length - places) ++ '.' :: digits.drop (digits.length - places)
  else
    '0' :: '.' :: (List.replicate (places - digits.length) '0' ++ digits)

/-- The characters of a decimal written positionally: trailing zeros in place of a positive power
of ten, a point in place of a negative one. -/
def chars (d : Decimal) : List Char :=
  let digits := digitsOfNat d.coefficient
  let unsigned := match d.exponent with
    | .ofNat e => digits ++ List.replicate e '0'
    | .negSucc e => withPoint digits (e + 1)
  if d.negative then '-' :: unsigned else unsigned

end Decimal

/-- The decimal that stands for a finite number of units. -/
def Binary64.decimal (negative : Bool) (units : Nat) : Decimal :=
  if units = 0 then ⟨negative, 0, 0⟩ else { Decimal.shortest units with negative }

/-- The text of a binary64. -/
def Binary64.text : Binary64 → String
  | .nan => "NaN"
  | .infinite negative => if negative then "-inf" else "inf"
  | .finite negative units _ => String.ofList (Binary64.decimal negative units).chars

/-- The text of a binary64 with a point in it, so that it does not look like a whole number. -/
def Binary64.pointedText (x : Binary64) : String :=
  let chars := x.text.toList
  String.ofList (if chars.contains '.' then chars else chars ++ ['.', '0'])

end Sift
