import Sift.Binary64.Rounding

set_option autoImplicit false
set_option relaxedAutoImplicit false

/-!
# Decimal numbers

A decimal number as a sign, a whole number and a power of ten, and the binary64 nearest to it.

## Main definitions

* `Sift.Decimal`: a sign, a coefficient and an exponent.
* `Sift.Decimal.nearest`: the binary64 nearest to a decimal.
-/

namespace Sift

/-- The number `coefficient * 10 ^ exponent`, negated where `negative` holds. -/
structure Decimal where
  /-- Whether the number has a minus sign; zero may have one too. -/
  negative : Bool
  /-- The digits of the number, read as a whole number. -/
  coefficient : Nat
  /-- The power of ten that the coefficient is multiplied with. -/
  exponent : Int
deriving DecidableEq

namespace Decimal

/-- The binary64 nearest to a decimal, a tie going to the even neighbour; infinite where the decimal
is too large. The two outer conditions settle the decimals that are far too large or far too small
without writing out their power of ten: `10 ^ 309` exceeds every finite number, and a coefficient
below `2 ^ (b + 1)` divided by `10 ^ k`, which is more than `2 ^ (3 * k)`, is less than half a unit
when `b + 1080 < 3 * k`. -/
def nearest (d : Decimal) : Binary64 :=
  match d.exponent with
  | .ofNat e =>
    if d.coefficient = 0 then .signedZero d.negative
    else if 309 ≤ e then .infinite d.negative
    else .ofQuotient d.negative (d.coefficient * 10 ^ e * Binary64.unitsPerOne) 1
  | .negSucc e =>
    let k := e + 1
    if d.coefficient.log2 + 1080 < 3 * k then .signedZero d.negative
    else .ofQuotient d.negative (d.coefficient * Binary64.unitsPerOne) (10 ^ k)

end Decimal

end Sift
