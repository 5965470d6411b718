import Sift.Binary64.Rounding

set_option autoImplicit false
set_option relaxedAutoImplicit false

/-!
# Products and quotients of binary64 numbers

Multiplication and division: the exact result, rounded once. Where there is no exact result the
rules of IEEE 754 for infinities and zeros apply, and the sign of every other result is the product
of the signs.

## Main definitions

* `Sift.Binary64.mul`, `Sift.Binary64.div`.
* `Sift.Binary64.one`: the neutral factor.
-/

namespace Sift.Binary64

/-- The number one. -/
def one : Binary64 :=
  ofInt 1

/-- The product of two numbers. Infinity times zero is not a number. -/
def mul : Binary64 → Binary64 → Binary64
  | nan, _ => nan
  | _, nan => nan
  | infinite s, infinite t => infinite (s != t)
  | infinite s, finite t units _ => if units = 0 then nan else infinite (s != t)
  | finite s units _, infinite t => if units = 0 then nan else infinite (s != t)
  | finite s a _, finite t b _ => ofQuotient (s != t) (a * b) unitsPerOne

/-- The quotient of two numbers. Zero by zero and infinity by infinity are not a number; anything
else by zero is infinite, and a finite number by infinity is zero. -/
def div : Binary64 → Binary64 → Binary64
  | nan, _ => nan
  | _, nan => nan
  | infinite _, infinite _ => nan
  | infinite s, finite t _ _ => infinite (s != t)
  | finite s _ _, infinite t => signedZero (s != t)
  | finite s a _, finite t b _ =>
    if b = 0 then
      if a = 0 then nan else infinite (s != t)
    else
      ofQuotient (s != t) (a * unitsPerOne) b

end Sift.Binary64
