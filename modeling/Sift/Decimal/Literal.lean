import Sift.Decimal.Basic
import Sift.Text.Digits

set_option autoImplicit false
set_option relaxedAutoImplicit false

/-!
# Decimal literals

The notation in which texts write numbers: an optional sign; digits with an optional point among,
before or after them, at least one digit in all; and optionally `e` or `E` with an optionally signed
whole number, the power of ten.

## Main definitions

* `Sift.Decimal.ofChars?`: the decimal that a literal denotes.
* `Sift.Binary64.ofChars?`: the binary64 that a literal or a word for a special value denotes.
-/

namespace Sift

open Sift.Text

namespace Decimal

/-- Digits, an optional point and the digits after it, and what follows them. -/
def mantissa (s : List Char) : List Char × List Char × List Char :=
  let whole := s.takeWhile Char.isDigit
  match s.dropWhile Char.isDigit with
  | '.' :: rest => (whole, rest.takeWhile Char.isDigit, rest.dropWhile Char.isDigit)
  | rest => (whole, [], rest)

/-- The power of ten written after a mantissa: nothing, or `e` or `E` with an optional sign and
digits. -/
def power? : List Char → Option Int
  | [] => some 0
  | c :: rest =>
    if c = 'e' ∨ c = 'E' then
      let (negative, digits) := signed rest
      (nat? digits).map fun n => if negative then -(n : Int) else n
    else
      none

/-- The decimal that a literal denotes, or nothing if the characters are no literal. -/
def ofChars? (s : List Char) : Option Decimal :=
  let (negative, unsigned) := signed s
  let (whole, fraction, rest) := mantissa unsigned
  if whole.isEmpty && fraction.isEmpty then
    none
  else
    (power? rest).map fun power =>
      { negative, coefficient := natOfDigits (whole ++ fraction),
        exponent := power - fraction.length }

end Decimal

/-- The binary64 that a text denotes: the one nearest to a literal, or the special value that is
named by `inf`, `infinity` or `nan`, in any case and with an optional sign. -/
def Binary64.ofChars? (s : List Char) : Option Binary64 :=
  match Decimal.ofChars? s with
  | some d => some d.nearest
  | none =>
    let (negative, word) := signed s
    match String.ofList (word.map Char.toLower) with
    | "inf" | "infinity" => some (.infinite negative)
    | "nan" => some .nan
    | _ => none

end Sift
