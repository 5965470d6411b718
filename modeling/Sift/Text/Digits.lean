set_option autoImplicit false
set_option relaxedAutoImplicit false

/-!
# Digits

Numbers written in the ASCII digits, most significant digit first.

## Main definitions

* `Sift.Text.natOfDigits`: the number that a run of decimal digits denotes.
* `Sift.Text.digitsOfNat`: the shortest run of decimal digits of a number.
* `Sift.Text.hexValue?`: the value of a hexadecimal digit.
* `Sift.Text.signed`: an optional sign and what follows it.
-/

namespace Sift.Text

/-- The number that a run of decimal digits denotes; no digits denote zero. -/
def natOfDigits (digits : List Char) : Nat :=
  Nat.ofDigitChars 10 digits 0

/-- The decimal digits of a number, without leading zeros. -/
def digitsOfNat (n : Nat) : List Char :=
  Nat.toDigits 10 n

/-- The decimal text of an integer, with a minus sign in front of a negative one. -/
def intText (n : Int) : String :=
  String.ofList (if n < 0 then '-' :: digitsOfNat n.natAbs else digitsOfNat n.natAbs)

/-- The value of a hexadecimal digit, in either case. -/
def hexValue? (c : Char) : Option Nat :=
  if '0' ≤ c ∧ c ≤ '9' then some (c.toNat - '0'.toNat)
  else if 'a' ≤ c ∧ c ≤ 'f' then some (c.toNat - 'a'.toNat + 10)
  else if 'A' ≤ c ∧ c ≤ 'F' then some (c.toNat - 'A'.toNat + 10)
  else none

/-- The number that a run of digits in a base up to sixteen denotes, if every character is a digit
of that base. -/
def natOfDigitsIn? (base : Nat) (digits : List Char) : Option Nat :=
  digits.foldlM (fun n c => do
    let d ← hexValue? c
    if d < base then some (n * base + d) else none) 0

/-- An optional sign, as whether it is a minus, and the characters after it. -/
def signed : List Char → Bool × List Char
  | '-' :: rest => (true, rest)
  | '+' :: rest => (false, rest)
  | s => (false, s)

/-- The number denoted by one or more decimal digits and nothing else. -/
def nat? (s : List Char) : Option Nat :=
  if !s.isEmpty && s.all Char.isDigit then some (natOfDigits s) else none

/-- The number below `2 ^ 64` denoted by an optional plus sign and one or more decimal digits. -/
def word? (s : String) : Option Nat :=
  let digits := match s.toList with
    | '+' :: rest => rest
    | s => s
  (nat? digits).filter (· < 18446744073709551616)

/-- The integer denoted by an optional sign and one or more decimal digits, if it lies between
`lo` and `hi`. -/
def intWithin? (lo hi : Int) (s : String) : Option Int :=
  let (negative, digits) := signed s.toList
  match nat? digits with
  | some n =>
    let value : Int := if negative then -n else n
    if lo ≤ value ∧ value ≤ hi then some value else none
  | none => none

end Sift.Text
