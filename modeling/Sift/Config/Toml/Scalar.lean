import Sift.Config.Toml.Moment
import Sift.Config.Value
import Sift.Decimal.Literal

set_option autoImplicit false
set_option relaxedAutoImplicit false

/-!
# Scalar values of TOML

Truth values, numbers, dates and quoted texts.

## Main definitions

* `Sift.Config.Toml.scalar?`: the scalar at the start of the characters.
-/

namespace Sift.Config.Toml

/-- Digits without the underscores between them. Every underscore has a digit on both sides;
`afterDigit` tells whether there is one on the left. -/
def digits? (isDigit : Char → Bool) (afterDigit : Bool) : List Char → Option (List Char)
  | [] => if afterDigit then some [] else none
  | c :: rest =>
    if isDigit c then (digits? isDigit true rest).map (c :: ·)
    else if c = '_' ∧ afterDigit = true then digits? isDigit false rest
    else none

/-- Decimal digits without underscores; the first may be zero only if it is the only one. -/
def whole? (s : List Char) : Option (List Char) :=
  match digits? Char.isDigit false s with
  | some ('0' :: _ :: _) => none
  | digits => digits

/-- The whole number with a sign, if a configuration may hold it. -/
def integer? (negative : Bool) (n : Nat) : Option Value :=
  let value : Int := if negative then -n else n
  if minInteger ≤ value ∧ value ≤ maxInteger then some (.integer value) else none

/-- The whole number that digits in a base denote. -/
def inBase? (base : Nat) (s : List Char) : Option Value := do
  let isDigit (c : Char) : Bool := (Text.hexValue? c).any (· < base)
  integer? false (← Text.natOfDigitsIn? base (← digits? isDigit false s))

/-- The fraction and the power of ten after the whole part of a binary64, without underscores. -/
def fraction? (s : List Char) : Option (List Char) := do
  let isPower (c : Char) : Bool := c == 'e' || c == 'E'
  let places := s.takeWhile fun c => !isPower c
  let point ← match places with
    | '.' :: digits => ('.' :: ·) <$> digits? Char.isDigit false digits
    | [] => some []
    | _ => none
  let power ← match s.dropWhile fun c => !isPower c with
    | _ :: exponent =>
      let (negative, digits) := Text.signed exponent
      (fun ds => 'e' :: (if negative then '-' else '+') :: ds) <$> digits? Char.isDigit false digits
    | [] => some []
  return point ++ power

/-- The binary64 that an unsigned decimal denotes, if it is finite. -/
def float? (negative : Bool) (s : List Char) : Option Value := do
  let isWhole (c : Char) : Bool := c.isDigit || c == '_'
  let whole ← whole? (s.takeWhile isWhole)
  let rest ← fraction? (s.dropWhile isWhole)
  let x ← Binary64.ofChars? ((if negative then ['-'] else []) ++ whole ++ rest)
  if x.isFinite then some (.float x) else none

/-- The value of a scalar without quotes. -/
def bare? (s : List Char) : Option Value :=
  match String.ofList s with
  | "true" => some (.bool true)
  | "false" => some (.bool false)
  | _ =>
    match s with
    | '0' :: 'x' :: digits => inBase? 16 digits
    | '0' :: 'o' :: digits => inBase? 8 digits
    | '0' :: 'b' :: digits => inBase? 2 digits
    | _ =>
      let (negative, unsigned) := Text.signed s
      match String.ofList unsigned with
      | "inf" => some (.float (.infinite negative))
      | "nan" => some (.float .nan)
      | _ =>
        match whole? unsigned with
        | some digits => integer? negative (Text.natOfDigits digits)
        | none =>
          match moment? s with
          | some text => some (.text (String.ofList text))
          | none => float? negative unsigned

/-- A character of a scalar without quotes. -/
def isBareChar (c : Char) : Bool :=
  c.isAlphanum || c == '+' || c == '-' || c == '_' || c == '.' || c == ':'

/-- The characters of a scalar without quotes. A blank belongs to it where a date stands before and
a digit after it. -/
def bareChars (s : List Char) : Option (List Char × List Char) :=
  let word := s.takeWhile isBareChar
  let rest := s.dropWhile isBareChar
  match rest with
  | ' ' :: c :: more =>
    if c.isDigit && (date? word).any (·.2.isEmpty) then
      some (word ++ ' ' :: (c :: more).takeWhile isBareChar, (c :: more).dropWhile isBareChar)
    else some (word, rest)
  | _ => some (word, rest)

/-- The scalar at the start of the characters. -/
def scalar? (s : List Char) : Option (Value × List Char) :=
  match s with
  | '"' :: _ | '\x27' :: _ =>
    (quotedText? s).map fun (text, rest) => (.text (String.ofList text), rest)
  | _ => do
    let (word, rest) ← bareChars s
    return (← bare? word, rest)

end Sift.Config.Toml
