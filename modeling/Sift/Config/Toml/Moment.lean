import Sift.Config.Toml.Text

set_option autoImplicit false
set_option relaxedAutoImplicit false

/-!
# Dates and times of TOML

A date, a time of day, or both with an optional offset. Only their text is of use: with `T` between
date and time, and without needless zeros at the end of a fraction of a second.

## Main definitions

* `Sift.Config.Toml.moment?`: the text of a date or time.
-/

namespace Sift.Config.Toml

/-- A number of exactly `count` digits between `lo` and `hi`. -/
def number? (count lo hi : Nat) (s : List Char) : Option (Nat × List Char) := do
  let n ← Text.nat? (s.take count)
  if count ≤ s.length ∧ lo ≤ n ∧ n ≤ hi then some (n, s.drop count) else none

/-- The characters after one that has to come first. -/
def expect? (c : Char) : List Char → Option (List Char)
  | d :: rest => if d = c then some rest else none
  | [] => none

/-- The number of days of a month. -/
def daysIn (year month : Nat) : Nat :=
  if month = 2 then
    if year % 4 = 0 ∧ (year % 100 ≠ 0 ∨ year % 400 = 0) then 29 else 28
  else if [4, 6, 9, 11].contains month then 30
  else 31

/-- The text of a date at the start of the characters. -/
def date? (s : List Char) : Option (List Char × List Char) := do
  let (year, rest) ← number? 4 0 9999 s
  let (month, rest) ← number? 2 1 12 (← expect? '-' rest)
  let (_, rest) ← number? 2 1 (daysIn year month) (← expect? '-' rest)
  return (s.take 10, rest)

/-- The text of a fraction of a second, of which nine digits count. -/
def fractionText (digits : List Char) : List Char :=
  match ((digits.take 9).reverse.dropWhile (· == '0')).reverse with
  | [] => ['.', '0']
  | kept => '.' :: kept

/-- The text of a time of day at the start of the characters. The seconds may be left out. -/
def time? (s : List Char) : Option (List Char × List Char) := do
  let (_, rest) ← number? 2 0 23 s
  let (_, rest) ← number? 2 0 59 (← expect? ':' rest)
  match rest with
  | ':' :: rest =>
    let (_, rest) ← number? 2 0 60 rest
    match rest with
    | '.' :: fraction =>
      let digits := fraction.takeWhile Char.isDigit
      if digits.isEmpty then none
      else some (s.take 8 ++ fractionText digits, fraction.dropWhile Char.isDigit)
    | _ => some (s.take 8, rest)
  | _ => some (s.take 5, rest)

/-- The text of an offset that makes up all the characters, if there are any. No offset is
negative zero. -/
def offset? (s : List Char) : Option (List Char) :=
  match s with
  | [] => some []
  | ['Z'] => some ['Z']
  | ['z'] => some ['Z']
  | c :: rest =>
    if c = '+' ∨ c = '-' then do
      let (hours, more) ← number? 2 0 23 rest
      let (minutes, more) ← number? 2 0 59 (← expect? ':' more)
      if !more.isEmpty then none
      else if hours = 0 ∧ minutes = 0 then some ('+' :: rest)
      else some s
    else none

/-- The text of a date or time that makes up all the characters. -/
def moment? (s : List Char) : Option (List Char) :=
  match date? s with
  | some (date, []) => some date
  | some (date, c :: rest) =>
    if c = 'T' ∨ c = 't' ∨ c = ' ' then do
      let (time, rest) ← time? rest
      return date ++ 'T' :: time ++ (← offset? rest)
    else none
  | none =>
    match time? s with
    | some (time, []) => some time
    | _ => none

end Sift.Config.Toml
