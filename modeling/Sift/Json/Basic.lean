import Sift.Decimal.Shortest

set_option autoImplicit false
set_option relaxedAutoImplicit false

/-!
# JSON values

The values that records are made of. A number keeps the distinction between the two ways in which it
can be written: a whole number that fits 64 bits is kept exactly, with or without a sign, and every
other number is a binary64.

## Main definitions

* `Sift.Number`: a number of a JSON text.
* `Sift.Number.toBinary64`: the number as it takes part in comparisons.
* `Sift.Json`: a JSON value.
-/

namespace Sift

/-- The whole numbers that fit 64 bits, read with or without a sign. -/
def IsWord (n : Int) : Prop :=
  -9223372036854775808 ≤ n ∧ n < 18446744073709551616

instance (n : Int) : Decidable (IsWord n) :=
  inferInstanceAs (Decidable (_ ∧ _))

/-- A number of a JSON text. -/
inductive Number
  /-- A number written as a whole number that fits 64 bits. -/
  | integer (value : Int) (isWord : IsWord value)
  /-- Any other number, which is finite. -/
  | float (value : Binary64) (isFinite : value.isFinite = true)
deriving DecidableEq

namespace Number

/-- The number as it takes part in comparisons and arithmetic. -/
def toBinary64 : Number → Binary64
  | integer n _ => .ofInt n
  | float x _ => x

/-- The text of a number: all digits of a whole number, the shortest text of any other. -/
def text : Number → String
  | integer n _ => Text.intText n
  | float x _ => x.text

/-- The number that a binary64 is, if it is finite. -/
def ofBinary64? (x : Binary64) : Option Number :=
  if h : x.isFinite = true then some (.float x h) else none

end Number

/-- A JSON value. The members of an object are listed with their names. -/
inductive Json
  /-- The value `null`. -/
  | null
  /-- A truth value. -/
  | bool (value : Bool)
  /-- A number. -/
  | number (value : Number)
  /-- A text. -/
  | text (value : String)
  /-- A sequence of values. -/
  | array (elements : List Json)
  /-- Named values. -/
  | object (members : List (String × Json))

namespace Json

instance : Inhabited Json := ⟨null⟩

/-- The member of an object with a given name. -/
def member? (name : String) : Json → Option Json
  | object members => members.lookup name
  | _ => none

/-- The whole number `n`; one that does not fit 64 bits becomes the nearest binary64, or `null`
where that is infinite. -/
def ofInt (n : Int) : Json :=
  if h : IsWord n then number (.integer n h)
  else ((Number.ofBinary64? (.ofInt n)).map number).getD null

end Json

end Sift
