set_option autoImplicit false
set_option relaxedAutoImplicit false

/-!
# Binary floating point numbers of 64 bits

The numbers of the IEEE 754 format binary64 as a type of their own, with their order. Every finite
number of the format is a whole multiple of its smallest positive number `2 ^ (-1074)`, so a finite
number is a sign and a natural number of these units. What makes a natural number the magnitude of
a binary64 is that it has at most 53 significant bits and stays below `2 ^ 1024`, which is
`2 ^ 2098` units.

## Main definitions

* `Sift.Binary64`: not a number, an infinity, or a sign with a representable count of units.
* `Sift.Binary64.position?`: the place of a number on the line of integers, in units.
* `Sift.Binary64.eq`, `Sift.Binary64.lt`: comparison of numbers; a comparison that involves not a
  number fails.
-/

namespace Sift

/-- Powers of natural numbers are those of the core library, also where an algebraic structure
offers its own. -/
scoped instance (priority := 2000) natPow : Pow Nat Nat := instPowNat

namespace Binary64

/-- The binary digits of a unit after the point. -/
def places : Nat := 1074

/-- The count of units that equals one. -/
def unitsPerOne : Nat := 2 ^ places

/-- The count of units that equals `2 ^ 1024`, which the finite numbers stay below. -/
def limit : Nat := 2 ^ (1024 + places)

/-- A count of units that fits the format: at most 53 significant bits, and below the limit. -/
def Representable (units : Nat) : Prop :=
  units < limit ∧ 2 ^ (units.log2 - 52) ∣ units

instance (units : Nat) : Decidable (Representable units) :=
  inferInstanceAs (Decidable (_ ∧ _))

theorem representable_zero : Representable 0 :=
  ⟨Nat.two_pow_pos _, Nat.dvd_zero _⟩

end Binary64

/-- A number of the format binary64. Zero has two forms, which differ in their sign. -/
inductive Binary64
  /-- The result of an operation that has none. -/
  | nan
  /-- The value beyond all finite ones, on either side. -/
  | infinite (negative : Bool)
  /-- A number of units of `2 ^ (-1074)`, on either side of zero. -/
  | finite (negative : Bool) (units : Nat) (fits : Binary64.Representable units)
deriving DecidableEq

namespace Binary64

/-- Zero, with either sign. -/
def signedZero (negative : Bool) : Binary64 :=
  .finite negative 0 representable_zero

/-- The zero without a minus sign. -/
def zero : Binary64 :=
  signedZero false

/-- A number with a given sign instead of its own. -/
def withSign (negative : Bool) : Binary64 → Binary64
  | nan => nan
  | infinite _ => infinite negative
  | finite _ units fits => finite negative units fits

/-- The number is neither infinite nor not a number. -/
def isFinite : Binary64 → Bool
  | finite .. => true
  | _ => false

/-- The place of a number on the line of integers, counted in units. The infinities stand at the
limit, beyond all finite numbers; only not a number has no place. -/
def position? : Binary64 → Option Int
  | nan => none
  | infinite negative => some (if negative then -limit else limit)
  | finite negative units _ => some (if negative then -units else units)

/-- Two numbers have the same place. The two zeros are equal, and not a number equals nothing. -/
def eq (x y : Binary64) : Bool :=
  match x.position?, y.position? with
  | some a, some b => a == b
  | _, _ => false

/-- The first number lies below the second. Not a number lies below nothing and above nothing. -/
def lt (x y : Binary64) : Bool :=
  match x.position?, y.position? with
  | some a, some b => a < b
  | _, _ => false

/-- The number is one of the two zeros. -/
def isZero (x : Binary64) : Bool :=
  x.position? == some 0

end Binary64

end Sift
