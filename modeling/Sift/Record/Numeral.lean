import Sift.Decimal.Literal
import Sift.Text.Blank
import Sift.Json.Basic

set_option autoImplicit false
set_option relaxedAutoImplicit false

/-!
# Numbers in texts

Texts that are numbers, texts that begin with numbers or have one among their words, and the literal
values that the texts of a rule stand for.

## Main definitions

* `Sift.Numeral.read?`: the number that a whole text denotes.
* `Sift.Numeral.first`: the first number among the words of a text.
* `Sift.Literal`: a text taken at its true type, a number or a text.
-/

namespace Sift

namespace Numeral

/-- The number that a text denotes, blanks at its ends aside. Only finite numbers count: a literal
beyond the binary64 range denotes none. -/
def read? (s : String) : Option Binary64 :=
  ((Decimal.ofChars? (Text.trimChars s.toList)).map Decimal.nearest).filter Binary64.isFinite

/-- The number that a text denotes or else the number that the first of its words which is one
denotes; zero if there is none. -/
def first (s : String) : Binary64 :=
  match read? s with
  | some x => x
  | none => ((Text.words s).findSome? read?).getD .zero

end Numeral

/-- A text taken at its true type. -/
inductive Literal
  /-- A text that denotes a number. -/
  | number (value : Binary64)
  /-- Any other text. -/
  | text (value : String)
deriving DecidableEq

namespace Literal

/-- The literal that a text stands for. -/
def ofText (s : String) : Literal :=
  match Numeral.read? s with
  | some x => number x
  | none => text s

/-- A literal is the same as a value: numbers equal numbers and texts equal texts, and nothing
equals a value of another kind. -/
def isSame : Literal → Json → Bool
  | number x, .number n => n.toBinary64.eq x
  | text s, .text t => s == t
  | _, _ => false

/-- The literal is a number equal to the given one. -/
def isNumber (l : Literal) (x : Binary64) : Bool :=
  match l with
  | number y => y.eq x
  | text _ => false

/-- How a literal is shown. -/
def shown : Literal → String
  | number x => x.text
  | text s => s

end Literal

end Sift
