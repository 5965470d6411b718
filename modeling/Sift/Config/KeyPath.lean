import Sift.Config.Value
import Sift.Text.Digits

set_option autoImplicit false
set_option relaxedAutoImplicit false

/-!
# Key paths

Keys that lead into tables and arrays: `engine.trace_enabled`, `rules[0]`. A key that is not of this
form is a key of the outermost table as it stands.

## Main definitions

* `Sift.Config.KeyPath.ofText`: the path that a key denotes.
* `Sift.Config.Value.assignAll`: keyed values on top of a value.
-/

namespace Sift.Config

namespace KeyPath

/-- A character of a name in a path. -/
def isNameChar (c : Char) : Bool :=
  c.isAlphanum || c == '_' || c == '-'

/-- The position in brackets at the start of a text, after the opening bracket, and what follows the
closing one. Blanks may stand around the position. -/
def index? (s : List Char) : Option (Int × List Char) :=
  let isBlank (c : Char) : Bool := c == ' ' || c == '\t'
  let (negative, unsigned) := match s.dropWhile isBlank with
    | '-' :: rest => (true, rest)
    | rest => (false, rest)
  match Text.nat? (unsigned.takeWhile Char.isDigit),
      (unsigned.dropWhile Char.isDigit).dropWhile isBlank with
  | some n, ']' :: rest =>
    let position : Int := if negative then -n else n
    if minInteger ≤ position ∧ position ≤ maxInteger then some (position, rest) else none
  | _, _ => none

/-- The steps after the first one. Every step takes at least one character, so `fuel` is enough if
it is the number of characters. -/
def stepsWithin : (fuel : Nat) → List Char → Option (List Value.Step)
  | _, [] => some []
  | 0, _ :: _ => none
  | fuel + 1, '.' :: s =>
    match s.takeWhile isNameChar with
    | [] => none
    | name => (stepsWithin fuel (s.dropWhile isNameChar)).map (.key (String.ofList name) :: ·)
  | fuel + 1, '[' :: s => do
    let (position, rest) ← index? s
    return .index position :: (← stepsWithin fuel rest)
  | _, _ => none

/-- The path that a text denotes: a name, then names after points and positions in brackets. -/
def ofChars? (s : List Char) : Option (List Value.Step) :=
  stepsWithin (s.length + 1) ('.' :: s)

/-- The path that a key denotes; a key that is no path is one step. -/
def ofText (key : String) : List Value.Step :=
  (ofChars? key.toList).getD [.key key]

end KeyPath

/-- Keyed values, one after the other, on top of a value. -/
def Value.assignAll (later : Table) (earlier : Value) : Value :=
  later.foldl (fun value (key, v) => Value.assign (KeyPath.ofText key) v (some value)) earlier

end Sift.Config
