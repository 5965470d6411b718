import Sift.Text.CaseMapping
import Sift.Text.CaseClass

set_option autoImplicit false
set_option relaxedAutoImplicit false

/-!
# Letter case

The case mappings of characters and the lower-case form of a whole text. Mapping a text is not
mapping its characters one by one: a capital sigma becomes `ς` at the end of a word and `σ`
elsewhere.

## Main definitions

* `Sift.Text.lowerChar`, `Sift.Text.upperChar`: the mappings of one character, which may yield
  several.
* `Sift.Text.lower`: the lower-case form of a text.
* `Sift.Text.eqIgnoringAsciiCase`: equality up to the case of the letters `A` to `Z`.
-/

namespace Sift.Text

/-- The image of a code point under the first run that holds it. -/
def imageIn (runs : List CaseRun) (n : Nat) : Option Nat :=
  runs.findSome? (·.image? n)

/-- The lower-case mapping of a character on its own. Only the dotted capital I yields two
characters. -/
def lowerChar (c : Char) : List Char :=
  if c = 'İ' then
    ['i', '\u0307']
  else
    match imageIn lowerRuns c.toNat with
    | some n => [Char.ofNat n]
    | none => [c]

/-- The upper-case mapping of a character on its own, up to three characters long. -/
def upperChar (c : Char) : List Char :=
  match upperExpansions.lookup c.toNat with
  | some image => image.map Char.ofNat
  | none =>
    match imageIn upperRuns c.toNat with
    | some n => [Char.ofNat n]
    | none => [c]

/-- Whether the first character that is not case-ignorable is cased. -/
def startsCased (s : List Char) : Bool :=
  match s.dropWhile isCaseIgnorable with
  | [] => false
  | c :: _ => isCased c

/-- The lower-case form of a capital sigma between the characters `before`, nearest first, and
`after`: it is final where a cased word ends with it. -/
def lowerSigma (before after : List Char) : Char :=
  if startsCased before && !startsCased after then 'ς' else 'σ'

/-- The lower-case form of the characters that follow `before`, of which the nearest comes
first. -/
def lowerAfter (before : List Char) : List Char → List Char
  | [] => []
  | c :: rest =>
    (if c = 'Σ' then [lowerSigma before rest] else lowerChar c) ++ lowerAfter (c :: before) rest

/-- The lower-case form of a text. -/
def lower (s : String) : String :=
  String.ofList (lowerAfter [] s.toList)

/-- Two texts agree up to the case of the letters `A` to `Z`. -/
def eqIgnoringAsciiCase (s t : String) : Bool :=
  s.toList.map Char.toLower == t.toList.map Char.toLower

end Sift.Text
