import Sift.Text.Case

set_option autoImplicit false
set_option relaxedAutoImplicit false

/-!
# Camel case

The key under which a labelled property is stored: the label `Is Active` belongs to the key
`isActive`.

## Main definitions

* `Sift.Text.camel`: the key that belongs to a label.
-/

namespace Sift.Text

/-- A word with its first character in upper case. -/
def capitalized : List Char → List Char
  | [] => []
  | c :: cs => upperChar c ++ cs

/-- The characters of `camel`. -/
def camelChars : List Char → List Char
  | [] => []
  | c :: cs =>
    match (lowerChar c ++ cs).splitOn ' ' with
    | [] => []
    | word :: words => word ++ words.flatMap capitalized

/-- The key that belongs to a label: the first character in lower case, the first character of
every word after a space in upper case, all else as it is, and no spaces. -/
def camel (label : String) : String :=
  String.ofList (camelChars label.toList)

end Sift.Text
