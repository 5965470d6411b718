set_option autoImplicit false
set_option relaxedAutoImplicit false

/-!
# Texts in pieces

Dividing a text at every occurrence of a separator, joining pieces again, and looking for one text
inside another.

## Main definitions

* `Sift.Text.pieces`: the pieces of a text between the occurrences of a separator.
* `Sift.Text.occursIn`: one list of characters is a contiguous part of another.
-/

namespace Sift.Text

/-- The pieces of a text between the occurrences of a separator. There is one piece more than
there are separators, so a text without a separator is its own only piece. -/
def pieces (separator : Char) (s : String) : List String :=
  (s.toList.splitOn separator).map String.ofList

/-- Whether `needle` is a contiguous part of the second list. -/
def occursIn (needle : List Char) : List Char → Bool
  | [] => needle.isEmpty
  | c :: cs => needle.isPrefixOf (c :: cs) || occursIn needle cs

/-- Whether the text `needle` occurs in `hay`. -/
def contains (hay needle : String) : Bool :=
  occursIn needle.toList hay.toList

end Sift.Text
