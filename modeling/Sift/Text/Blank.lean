set_option autoImplicit false
set_option relaxedAutoImplicit false

/-!
# Blank characters

The characters that separate words, and the two things that are done with them: cutting them off
both ends of a text, and dividing a text into its words.

## Main definitions

* `Sift.Text.isBlank`: the characters with the Unicode property White_Space.
* `Sift.Text.trim`: a text without the blanks at its two ends.
* `Sift.Text.words`: the maximal blank-free runs of a text, from left to right.
-/

namespace Sift.Text

/-- A character has the Unicode property White_Space. -/
def isBlank (c : Char) : Bool :=
  let n := c.toNat
  (9 ≤ n && n ≤ 13) || n == 0x20 || n == 0x85 || n == 0xA0 || n == 0x1680 ||
    (0x2000 ≤ n && n ≤ 0x200A) || n == 0x2028 || n == 0x2029 || n == 0x202F || n == 0x205F ||
    n == 0x3000

/-- The characters of a text without the blanks before the first and after the last other
character. -/
def trimChars (s : List Char) : List Char :=
  ((s.dropWhile isBlank).reverse.dropWhile isBlank).reverse

/-- A text without the blanks at its two ends. -/
def trim (s : String) : String :=
  String.ofList (trimChars s.toList)

/-- A text that holds nothing but blanks, or nothing at all. -/
def allBlank (s : String) : Bool :=
  s.toList.all isBlank

/-- The maximal runs of characters that are not blank. -/
def wordChars (s : List Char) : List (List Char) :=
  (s.splitOnP isBlank).filter (!·.isEmpty)

/-- The words of a text: its maximal blank-free runs, from left to right. -/
def words (s : String) : List String :=
  (wordChars s.toList).map String.ofList

end Sift.Text
