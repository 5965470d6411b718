import Sift.Record.Numeral

set_option autoImplicit false
set_option relaxedAutoImplicit false

/-!
# Values of fields

What a field of a record amounts to when a rule looks at it: whether there is anything to look at,
which number it holds, and which text. A field may be missing, so the value of a field is optional.

## Main definitions

* `Sift.Field.isFalsy`: there is nothing to look at.
* `Sift.Field.amount`: the number that a field holds.
* `Sift.Json.shown`: the text that a value is searched in.
-/

namespace Sift

/-- A number of a record is zero, of either sign. -/
def Number.isZero (n : Number) : Bool :=
  n.toBinary64.isZero

namespace Field

/-- A field is missing, or it is `null`, `false`, zero or the empty text. -/
def isFalsy : Option Json → Bool
  | none => true
  | some .null => true
  | some (.bool b) => !b
  | some (.number n) => n.isZero
  | some (.text s) => s.isEmpty
  | some (.array _) => false
  | some (.object _) => false

/-- The number that a field holds: a number itself, the first number in a text, and zero for
anything else. -/
def amount (field : Option Json) : Binary64 :=
  if isFalsy field then .zero
  else
    match field with
    | some (.number n) => n.toBinary64
    | some (.text s) => Numeral.first s
    | _ => .zero

end Field

namespace Json

mutual

/-- The characters of `shown`. -/
def shownChars : Json → List Char
  | null => "null".toList
  | bool b => (if b then "true" else "false").toList
  | number n => n.text.toList
  | text s => s.toList
  | array elements => [','].intercalate (shownCharsOfAll elements)
  | object _ => "[object Object]".toList

/-- The characters of each of several values. -/
def shownCharsOfAll : List Json → List (List Char)
  | [] => []
  | v :: rest => v.shownChars :: shownCharsOfAll rest

end

@[simp] theorem shownChars_null : null.shownChars = "null".toList := rfl

@[simp] theorem shownChars_bool (b : Bool) :
    (bool b).shownChars = (if b then "true" else "false").toList := rfl

@[simp] theorem shownChars_number (n : Number) : (number n).shownChars = n.text.toList := rfl

@[simp] theorem shownChars_text (s : String) : (text s).shownChars = s.toList := rfl

@[simp] theorem shownChars_array (elements : List Json) :
    (array elements).shownChars = [','].intercalate (shownCharsOfAll elements) := rfl

@[simp] theorem shownChars_object (members : List (String × Json)) :
    (object members).shownChars = "[object Object]".toList := rfl

@[simp] theorem shownCharsOfAll_nil : shownCharsOfAll [] = [] := rfl

@[simp] theorem shownCharsOfAll_cons (v : Json) (rest : List Json) :
    shownCharsOfAll (v :: rest) = v.shownChars :: shownCharsOfAll rest := rfl

/-- The text that a value is searched in: a text is itself, a number its shortest text, an array its
elements with commas between them, and every object looks alike. -/
def shown (v : Json) : String :=
  String.ofList v.shownChars

end Json

end Sift
