import Sift.Json.Token

set_option autoImplicit false
set_option relaxedAutoImplicit false

/-!
# Written JSON

The text of a JSON value, without blanks between the tokens: the tokens of the value, each in its
usual spelling.

## Main definitions

* `Sift.Json.Token.chars`: the spelling of a token.
* `Sift.Json.toTokens`: the tokens of a value.
* `Sift.Json.written`: the text of a value.
-/

namespace Sift

namespace Json

/-! ## Spelling -/

/-- A hexadecimal digit in lower case. -/
def hexDigit (n : Nat) : Char :=
  Nat.digitChar n

/-- The spelling of a character between quotes. Quotes, backslashes and control characters are
escaped, the latter by one letter where there is one. -/
def quotedChar (c : Char) : List Char :=
  match c with
  | '"' => ['\\', '"']
  | '\\' => ['\\', '\\']
  | '\x08' => ['\\', 'b']
  | '\x0c' => ['\\', 'f']
  | '\n' => ['\\', 'n']
  | '\r' => ['\\', 'r']
  | '\t' => ['\\', 't']
  | c =>
    if c.toNat < 0x20 then
      ['\\', 'u', '0', '0', hexDigit (c.toNat / 16), hexDigit (c.toNat % 16)]
    else [c]

/-- The spelling of a text in quotes. -/
def quoted (s : List Char) : List Char :=
  '"' :: s.flatMap quotedChar ++ ['"']

end Json

/-- The spelling of a number. A number that is not kept as a whole number has a point, so that it is
read as the same kind of number again. -/
def Number.chars : Number → List Char
  | integer n _ => (Text.intText n).toList
  | float x _ => x.pointedText.toList

namespace Json

/-- The spelling of a token. Tokens that denote nothing are not written. -/
def Token.chars : Token → List Char
  | openArray => ['[']
  | closeArray => [']']
  | openObject => ['\x7b']
  | closeObject => ['\x7d']
  | comma => [',']
  | colon => [':']
  | null => ['n', 'u', 'l', 'l']
  | bool true => ['t', 'r', 'u', 'e']
  | bool false => ['f', 'a', 'l', 's', 'e']
  | number lexeme => lexeme
  | text (some s) => quoted s.toList
  | text none | broken .. => []

/-! ## The tokens of a value -/

mutual

/-- The tokens of a value. -/
def toTokens : Json → List Token
  | null => [.null]
  | bool b => [.bool b]
  | number n => [.number n.chars]
  | text s => [.text (some s)]
  | array elements => .openArray :: elementTokens elements ++ [.closeArray]
  | object members => .openObject :: memberTokens members ++ [.closeObject]

/-- The tokens of the elements of an array, with commas between the elements. -/
def elementTokens : List Json → List Token
  | [] => []
  | [v] => v.toTokens
  | v :: rest => v.toTokens ++ .comma :: elementTokens rest

/-- The tokens of the members of an object, with commas between the members. -/
def memberTokens : List (String × Json) → List Token
  | [] => []
  | [(name, v)] => .text (some name) :: .colon :: v.toTokens
  | (name, v) :: rest =>
    .text (some name) :: .colon :: v.toTokens ++ .comma :: memberTokens rest

end

/-- The text of a value. -/
def written (v : Json) : String :=
  String.ofList (v.toTokens.flatMap Token.chars)

end Json

end Sift
