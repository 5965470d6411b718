import Sift.Json.Numeral

set_option autoImplicit false
set_option relaxedAutoImplicit false

/-!
# JSON tokens

The lexical units of a JSON text, and the division of a text into them. A text and a number may be
well formed and yet denote nothing: a text with half of a surrogate pair, or a number beyond the
binary64 range. Such tokens are kept, because a reader may skip them: a text without a value, and
every number as it is written.

## Main definitions

* `Sift.Json.Fault`: the ways in which a text can fail to be what is expected.
* `Sift.Json.Token`: a lexical unit.
* `Sift.Json.tokens`: the tokens of a text; if some lexeme is broken, the last token says so.
-/

namespace Sift.Json

/-- Why a text is not accepted. -/
inductive Fault
  /-- The text ends too early. -/
  | unfinished
  /-- The text is not JSON. -/
  | malformed
  /-- The text is JSON of another shape than the one expected. -/
  | unsuitable
deriving DecidableEq

/-- A lexical unit of a JSON text. -/
inductive Token
  /-- An opening bracket. -/
  | openArray
  /-- A closing bracket. -/
  | closeArray
  /-- An opening brace. -/
  | openObject
  /-- A closing brace. -/
  | closeObject
  /-- A comma. -/
  | comma
  /-- A colon. -/
  | colon
  /-- The word `null`. -/
  | null
  /-- The word `true` or the word `false`. -/
  | bool (value : Bool)
  /-- A number as it is written. -/
  | number (lexeme : List Char)
  /-- A quoted text, if it has no unpaired surrogates. -/
  | text (value : Option String)
  /-- The beginning of a lexeme that goes wrong, inside quotes or elsewhere. -/
  | broken (quoted : Bool) (fault : Fault)
deriving DecidableEq

/-- The characters that may stand between tokens. -/
def isSeparator (c : Char) : Bool :=
  c == ' ' || c == '\t' || c == '\n' || c == '\r'

/-! ## Quoted texts -/

/-- The character that a backslash and one other character stand for. -/
def escaped? (c : Char) : Option Char :=
  match c with
  | '"' => some '"'
  | '\\' => some '\\'
  | '/' => some '/'
  | 'b' => some '\x08'
  | 'f' => some '\x0c'
  | 'n' => some '\n'
  | 'r' => some '\r'
  | 't' => some '\t'
  | _ => none

/-- What stands after an opening quote. -/
inductive QuotedScan
  /-- Code points or halves of surrogate pairs up to a closing quote, and the number of characters
  they take, the quote included. -/
  | closed (units : List Nat) (length : Nat)
  /-- No text in quotes. -/
  | broken (fault : Fault)

/-- One more unit, written with the given number of characters, in front. -/
def QuotedScan.push (unit width : Nat) : QuotedScan → QuotedScan
  | closed units length => closed (unit :: units) (width + length)
  | broken fault => broken fault

/-- Read a quoted text after its opening quote. Four octets have to follow `\u`, or the text is
unfinished rather than malformed. -/
def scanQuoted : List Char → QuotedScan
  | [] => .broken .unfinished
  | ['\\'] => .broken .unfinished
  | '"' :: _ => .closed [] 1
  | '\\' :: 'u' :: a :: b :: c :: d :: rest =>
    match Text.natOfDigitsIn? 16 [a, b, c, d] with
    | some unit => (scanQuoted rest).push unit 6
    | none => .broken .malformed
  | '\\' :: 'u' :: rest =>
    .broken (if (String.ofList rest).utf8ByteSize < 4 then .unfinished else .malformed)
  | '\\' :: c :: rest =>
    match escaped? c with
    | some unit => (scanQuoted rest).push unit.toNat 2
    | none => .broken .malformed
  | c :: rest =>
    if c.toNat < 0x20 then .broken .malformed else (scanQuoted rest).push c.toNat 1

/-- The first half of a surrogate pair. -/
def isHighSurrogate (unit : Nat) : Bool :=
  0xD800 ≤ unit && unit < 0xDC00

/-- The second half of a surrogate pair. -/
def isLowSurrogate (unit : Nat) : Bool :=
  0xDC00 ≤ unit && unit < 0xE000

/-- The characters that code points and surrogate pairs denote, if every half of a pair has the
other half beside it. -/
def charsOfUnits? : List Nat → Option (List Char)
  | [] => some []
  | [unit] => if isHighSurrogate unit || isLowSurrogate unit then none else some [Char.ofNat unit]
  | unit :: next :: rest =>
    if isHighSurrogate unit then
      if isLowSurrogate next then
        (charsOfUnits? rest).map
          (Char.ofNat (0x10000 + (unit - 0xD800) * 0x400 + (next - 0xDC00)) :: ·)
      else none
    else if isLowSurrogate unit then none
    else (charsOfUnits? (next :: rest)).map (Char.ofNat unit :: ·)

/-! ## Words and numbers -/

/-- A word whose first character has been read, and the number of characters after that one. -/
def scanWord (token : Token) (expected rest : List Char) : Token × Nat :=
  if expected.isPrefixOf rest then (token, expected.length)
  else (.broken false (if rest.isPrefixOf expected then .unfinished else .malformed), 0)

/-- The number of digits at the start of a text, of which there has to be one. -/
def digitRun (s : List Char) : Except Fault Nat :=
  match s.takeWhile Char.isDigit with
  | [] => .error (if s.isEmpty then .unfinished else .malformed)
  | digits => .ok digits.length

/-- The length of the whole part of a number: digits, of which the first may be zero only if it is
the only one. -/
def wholeRun (s : List Char) : Except Fault Nat :=
  match s.takeWhile Char.isDigit with
  | '0' :: _ :: _ => .error .malformed
  | _ => digitRun s

/-- The length of an optional point with digits after it. -/
def fractionRun : List Char → Except Fault Nat
  | '.' :: rest => (digitRun rest).map (· + 1)
  | _ => .ok 0

/-- The length of an optional `e` or `E` with an optional sign and digits after it. -/
def powerRun : List Char → Except Fault Nat
  | c :: rest =>
    if c = 'e' ∨ c = 'E' then
      match rest with
      | '+' :: digits => (digitRun digits).map (· + 2)
      | '-' :: digits => (digitRun digits).map (· + 2)
      | digits => (digitRun digits).map (· + 1)
    else .ok 0
  | [] => .ok 0

/-- The length of the number at the start of a text. -/
def numberRun (s : List Char) : Except Fault Nat := do
  let sign := if s.head? = some '-' then 1 else 0
  let whole ← wholeRun (s.drop sign)
  let fraction ← fractionRun (s.drop (sign + whole))
  let power ← powerRun (s.drop (sign + whole + fraction))
  return sign + whole + fraction + power

/-! ## The tokens of a text -/

/-- The token that starts with the character `c`, which is no separator, and the number of further
characters it takes from `rest`. -/
def scan (c : Char) (rest : List Char) : Token × Nat :=
  match c with
  | '[' => (.openArray, 0)
  | ']' => (.closeArray, 0)
  | '\x7b' => (.openObject, 0)
  | '\x7d' => (.closeObject, 0)
  | ',' => (.comma, 0)
  | ':' => (.colon, 0)
  | 'n' => scanWord .null ['u', 'l', 'l'] rest
  | 't' => scanWord (.bool true) ['r', 'u', 'e'] rest
  | 'f' => scanWord (.bool false) ['a', 'l', 's', 'e'] rest
  | '"' =>
    match scanQuoted rest with
    | .closed units length => (.text ((charsOfUnits? units).map String.ofList), length)
    | .broken fault => (.broken true fault, 0)
  | c =>
    if c = '-' ∨ c.isDigit then
      match numberRun (c :: rest) with
      | .ok length => (.number ((c :: rest).take length), length - 1)
      | .error fault => (.broken false fault, 0)
    else
      (.broken false .malformed, 0)

/-- The tokens of a text of which the first `skip` characters belong to a token already read. -/
def tokensFrom : (skip : Nat) → List Char → List Token
  | _, [] => []
  | skip + 1, _ :: rest => tokensFrom skip rest
  | 0, c :: rest =>
    if isSeparator c then tokensFrom 0 rest
    else
      match scan c rest with
      | (.broken quoted fault, _) => [.broken quoted fault]
      | (token, length) => token :: tokensFrom length rest

/-- The tokens of a text, up to and including the first broken one. -/
def tokens (text : String) : List Token :=
  tokensFrom 0 text.toList

end Sift.Json
