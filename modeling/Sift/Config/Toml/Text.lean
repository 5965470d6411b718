import Sift.Text.Digits

set_option autoImplicit false
set_option relaxedAutoImplicit false

/-!
# Texts and keys of TOML

The four kinds of quoted texts and the keys that stand in front of values. Every reader takes the
characters from where its lexeme begins or goes on, and yields what was read and the characters
after it.

## Main definitions

* `Sift.Config.Toml.quotedText?`: a quoted text of any kind.
* `Sift.Config.Toml.keys?`: the parts of a dotted key.
-/

namespace Sift.Config.Toml

/-- One more character in front of what was read. -/
def push (c : Char) (read : Option (List Char × List Char)) : Option (List Char × List Char) :=
  read.map fun (text, rest) => (c :: text, rest)

/-- A blank within a line. -/
def isBlank (c : Char) : Bool :=
  c == ' ' || c == '\t'

/-- The characters after the blanks at the start. -/
def skipBlanks (s : List Char) : List Char :=
  s.dropWhile isBlank

/-- A control character, which no text and no comment holds; tabs are not among them. -/
def isControl (c : Char) : Bool :=
  (c.toNat < 0x20 && c != '\t') || c.toNat == 0x7F

/-! ## Quoted texts -/

/-- The character that a backslash and one other character stand for. -/
def escaped? (c : Char) : Option Char :=
  match c with
  | 'b' => some '\x08'
  | 't' => some '\t'
  | 'n' => some '\n'
  | 'f' => some '\x0c'
  | 'r' => some '\r'
  | 'e' => some '\x1b'
  | '"' => some '"'
  | '\\' => some '\\'
  | _ => none

/-- The character with the code point that hexadecimal digits denote. -/
def charOfHex? (digits : List Char) : Option Char := do
  let n ← Text.natOfDigitsIn? 16 digits
  if n.isValidChar then some (Char.ofNat n) else none

/-- A text in double quotes, after the opening quote. -/
def basic? : List Char → Option (List Char × List Char)
  | '"' :: rest => some ([], rest)
  | '\\' :: 'x' :: a :: b :: rest => do
    push (← charOfHex? [a, b]) (basic? rest)
  | '\\' :: 'u' :: a :: b :: c :: d :: rest => do
    push (← charOfHex? [a, b, c, d]) (basic? rest)
  | '\\' :: 'U' :: a :: b :: c :: d :: e :: f :: g :: h :: rest => do
    push (← charOfHex? [a, b, c, d, e, f, g, h]) (basic? rest)
  | '\\' :: c :: rest => do push (← escaped? c) (basic? rest)
  | c :: rest => if isControl c || c == '\\' then none else push c (basic? rest)
  | [] => none

/-- A text in single quotes, after the opening quote. -/
def literal? : List Char → Option (List Char × List Char)
  | '\x27' :: rest => some ([], rest)
  | c :: rest => if isControl c then none else push c (literal? rest)
  | [] => none

/-- A text in triple double quotes, after the opening quotes. Line ends stay as they are. After a
backslash at the end of a line `skipping` holds, and all blanks and line ends are passed over. -/
def multilineBasic? (skipping : Bool) : List Char → Option (List Char × List Char)
  | '"' :: '"' :: '"' :: '"' :: '"' :: rest => some (['"', '"'], rest)
  | '"' :: '"' :: '"' :: '"' :: rest => some (['"'], rest)
  | '"' :: '"' :: '"' :: rest => some ([], rest)
  | '\r' :: '\n' :: rest =>
    if skipping then multilineBasic? true rest
    else push '\r' (push '\n' (multilineBasic? false rest))
  | '\\' :: 'x' :: a :: b :: rest => do
    push (← charOfHex? [a, b]) (multilineBasic? false rest)
  | '\\' :: 'u' :: a :: b :: c :: d :: rest => do
    push (← charOfHex? [a, b, c, d]) (multilineBasic? false rest)
  | '\\' :: 'U' :: a :: b :: c :: d :: e :: f :: g :: h :: rest => do
    push (← charOfHex? [a, b, c, d, e, f, g, h]) (multilineBasic? false rest)
  | '\\' :: c :: rest =>
    match escaped? c with
    | some e => push e (multilineBasic? false rest)
    | none => if lineEndsAfter (c :: rest) then multilineBasic? true (c :: rest) else none
  | c :: rest =>
    if skipping && (isBlank c || c == '\n') then multilineBasic? true rest
    else if c == '\\' || (isControl c && c != '\n') then none
    else push c (multilineBasic? false rest)
  | [] => none
where
  /-- Only blanks stand before the end of the line. -/
  lineEndsAfter (s : List Char) : Bool :=
    match skipBlanks s with
    | '\n' :: _ => true
    | '\r' :: '\n' :: _ => true
    | _ => false

/-- A text in triple single quotes, after the opening quotes. -/
def multilineLiteral? : List Char → Option (List Char × List Char)
  | '\x27' :: '\x27' :: '\x27' :: '\x27' :: '\x27' :: rest => some (['\x27', '\x27'], rest)
  | '\x27' :: '\x27' :: '\x27' :: '\x27' :: rest => some (['\x27'], rest)
  | '\x27' :: '\x27' :: '\x27' :: rest => some ([], rest)
  | '\r' :: '\n' :: rest => push '\r' (push '\n' (multilineLiteral? rest))
  | c :: rest =>
    if isControl c && c != '\n' then none else push c (multilineLiteral? rest)
  | [] => none

/-- The characters after a line end at the start, if there is one. -/
def skipLineEnd : List Char → List Char
  | '\n' :: rest => rest
  | '\r' :: '\n' :: rest => rest
  | s => s

/-- A quoted text of any kind. -/
def quotedText? (s : List Char) : Option (List Char × List Char) :=
  match s with
  | '"' :: '"' :: '"' :: rest => multilineBasic? false (skipLineEnd rest)
  | '\x27' :: '\x27' :: '\x27' :: rest => multilineLiteral? (skipLineEnd rest)
  | '"' :: rest => basic? rest
  | '\x27' :: rest => literal? rest
  | _ => none

/-! ## Keys -/

/-- A character of a key without quotes. -/
def isKeyChar (c : Char) : Bool :=
  c.isAlphanum || c == '_' || c == '-'

/-- One part of a key: a text in one pair of quotes, or characters that need none. -/
def key? (s : List Char) : Option (String × List Char) :=
  match s with
  | '"' :: rest => (basic? rest).map fun (k, rest) => (String.ofList k, rest)
  | '\x27' :: rest => (literal? rest).map fun (k, rest) => (String.ofList k, rest)
  | _ =>
    match s.takeWhile isKeyChar with
    | [] => none
    | k => some (String.ofList k, s.dropWhile isKeyChar)

/-- The parts of a dotted key, of which there may be at most `room`. -/
def keysWithin? : (room : Nat) → List Char → Option (List String × List Char)
  | 0, _ => none
  | room + 1, s => do
    let (key, rest) ← key? s
    match skipBlanks rest with
    | '.' :: more =>
      let (keys, rest) ← keysWithin? room (skipBlanks more)
      return (key :: keys, rest)
    | rest => return ([key], rest)

/-- How many parts a dotted key may have, and how deep arrays and tables may nest as values. -/
def depthLimit : Nat :=
  80

/-- The parts of a dotted key, with blanks around the points and after the last part. -/
def keys? (s : List Char) : Option (List String × List Char) :=
  keysWithin? depthLimit s

end Sift.Config.Toml
