import Sift.Config.Toml.Scalar
import Sift.Config.Toml.Tree

set_option autoImplicit false
set_option relaxedAutoImplicit false

/-!
# TOML documents

A TOML text is a list of lines, each with a header, an assignment or nothing, and with an optional
comment. Values may nest, so the readers of values take a bound on the number of steps, which is the
number of characters at the outset.

## Main definitions

* `Sift.Config.Toml.value?`: the value at the start of the characters.
* `Sift.Config.Toml.read?`: the table that a text denotes.
-/

namespace Sift.Config.Toml

/-! ## Blanks, comments and line ends -/

/-- The characters after a comment, if there is one at the start and it holds no control
characters. -/
def skipComment? (s : List Char) : Option (List Char) :=
  match s with
  | '#' :: comment =>
    let rest := comment.dropWhile (!isControl ·)
    match rest with
    | [] => some []
    | '\n' :: _ => some rest
    | '\r' :: '\n' :: _ => some rest
    | _ => none
  | _ => some s

/-- The characters after blanks, comments and line ends, in at most `fuel` lines. -/
def skipLines? : (fuel : Nat) → List Char → Option (List Char)
  | 0, _ => none
  | fuel + 1, s => do
    match ← skipComment? (skipBlanks s) with
    | '\n' :: rest => skipLines? fuel rest
    | '\r' :: '\n' :: rest => skipLines? fuel rest
    | rest => some rest

/-- The characters after the end of a line, before which only blanks and a comment may stand. -/
def lineEnd? (s : List Char) : Option (List Char) := do
  match ← skipComment? (skipBlanks s) with
  | [] => some []
  | '\n' :: rest => some rest
  | '\r' :: '\n' :: rest => some rest
  | _ => none

/-! ## Values -/

mutual

/-- The value at the start of the characters, with at most `room` arrays and tables inside one
another. -/
def valueWithin? : (fuel room : Nat) → List Char → Option (Value × List Char)
  | 0, _, _ => none
  | fuel + 1, room, s =>
    match s, room with
    | '[' :: rest, room + 1 => do
      let (elements, rest) ← elementsWithin? fuel room rest
      return (.array elements, rest)
    | '\x7b' :: rest, room + 1 => do
      let (assignments, rest) ← entriesWithin? fuel room rest
      return (.table (← tableOf? assignments), rest)
    | '[' :: _, 0 => none
    | '\x7b' :: _, 0 => none
    | _, _ => scalar? s

/-- The elements of an array after its opening bracket or after a comma. -/
def elementsWithin? : (fuel room : Nat) → List Char → Option (List Value × List Char)
  | 0, _, _ => none
  | fuel + 1, room, s => do
    match ← skipLines? (s.length + 1) s with
    | ']' :: rest => return ([], rest)
    | rest =>
      let (element, rest) ← valueWithin? fuel room rest
      match ← skipLines? (rest.length + 1) rest with
      | ',' :: rest =>
        let (elements, rest) ← elementsWithin? fuel room rest
        return (element :: elements, rest)
      | ']' :: rest => return ([element], rest)
      | _ => none

/-- The entries of a table in braces after the opening brace or after a comma. -/
def entriesWithin? : (fuel room : Nat) → List Char → Option (List Statement × List Char)
  | 0, _, _ => none
  | fuel + 1, room, s => do
    match ← skipLines? (s.length + 1) s with
    | '\x7d' :: rest => return ([], rest)
    | rest =>
      let (path, rest) ← keys? rest
      let rest ← expect? '=' (← skipLines? (rest.length + 1) rest)
      let (v, rest) ← valueWithin? fuel room (← skipLines? (rest.length + 1) rest)
      match ← skipLines? (rest.length + 1) rest with
      | ',' :: rest =>
        let (entries, rest) ← entriesWithin? fuel room rest
        return (.assignment path v :: entries, rest)
      | '\x7d' :: rest => return ([.assignment path v], rest)
      | _ => none

end

/-- The value at the start of the characters. -/
def value? (s : List Char) : Option (Value × List Char) :=
  valueWithin? (2 * s.length + 1) depthLimit s

/-! ## Lines -/

/-- The statement at the start of the characters. -/
def statement? (s : List Char) : Option (Statement × List Char) :=
  match s with
  | '[' :: '[' :: rest => do
    let (path, rest) ← keys? (skipBlanks rest)
    return (.arrayHeader path, ← expect? ']' (← expect? ']' rest))
  | '[' :: rest => do
    let (path, rest) ← keys? (skipBlanks rest)
    return (.header path, ← expect? ']' rest)
  | _ => do
    let (path, rest) ← keys? s
    let (v, rest) ← value? (skipBlanks (← expect? '=' rest))
    return (.assignment path v, rest)

/-- The statements of a text of at most `fuel` statements. -/
def statementsWithin? : (fuel : Nat) → List Char → Option (List Statement)
  | 0, _ => none
  | fuel + 1, s => do
    match ← skipLines? (s.length + 1) s with
    | [] => return []
    | rest =>
      let (statement, rest) ← statement? rest
      let statements ← statementsWithin? fuel (← lineEnd? rest)
      return statement :: statements

/-- The table that a text denotes, if it is TOML. A byte order mark at the start is passed over. -/
def read? (text : String) : Option Table := do
  let s := match text.toList with
    | '\uFEFF' :: rest => rest
    | s => s
  tableOf? (← statementsWithin? (s.length + 1) s)

end Sift.Config.Toml
