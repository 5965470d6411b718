import Sift.Json.Document

set_option autoImplicit false
set_option relaxedAutoImplicit false

/-!
# Decoding documents

The parts from which decoders of JSON documents are put together. A structure may be written as an
object, with its members in any order and other members among them, or as an array of its members in
their own order, of which any number may be left out at the end.

## Main definitions

* `Sift.Json.Decoder`: a function from documents to what they stand for.
* `Sift.Json.Decoder.text`, `Sift.Json.Decoder.bool`, `Sift.Json.Decoder.list`: simple decoders.
* `Sift.Json.Document.parts`: the documents of the members of a structure.
* `Sift.Json.decode`: decode a text.
-/

namespace Sift.Json

/-- A function from documents to what they stand for. -/
abbrev Decoder (α : Type) : Type :=
  Document → Except Fault α

/-- Why a document does not stand for something of another shape: it denotes nothing at all, or
something else. -/
def Document.misfit : Document → Fault
  | number lexeme => if (Number.ofLexeme? lexeme).isNone then .malformed else .unsuitable
  | text none => .malformed
  | _ => .unsuitable

namespace Decoder

variable {α : Type}

/-- Texts stand for texts. -/
def text : Decoder String
  | .text (some s) => .ok s
  | d => .error d.misfit

/-- Truth values stand for truth values. -/
def bool : Decoder Bool
  | .bool b => .ok b
  | d => .error d.misfit

/-- An array stands for the list of what its elements stand for. -/
def list (element : Decoder α) : Decoder (List α)
  | .array elements => elements.mapM element
  | d => .error d.misfit

end Decoder

namespace Document

/-- The members of an object that have one of the given names, each of which may occur once. Names
have to denote something even if they are not looked for. -/
def knownMembers (names : List String) :
    List (Option String × Document) → Except Fault (List (String × Document))
  | [] => .ok []
  | (none, _) :: _ => .error .malformed
  | (some name, d) :: rest => do
    let known ← knownMembers names rest
    if !names.contains name then return known
    else if known.any (·.1 == name) then .error .unsuitable
    else return (name, d) :: known

/-- The documents of the members of a structure. Elements beyond the last member are the fault
`excess`. -/
def parts (names : List String) (excess : Fault) : Decoder (List (String × Document))
  | array elements =>
    if names.length < elements.length then .error excess else .ok (names.zip elements)
  | object members => knownMembers names members
  | d => .error d.misfit

end Document

/-- What the document of a member stands for, or the default where there is none. -/
def part {α : Type} (parts : List (String × Document)) (name : String) (decoder : Decoder α)
    (default : α) : Except Fault α :=
  match parts.lookup name with
  | some d => decoder d
  | none => .ok default

/-- What a text stands for. -/
def decode {α : Type} (decoder : Decoder α) (text : String) : Except Fault α := do
  decoder (← Document.read text)

end Sift.Json
