import Sift.Json.Token

set_option autoImplicit false
set_option relaxedAutoImplicit false

/-!
# JSON documents

What a JSON text says, before anything is made of it. Unlike a value, a document keeps repeated
member names, and it keeps numbers as they are written and texts that denote nothing, so that a
decoder can tell those it needs from those it may skip.

Reading is a machine with a stack. It takes one token at a time, so it reads documents of any depth,
and what it expects next depends only on the innermost unfinished array or object.

## Main definitions

* `Sift.Json.Document`: the content of a JSON text.
* `Sift.Json.Document.read`: the document that a text holds, or why it holds none.
* `Sift.Json.Document.value?`: the value that a document denotes.
-/

namespace Sift.Json

/-- The content of a JSON text. -/
inductive Document
  /-- The value `null`. -/
  | null
  /-- A truth value. -/
  | bool (value : Bool)
  /-- A number as it is written. -/
  | number (lexeme : List Char)
  /-- A text, if it has no unpaired surrogates. -/
  | text (value : Option String)
  /-- A sequence of documents. -/
  | array (elements : List Document)
  /-- Named documents in the order in which they are written. -/
  | object (members : List (Option String × Document))

namespace Document

instance : Inhabited Document := ⟨null⟩

/-! ## Reading -/

/-- An array or object of which the beginning has been read; what was read last comes first. -/
inductive Frame
  /-- An array with the elements before the current one. -/
  | array (before : List Document)
  /-- An object with the members before the current one, and the current one's name. -/
  | object (before : List (Option String × Document)) (name : Option String)

/-- What may follow at a point of a text. -/
inductive Expectation
  /-- A value. -/
  | value
  /-- A value or the end of an array that has just begun. -/
  | valueOrClose
  /-- A name of a member, or, where allowed, the end of an object that has just begun. -/
  | name (before : List (Option String × Document)) (closeAllowed : Bool)
  /-- A colon. -/
  | colon
  /-- Whatever may follow a finished value. -/
  | afterValue (value : Document)

/-- What may follow, inside the frames that are still open, the innermost one first. -/
structure Reading where
  /-- The open arrays and objects. -/
  frames : List Frame
  /-- What may follow. -/
  expectation : Expectation

/-- Reading begins outside all arrays and objects, where a value has to follow. -/
def Reading.start : Reading :=
  ⟨[], .value⟩

/-- The step of a reading on a token that has to start a value. -/
def Reading.stepValue (frames : List Frame) : Token → Except Fault Reading
  | .null => .ok ⟨frames, .afterValue .null⟩
  | .bool b => .ok ⟨frames, .afterValue (.bool b)⟩
  | .number lexeme => .ok ⟨frames, .afterValue (.number lexeme)⟩
  | .text s => .ok ⟨frames, .afterValue (.text s)⟩
  | .openArray => .ok ⟨.array [] :: frames, .valueOrClose⟩
  | .openObject => .ok ⟨frames, .name [] true⟩
  | .broken _ fault => .error fault
  | _ => .error .malformed

/-- The step of a reading on a token that has to follow a finished value. -/
def Reading.stepAfter (frames : List Frame) (value : Document) (token : Token) :
    Except Fault Reading :=
  match frames, token with
  | .array before :: outer, .comma => .ok ⟨.array (value :: before) :: outer, .value⟩
  | .array before :: outer, .closeArray =>
    .ok ⟨outer, .afterValue (.array (value :: before).reverse)⟩
  | .object before name :: outer, .comma => .ok ⟨outer, .name ((name, value) :: before) false⟩
  | .object before name :: outer, .closeObject =>
    .ok ⟨outer, .afterValue (.object ((name, value) :: before).reverse)⟩
  | _, _ => .error .malformed

/-- The step of a reading on one token. -/
def Reading.step (r : Reading) (token : Token) : Except Fault Reading :=
  match r.expectation, token with
  | .value, _ => stepValue r.frames token
  | .valueOrClose, .closeArray => .ok ⟨r.frames.tail, .afterValue (.array [])⟩
  | .valueOrClose, _ => stepValue r.frames token
  | .name _ true, .closeObject => .ok ⟨r.frames, .afterValue (.object [])⟩
  | .name before _, .text name => .ok ⟨.object before name :: r.frames, .colon⟩
  | .name .., .broken true fault => .error fault
  | .name .., _ => .error .malformed
  | .colon, .colon => .ok ⟨r.frames, .value⟩
  | .colon, _ => .error .malformed
  | .afterValue value, _ => stepAfter r.frames value token

/-- The document that a reading holds at the end of the text. -/
def Reading.finish (r : Reading) : Except Fault Document :=
  match r.frames, r.expectation with
  | [], .afterValue value => .ok value
  | _, _ => .error .unfinished

/-- The document that a list of tokens holds. -/
def ofTokens (tokens : List Token) : Except Fault Document := do
  (← tokens.foldlM Reading.step Reading.start).finish

/-- The document that a text holds. -/
def read (text : String) : Except Fault Document :=
  ofTokens (tokens text)

/-! ## Values -/

/-- The last member of every name. -/
def lastOfEach : List (String × Json) → List (String × Json)
  | [] => []
  | (name, v) :: rest =>
    if rest.any (·.1 == name) then lastOfEach rest else (name, v) :: lastOfEach rest

mutual

/-- The value that a document denotes, if all its numbers, texts and names denote something. Of
several members of one name the last counts. -/
def value? : Document → Option Json
  | null => some .null
  | bool b => some (.bool b)
  | number lexeme => (Number.ofLexeme? lexeme).map .number
  | text s => s.map .text
  | array elements => (values? elements).map .array
  | object members => (memberValues? members).map fun named => .object (lastOfEach named)

/-- The values of a list of documents. -/
def values? : List Document → Option (List Json)
  | [] => some []
  | d :: rest => do return (← d.value?) :: (← values? rest)

/-- The names and values of a list of members. -/
def memberValues? : List (Option String × Document) → Option (List (String × Json))
  | [] => some []
  | (name, d) :: rest => do return (← name, ← d.value?) :: (← memberValues? rest)

end

mutual

/-- The number of arrays and objects that the innermost value of a document lies in, counting the
document itself. -/
def depth : Document → Nat
  | array elements => depthOfAll elements + 1
  | object members => depthOfMembers members + 1
  | _ => 0

/-- The greatest depth in a list of documents. -/
def depthOfAll : List Document → Nat
  | [] => 0
  | d :: rest => max d.depth (depthOfAll rest)

/-- The greatest depth in a list of members. -/
def depthOfMembers : List (Option String × Document) → Nat
  | [] => 0
  | (_, d) :: rest => max d.depth (depthOfMembers rest)

end

end Document

end Sift.Json
