import Sift.Log.Threshold
import Sift.Decimal.Literal
import Sift.Text.Alphanumeric
import Sift.Text.Blank
import Sift.Text.Split

set_option autoImplicit false
set_option relaxedAutoImplicit false

/-!
# Directives

The parts of a log filter. A directive gives a threshold to a part of the program, named by the
beginning of its name, or to what happens inside certain spans, or both:

* `debug` holds everywhere;
* `store=debug` holds for the parts whose names begin with `store`;
* `store[load]=debug` holds while a span `load` of these parts is open, whatever part reports;
* `store[load{size=3}]=debug` holds if besides the span has a field `size` with the value 3.

## Main definitions

* `Sift.Log.FieldTest`: what a directive asks of a field.
* `Sift.Log.Directive`: a directive.
* `Sift.Log.Directive.ofText?`: the directive that a text denotes.
* `Sift.Log.Directive.coversEvent`, `Sift.Log.Directive.coversSpan`,
  `Sift.Log.Directive.watches`: what a directive holds for.
-/

namespace Sift.Log

/-! ## Fields -/

/-- What a directive asks of the value of a field. -/
inductive FieldPattern
  /-- It is this truth value. -/
  | bool (value : Bool)
  /-- It is this number. -/
  | count (value : Nat)
  /-- It is a number that no field of a span has: a negative one, or one that is not whole. -/
  | otherNumber
  /-- It is a text in which these characters occur at the end and nowhere before. -/
  | ending (chars : List Char)

/-- What a directive asks of a field: that there is one of a name, and possibly its value. -/
structure FieldTest where
  /-- The name of the field. -/
  name : String
  /-- What is asked of its value, if anything is. -/
  pattern : Option FieldPattern

/-- The pattern that a text denotes. -/
def FieldPattern.ofText (s : String) : FieldPattern :=
  match s with
  | "true" => .bool true
  | "false" => .bool false
  | _ =>
    match Text.word? s with
    | some n => .count n
    | none => if (Binary64.ofChars? s.toList).isSome then .otherNumber else .ending s.toList

/-- Characters occur at the end of a text and nowhere before. -/
def occursAtEndOnly (chars : List Char) : List Char → Bool
  | [] => chars.isEmpty
  | c :: rest =>
    if chars.isPrefixOf (c :: rest) then chars.length == rest.length + 1
    else occursAtEndOnly chars rest

/-- A value is as a pattern asks. -/
def FieldPattern.accepts : FieldPattern → FieldValue → Bool
  | .bool b, .bool value => b == value
  | .count n, .integer value => value == n
  | .ending chars, .name value => occursAtEndOnly chars value.toList
  | _, _ => false

/-- The test that a text in braces denotes: a name, or a name and a value with an equals sign
between them. -/
def FieldTest.ofText (s : String) : FieldTest :=
  match Text.pieces '=' s with
  | [] => ⟨s, none⟩
  | [name] => ⟨name, none⟩
  | name :: value :: _ => ⟨name, some (.ofText value)⟩

/-- There is a field of the name that is asked for. -/
def FieldTest.finds (test : FieldTest) (fields : List (String × FieldValue)) : Bool :=
  (fields.lookup test.name).isSome

/-- The field that is asked for has the value that is asked for, if one is. -/
def FieldTest.accepts (test : FieldTest) (fields : List (String × FieldValue)) : Bool :=
  (fields.lookup test.name).any fun value => test.pattern.all (·.accepts value)

/-! ## Directives -/

/-- A threshold and what it holds for. -/
structure Directive where
  /-- What the names of the parts begin with; nothing for all parts. -/
  target : Option String
  /-- The name of the spans; nothing for all spans. -/
  span : Option String
  /-- What is asked of the spans or events. -/
  field : Option FieldTest
  /-- What is let through. -/
  threshold : Threshold

namespace Directive

/-- Whether a directive may begin with a character other than a bracket: a letter, a digit or one of
a few signs. -/
def mayBegin (c : Char) : Bool :=
  Text.isAlphanumeric c || c == '-' || c == ':' || c == '_'

/-- The lengths of the name and of the field between brackets, after the opening one, and what
follows the closing one. -/
def scanBrackets? (s : List Char) : Option (Nat × Option Nat × List Char) :=
  let name := s.takeWhile fun c => c != ']' && c != '\x7b'
  match s.drop name.length with
  | ']' :: rest => some (name.length, none, rest)
  | '\x7b' :: more =>
    let field := more.takeWhile (· != '\x7d')
    match more.drop field.length with
    | '\x7d' :: ']' :: rest =>
      if field.isEmpty then none else some (name.length, some field.length, rest)
    | _ => none
  | _ => none

/-- The threshold at the end of a directive. Where the text ends with the equals sign, everything is
let through. -/
def thresholdOf? (s : List Char) : Option Threshold :=
  if s.isEmpty then some (some .trace) else Threshold.ofText? (String.ofList s)

/-- The directive that a text denotes. A text with neither brackets nor an equals sign is a
threshold, or else a target of which everything is let through; everything is let through too where
no threshold follows the brackets or the equals sign. The places of the parts are found without the
blanks around the text, but the parts are what stands at these places in the text with its blanks,
so that a blank in front spoils them. -/
def ofText? (s : String) : Option Directive :=
  let chars := s.toList
  let part (start length : Nat) : String := String.ofList ((chars.drop start).take length)
  let inner := Text.trimChars chars
  let target := inner.takeWhile fun c => c != '=' && c != '['
  let named := if target.isEmpty then none else some (part 0 target.length)
  if !(inner.head?.any fun c => c == '[' || mayBegin c) then none
  else
    match inner.drop target.length with
    | [] =>
      match Threshold.ofText? s with
      | some threshold => some ⟨none, none, none, threshold⟩
      | none => some ⟨some s, none, none, some .trace⟩
    | '[' :: rest => do
      let start := target.length + 1
      let (nameLength, fieldLength, rest) ← scanBrackets? rest
      let span := if nameLength = 0 ∧ fieldLength.isSome then none else some (part start nameLength)
      let field := fieldLength.map fun length => .ofText (part (start + nameLength + 1) length)
      match rest with
      | [] => return ⟨named, span, field, some .trace⟩
      | '=' :: level =>
        let threshold ← thresholdOf? (chars.drop (inner.length - level.length))
        return ⟨named, span, field, threshold⟩
      | _ => none
    | _ => do
      let threshold ← thresholdOf? (chars.drop (target.length + 1))
      return ⟨named, none, none, threshold⟩

/-- The directive has to do with spans: while they are open, it holds for everything. -/
def isScoped (d : Directive) : Bool :=
  d.span.isSome || d.field.isSome

/-- The directive holds for events and spans by themselves. A directive that asks for a field
without asking for its value is of both kinds. -/
def isPlain (d : Directive) : Bool :=
  d.span.isNone && d.field.all fun test => test.pattern.isNone

/-- The directive looks at the value of a field. -/
def hasPattern (d : Directive) : Bool :=
  d.field.any fun test => test.pattern.isSome

/-- The directive has to do with a part of the program. -/
def coversPart (d : Directive) (part : String) : Bool :=
  d.target.all fun target => target.toList.isPrefixOf part.toList

/-- A plain directive holds for an event. The message counts as a field. -/
def coversEvent (d : Directive) (e : Event) : Bool :=
  d.coversPart e.target && d.field.all (·.finds (("message", .text e.message) :: e.fields))

/-- A plain directive holds for a span, whatever its fields. -/
def coversSpan (d : Directive) (s : Span) : Bool :=
  d.coversPart s.target

/-- A directive that has to do with spans has to do with this one, whatever the value of the field
that it asks for. -/
def watches (d : Directive) (s : Span) : Bool :=
  d.isScoped && d.coversPart s.target && d.span.all (· == s.name) &&
    d.field.all (·.finds s.fields)

/-- A directive that has to do with spans holds while this one is open. -/
def holdsIn (d : Directive) (s : Span) : Bool :=
  d.watches s && d.field.all (·.accepts s.fields)

/-- How closely a directive says what it holds for: by how long a target, and by a field. A
directive with the later name of a field counts as closer. -/
def isAtMostAsCloseAs (a b : Directive) : Bool :=
  let length (d : Directive) : Nat := d.target.elim 0 (·.length + 1)
  if length a ≠ length b then length a < length b
  else
    match a.field, b.field with
    | none, _ => true
    | some _, none => false
    | some f, some g => f.name ≤ g.name

end Directive

end Sift.Log
