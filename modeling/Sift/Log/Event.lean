import Sift.Binary64.Basic

set_option autoImplicit false
set_option relaxedAutoImplicit false

/-!
# Log events

What the library reports about its work. A log is a list of entries, each an event or a span, and a
span holds the entries that were made while it was open.

## Main definitions

* `Sift.Log.Level`: the importance of an event.
* `Sift.Log.Event`, `Sift.Log.Span`: what happened, and what it happened in.
* `Sift.Log.Entry`: an entry of a log.
-/

namespace Sift.Log

/-- The importance of an event, most important first. -/
inductive Level
  /-- Something failed. -/
  | error
  /-- Something looks wrong. -/
  | warn
  /-- Something of interest happened. -/
  | info
  /-- A detail. -/
  | debug
  /-- A small detail. -/
  | trace
deriving DecidableEq

/-- The value of a field of an event. -/
inductive FieldValue
  /-- A whole number. -/
  | integer (value : Int)
  /-- A truth value. -/
  | bool (value : Bool)
  /-- A binary64. -/
  | float (value : Binary64)
  /-- A text for people to read. -/
  | text (value : String)
  /-- A text that names something. -/
  | name (value : String)

/-- Something that happened. -/
structure Event where
  /-- How important it is. -/
  level : Level
  /-- The part of the program that reports it. -/
  target : String
  /-- What happened. -/
  message : String
  /-- Particulars, with their names. -/
  fields : List (String × FieldValue)

/-- Something that takes a while. All spans are of level `info`. -/
structure Span where
  /-- What is being done. -/
  name : String
  /-- The part of the program that does it. -/
  target : String
  /-- Particulars, with their names. -/
  fields : List (String × FieldValue)

/-- An entry of a log. -/
inductive Entry
  /-- An event. -/
  | event (event : Event)
  /-- A span and what was reported while it was open. -/
  | span (span : Span) (body : List Entry)

end Sift.Log
