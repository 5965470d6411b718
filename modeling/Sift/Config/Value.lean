import Sift.Binary64.Basic

set_option autoImplicit false
set_option relaxedAutoImplicit false

/-!
# Configuration values

The values that files and variables give to settings, before it is known what each setting needs,
and the way in which a later value joins an earlier one: tables are merged key by key, and any other
value replaces what was there.

## Main definitions

* `Sift.Config.Value`: a configuration value.
* `Sift.Config.Value.merge`: a later value on top of an earlier one.
* `Sift.Config.Value.assign`: a value at a path inside another.
-/

namespace Sift.Config

/-- A configuration value. -/
inductive Value
  /-- No value: a gap in an array. -/
  | absent
  /-- A truth value. -/
  | bool (value : Bool)
  /-- A whole number. -/
  | integer (value : Int)
  /-- A binary64, which may be infinite or not a number. -/
  | float (value : Binary64)
  /-- A text. -/
  | text (value : String)
  /-- A sequence of values. -/
  | array (elements : List Value)
  /-- Named values. -/
  | table (entries : List (String × Value))

/-- The smallest whole number that a configuration may hold. -/
def minInteger : Int :=
  -9223372036854775808

/-- The greatest whole number that a configuration may hold. -/
def maxInteger : Int :=
  9223372036854775807

/-- Named values. -/
abbrev Table : Type :=
  List (String × Value)

/-- A list of named values with one value replaced, or added at the end. -/
def put {α : Type} (key : String) (value : α) : List (String × α) → List (String × α)
  | [] => [(key, value)]
  | (k, v) :: rest => if k = key then (key, value) :: rest else (k, v) :: put key value rest

namespace Value

/-- The named values of a table; none for any other value. -/
def entries : Value → Table
  | table entries => entries
  | _ => []

/-- The elements of an array; none for any other value. -/
def elements : Value → List Value
  | array elements => elements
  | _ => []

mutual

/-- A later value on top of an earlier one, if there is one. -/
def merge (later : Value) (earlier : Option Value) : Value :=
  match later with
  | table entries => table (mergeEntries entries (earlier.getD (table [])).entries)
  | value => value

/-- Later entries on top of earlier ones. -/
def mergeEntries (later : List (String × Value)) (earlier : List (String × Value)) :
    List (String × Value) :=
  match later with
  | [] => earlier
  | (key, value) :: rest => mergeEntries rest (put key (value.merge (earlier.lookup key)) earlier)

end

/-! ## Paths -/

/-- A step of a path into a value. -/
inductive Step
  /-- Into the entry of a table. -/
  | key (name : String)
  /-- Into an element of an array; negative positions count from the end. -/
  | index (position : Int)

/-- The list with as many gaps added as an index needs, and the position that the index then means.
Gaps go to the end, or to the front if the index counts from the end. -/
def withRoom (elements : List Value) (position : Int) : List Value × Nat :=
  if 0 ≤ position then
    (elements ++ List.replicate (position.toNat + 1 - elements.length) absent, position.toNat)
  else
    (List.replicate (position.natAbs - elements.length) absent ++ elements,
      elements.length - position.natAbs)

/-- The value `earlier`, if there is one, with `later` at the end of a path. What stands in the way
of the path gives way to the tables and arrays that the path needs. -/
def assign (path : List Step) (later : Value) (earlier : Option Value) : Value :=
  match path with
  | [] => later.merge earlier
  | .key name :: rest =>
    let entries := (earlier.getD (table [])).entries
    table (put name (assign rest later (entries.lookup name)) entries)
  | .index position :: rest =>
    let (elements, i) := withRoom (earlier.getD (array [])).elements position
    array (elements.set i (assign rest later elements[i]?))

end Value

end Sift.Config
