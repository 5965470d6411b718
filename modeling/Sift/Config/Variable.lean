import Sift.Config.Value
import Sift.Decimal.Literal
import Sift.Text.Case

set_option autoImplicit false
set_option relaxedAutoImplicit false

/-!
# Variables

The settings that the variables of the environment give. Only variables whose names begin with
`PK_FILTER_`, in any case, are settings; two underscores in a row stand for the point of a key path.

## Main definitions

* `Sift.Config.Variable.value`: the value that the text of a variable denotes.
* `Sift.Config.Variable.key?`: the key that a variable sets.
* `Sift.Config.Variable.table`: the keyed values that an environment gives.
-/

namespace Sift.Config.Variable

/-- The value that the text of a variable denotes: a truth value, a whole number, a binary64, or
else the text itself. -/
def value (s : String) : Value :=
  match Text.lower s with
  | "true" => .bool true
  | "false" => .bool false
  | _ =>
    match Text.intWithin? minInteger maxInteger s with
    | some n => .integer n
    | none =>
      match Binary64.ofChars? s.toList with
      | some x => .float x
      | none => .text s

/-- What the names of the variables that are settings begin with. -/
def mark : List Char :=
  "pk_filter_".toList

/-- A key with points in place of pairs of underscores, from left to right. -/
def withPoints : List Char → List Char
  | '_' :: '_' :: rest => '.' :: withPoints rest
  | c :: rest => c :: withPoints rest
  | [] => []

/-- The key that a variable sets, if it sets one. -/
def key? (name : String) : Option String :=
  let name := (Text.lower name).toList
  if mark.isPrefixOf name then some (String.ofList (withPoints (name.drop mark.length))) else none

/-- The keyed values that an environment gives. -/
def table (vars : List (String × String)) : Table :=
  vars.filterMap fun (name, s) => (key? name).map (·, value s)

end Sift.Config.Variable
