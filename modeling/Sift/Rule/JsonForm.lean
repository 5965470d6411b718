import Sift.Rule.Basic
import Sift.Json.Decoding

set_option autoImplicit false
set_option relaxedAutoImplicit false

/-!
# Rules as JSON

A rule is an object of three texts, or an array of them. A text that is left out is empty.

## Main definitions

* `Sift.Rule.toJson`: a rule as a JSON value.
* `Sift.Rule.ofDocument`: the rule that a document stands for.
-/

namespace Sift.Rule

open Json

/-- A rule as a JSON value. -/
def toJson (r : Rule) : Json :=
  .object [("field", .text r.field), ("operator", .text r.operator),
    ("expression", .text r.expression)]

/-- The rule that a document stands for. -/
def ofDocument (excess : Fault) : Decoder Rule := fun d => do
  let parts ← d.parts ["field", "operator", "expression"] excess
  return {
    field := ← part parts "field" .text ""
    operator := ← part parts "operator" .text ""
    expression := ← part parts "expression" .text "" }

/-- The rules that a text stands for. -/
def listOfJson (text : String) : Except Fault (List Rule) :=
  decode (.list (ofDocument .malformed)) text

end Sift.Rule
