import Sift.Log.Event
import Sift.Text.Digits
import Sift.Text.Case

set_option autoImplicit false
set_option relaxedAutoImplicit false

/-!
# Thresholds

How important an event has to be to be let through.

## Main definitions

* `Sift.Log.Threshold`: the least important level that is let through, if any level is.
* `Sift.Log.Threshold.admits`: a threshold lets a level through.
* `Sift.Log.Threshold.ofText?`: the threshold that a text denotes.
* `Sift.Log.Threshold.widest`: the one of several thresholds that lets most through.
-/

namespace Sift.Log

/-- The number of a level: the greater, the less important. -/
def Level.number : Level → Nat
  | error => 1
  | warn => 2
  | info => 3
  | debug => 4
  | trace => 5

/-- The name of a level. -/
def Level.name : Level → String
  | error => "ERROR"
  | warn => "WARN"
  | info => "INFO"
  | debug => "DEBUG"
  | trace => "TRACE"

/-- The least important level that is let through; nothing where no level is. -/
abbrev Threshold : Type :=
  Option Level

namespace Threshold

/-- A threshold lets a level through. -/
def admits (threshold : Threshold) (level : Level) : Bool :=
  threshold.any fun least => level.number ≤ least.number

/-- The words for thresholds, in the order of their numbers. -/
def words : List (String × Threshold) :=
  [("off", none), ("error", some .error), ("warn", some .warn), ("info", some .info),
   ("debug", some .debug), ("trace", some .trace)]

/-- The threshold that a text denotes: a word in any case, or the number of its place among the
words. -/
def ofText? (s : String) : Option Threshold :=
  match (Text.word? s).bind fun n => words[n]? with
  | some (_, threshold) => some threshold
  | none => (words.find? fun (word, _) => Text.eqIgnoringAsciiCase s word).map (·.2)

/-- The one of two thresholds that lets more through. -/
def wider (a b : Threshold) : Threshold :=
  match a, b with
  | some l, some m => if l.number ≤ m.number then some m else some l
  | some l, none => some l
  | none, b => b

/-- The one of several thresholds that lets most through. -/
def widest (thresholds : List Threshold) : Threshold :=
  thresholds.foldl wider none

end Threshold

end Sift.Log
