import Sift.Log.Directive

set_option autoImplicit false
set_option relaxedAutoImplicit false

/-!
# Log filters

Which events and spans are let through. A filter is a list of directives with commas between them.
Of the plain directives that hold for an event or a span the closest one decides. What they do not
let through may still be let through by the directives that hold inside the spans around it.

## Main definitions

* `Sift.Log.Filter`: the directives of a filter.
* `Sift.Log.Filter.ofText?`: the filter that a text denotes.
* `Sift.Log.Filter.admitsEvent`, `Sift.Log.Filter.admitsSpan`: a filter lets an event or a span
  through.
* `Sift.Log.Filter.scopeOf`: what a filter lets through inside a span.
-/

namespace Sift.Log

/-- A list of directives. -/
structure Filter where
  /-- The directives in the order in which they are written. -/
  directives : List Directive

namespace Filter

/-- The filter of one directive, which holds everywhere. -/
def everywhere (threshold : Threshold) : Filter :=
  ⟨[⟨none, none, none, threshold⟩]⟩

/-- The filter that a text denotes, if all its directives denote something. Empty directives are
passed over; without any directive only errors are let through. -/
def ofText? (s : String) : Option Filter := do
  let directives ← ((Text.pieces ',' s).filter (!·.isEmpty)).mapM Directive.ofText?
  return if directives.isEmpty then everywhere (some .error) else ⟨directives⟩

/-- Of several directives the closest one, and of equally close ones the last. -/
def closest? (directives : List Directive) : Option Directive :=
  directives.foldl (fun best d =>
    match best with
    | none => some d
    | some b => if b.isAtMostAsCloseAs d then some d else some b) none

/-- The plain directives of a filter. -/
def plain (f : Filter) : List Directive :=
  f.directives.filter Directive.isPlain

/-- The least important level that a filter may let through anywhere. Where the value of a field
matters, that is any level. -/
def reach (f : Filter) : Threshold :=
  if f.directives.any Directive.hasPattern then some .trace
  else Threshold.widest (f.directives.map Directive.threshold)

/-- An event is let through inside spans with the given thresholds. -/
def admitsEvent (f : Filter) (scope : List Threshold) (e : Event) : Bool :=
  scope.any (·.admits e.level) ||
    (closest? (f.plain.filter (·.coversEvent e))).any (·.threshold.admits e.level)

/-- A span is let through inside spans with the given thresholds. A span that a directive watches is
always let through, unless the filter reaches no event of the level of spans. -/
def admitsSpan (f : Filter) (scope : List Threshold) (s : Span) : Bool :=
  f.reach.admits .info && f.directives.any (·.watches s) || scope.any (·.admits .info) ||
    (closest? (f.plain.filter (·.coversSpan s))).any (·.threshold.admits .info)

/-- The threshold that holds inside a span, if a directive watches the span: the widest of the
directives that hold. -/
def scopeOf (f : Filter) (s : Span) : Option Threshold :=
  if f.directives.any (·.watches s) then
    some (.widest ((f.directives.filter (·.holdsIn s)).map Directive.threshold))
  else none

end Filter

end Sift.Log
