import Sift.Log.Filter
import Sift.Settings.Basic
import Sift.Decimal.Shortest

set_option autoImplicit false
set_option relaxedAutoImplicit false

/-!
# Loggers

What becomes of a log: a logger lets some of its events through and puts them into words. A process
has at most one logger, which is installed once.

## Main definitions

* `Sift.Log.Logger`: a filter and a form of output.
* `Sift.Log.Output`: something that a logger puts out.
* `Sift.Log.Logger.outputs`: what a logger puts out for a log.
* `Sift.Log.install`: install a logger.
* `Sift.Log.Event.line`: an event as a line for people to read.
-/

namespace Sift

namespace Log

/-- A filter and a form of output. -/
structure Logger where
  /-- Events are put out as JSON, and so are the ends of spans. -/
  json : Bool
  /-- What is let through. -/
  filter : Filter

/-- Something that a logger puts out. -/
inductive Output
  /-- An event, with the spans around it that are let through, the innermost one first. -/
  | event (event : Event) (spans : List Span)
  /-- The end of a span. -/
  | closed (span : Span)

/-! ## Outputs -/

mutual

/-- What is put out for an entry inside spans that are let through, with the thresholds that hold
there. A span that is not let through is as if it were not there. -/
def Filter.outputsOf (f : Filter) (scope : List Threshold) (spans : List Span) :
    Entry → List Output
  | .event e => if f.admitsEvent scope e then [.event e spans] else []
  | .span s body =>
    if f.admitsSpan scope s then
      f.outputsOfAll ((f.scopeOf s).toList ++ scope) (s :: spans) body ++ [.closed s]
    else f.outputsOfAll scope spans body

/-- What is put out for several entries. -/
def Filter.outputsOfAll (f : Filter) (scope : List Threshold) (spans : List Span) :
    List Entry → List Output
  | [] => []
  | entry :: rest => f.outputsOf scope spans entry ++ f.outputsOfAll scope spans rest

end

/-- Whether an output is put out by loggers for people too. -/
def Output.isEvent : Output → Bool
  | event .. => true
  | closed _ => false

/-- What a logger puts out for a log. -/
def Logger.outputs (l : Logger) (log : List Entry) : List Output :=
  (l.filter.outputsOfAll [] [] log).filter fun output => l.json || output.isEvent

/-! ## Lines -/

/-- The value of a field in a line for people to read. Names are put in quotes. -/
def FieldValue.shown : FieldValue → String
  | integer n => Text.intText n
  | bool b => if b then "true" else "false"
  | float x => x.pointedText
  | text s => s
  | name s => "\"" ++ s ++ "\""

/-- Fields in a line for people to read. -/
def shownFields (fields : List (String × FieldValue)) : String :=
  " ".intercalate (fields.map fun (name, value) => name ++ "=" ++ value.shown)

/-- A span in a line for people to read. -/
def Span.shown (s : Span) : String :=
  s.name ++ "\x7b" ++ shownFields s.fields ++ "\x7d:"

/-- An event as a line for people to read, with the spans around it, the innermost one first. -/
def Event.line (e : Event) (spans : List Span) : String :=
  let context := String.join (spans.reverse.map Span.shown)
  " ".intercalate ([e.level.name] ++ (if spans.isEmpty then [] else [context]) ++
    [e.target ++ ":", e.message] ++ (if e.fields.isEmpty then [] else [shownFields e.fields]))

/-! ## Installation -/

/-- Why a logger is not installed. -/
inductive InstallError
  /-- There is a logger already. -/
  | alreadyInstalled

/-- The text of an error. -/
def InstallError.message : InstallError → String
  | alreadyInstalled => "a global default trace dispatcher has already been set"

/-- The filter that a variable or the settings ask for. The variable comes first, if it is set and
denotes a filter; if neither denotes one, events from the level `info` on are let through. -/
def Filter.chosen (overriding : Option String) (settings : LogSettings) : Filter :=
  ((overriding.bind Filter.ofText?).or (Filter.ofText? settings.logLevel)).getD
    (.everywhere (some .info))

/-- Install a logger where there is none. -/
def install (current : Option Logger) (overriding : Option String) (settings : LogSettings) :
    Except InstallError Logger :=
  match current with
  | some _ => .error .alreadyInstalled
  | none => .ok ⟨settings.jsonLogs, .chosen overriding settings⟩

/-- The event with which a logger begins. -/
def announcement (settings : LogSettings) : Event where
  level := .info
  target := "product_filter_shared::observability"
  message := "过滤引擎日志已启用"
  fields := [("log_level", .text settings.logLevel), ("json_logs", .bool settings.jsonLogs)]

end Log

/-- The log settings that the environment asks for. -/
def LogSettings.ofVariables (vars : List (String × String)) : LogSettings :=
  let default : LogSettings := {}
  { logLevel := (vars.lookup "RUST_LOG").getD default.logLevel
    jsonLogs := (vars.lookup "JSON_LOGS").any fun v => v == "true" || v == "1" }

end Sift
