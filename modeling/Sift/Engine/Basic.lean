import Sift.Settings.Basic
import Sift.Log.Logged
import Sift.Rule.Issue
import Sift.Rule.Matching

set_option autoImplicit false
set_option relaxedAutoImplicit false

/-!
# The filter engine

An engine runs filters under given settings. The settings decide what is reported on the way, never
what the result is.

## Main definitions

* `Sift.Engine`: an engine.
* `Sift.Engine.compile`: rules taken apart, with a warning for every issue.
* `Sift.Engine.accepts`: whether a record matches rules.
-/

namespace Sift

/-- An engine is the settings it runs under. -/
structure Engine where
  /-- The settings. -/
  settings : EngineSettings := {}

/-- The warning about an issue of a rule. -/
def RuleIssue.warning (issue : RuleIssue) : Log.Event where
  level := .warn
  target := "product_filter::compiler"
  message := "过滤规则无效，求值时按不匹配处理"
  fields := [("issue", .text issue.message)]

namespace Engine

/-- The engine that also tells what became of each rule. -/
def withTrace (e : Engine) : Engine :=
  { e with settings := { e.settings with traceEnabled := true } }

/-- The warnings of an engine about rules. -/
def warnings (e : Engine) (rules : List Rule) : List Log.Event :=
  if e.settings.warnOnInvalidRules then (validate rules).map RuleIssue.warning else []

/-- Take rules apart, with a warning for every issue if the engine warns at all. -/
def compile (e : Engine) (rules : List Rule) : Logged (List CompiledRule) := do
  Logged.emitAll (e.warnings rules)
  return rules.map Rule.compile

/-- Whether a record matches rules. -/
def accepts (e : Engine) (record : Json) (rules : List Rule) : Logged Bool := do
  return matchesCompiled (← e.compile rules) record

end Engine

end Sift
