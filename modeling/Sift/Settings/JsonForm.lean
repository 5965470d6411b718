import Sift.Settings.Basic
import Sift.Json.Decoding

set_option autoImplicit false
set_option relaxedAutoImplicit false

/-!
# Settings as JSON

Settings are objects, or arrays of their members. What is left out keeps its default.

## Main definitions

* `Sift.EngineSettings.ofDocument`, `Sift.LogSettings.ofDocument`, `Sift.Settings.ofDocument`: the
  settings that a document stands for.
-/

namespace Sift

open Json

/-- The engine settings that a document stands for. -/
def EngineSettings.ofDocument : Decoder EngineSettings := fun d => do
  let parts ← d.parts ["trace_enabled", "warn_on_invalid_rules"] .malformed
  let default : EngineSettings := {}
  return {
    traceEnabled := ← part parts "trace_enabled" .bool default.traceEnabled
    warnOnInvalidRules := ← part parts "warn_on_invalid_rules" .bool default.warnOnInvalidRules }

/-- The log settings that a document stands for. -/
def LogSettings.ofDocument : Decoder LogSettings := fun d => do
  let parts ← d.parts ["log_level", "json_logs"] .malformed
  let default : LogSettings := {}
  return {
    logLevel := ← part parts "log_level" .text default.logLevel
    jsonLogs := ← part parts "json_logs" .bool default.jsonLogs }

/-- The settings that a document stands for. -/
def Settings.ofDocument : Decoder Settings := fun d => do
  let parts ← d.parts ["service_name", "environment", "engine", "observability"] .malformed
  let default : Settings := {}
  return {
    serviceName := ← part parts "service_name" .text default.serviceName
    environment := ← part parts "environment" .text default.environment
    engine := ← part parts "engine" EngineSettings.ofDocument default.engine
    observability := ← part parts "observability" LogSettings.ofDocument default.observability }

/-- The engine settings that a text stands for. -/
def EngineSettings.ofJson (text : String) : Except Fault EngineSettings :=
  decode ofDocument text

/-- The log settings that a text stands for. -/
def LogSettings.ofJson (text : String) : Except Fault LogSettings :=
  decode ofDocument text

/-- The settings that a text stands for. -/
def Settings.ofJson (text : String) : Except Fault Settings :=
  decode ofDocument text

end Sift
