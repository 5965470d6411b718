set_option autoImplicit false
set_option relaxedAutoImplicit false

/-!
# Settings

What can be set from outside, with the values that hold where nothing is set.

## Main definitions

* `Sift.EngineSettings`: how filters are run.
* `Sift.LogSettings`: what is logged, and how.
* `Sift.Settings`: all settings of a service.
-/

namespace Sift

/-- How filters are run. -/
structure EngineSettings where
  /-- Whether reports on a record tell what became of each rule. -/
  traceEnabled : Bool := false
  /-- Whether the issues of rules are logged. -/
  warnOnInvalidRules : Bool := true
deriving DecidableEq

/-- What is logged, and how. -/
structure LogSettings where
  /-- The filter that events have to pass. -/
  logLevel : String := "info"
  /-- Whether events are logged as JSON rather than as lines for people to read. -/
  jsonLogs : Bool := false
deriving DecidableEq

/-- All settings of a service. -/
structure Settings where
  /-- The name of the service. -/
  serviceName : String := "product-filter"
  /-- The environment that the service runs in. -/
  environment : String := "development"
  /-- How filters are run. -/
  engine : EngineSettings := {}
  /-- What is logged, and how. -/
  observability : LogSettings := {}
deriving DecidableEq

/-- The service runs in production. -/
def Settings.isProduction (s : Settings) : Bool :=
  s.environment == "production"

end Sift
