import Sift.Config.Toml.Document
import Sift.Config.KeyPath
import Sift.Config.Variable
import Sift.Settings.Basic
import Sift.Decimal.Shortest
import Sift.Text.Split

set_option autoImplicit false
set_option relaxedAutoImplicit false

/-!
# Layered settings

The settings of a service from its configuration files and from variables. The layers are, from the
lowest to the highest, the two arguments, `default.toml`, the file of the environment, the file of
the service, and the variables; a higher layer wins over a lower one.

## Main definitions

* `Sift.Config.Problem`: why there are no settings.
* `Sift.Config.merged`: the value that all layers give together.
* `Sift.Settings.ofValue`: the settings that a value gives.
* `Sift.Settings.load`: the settings of a service in an environment.
-/

namespace Sift

namespace Config

/-- Why there are no settings. -/
inductive Problem
  /-- A file is no TOML. -/
  | unreadableFile
  /-- A value cannot be turned into a truth value or a text. -/
  | wrongType
  /-- A single value stands where a section has to be. -/
  | noSection
deriving DecidableEq

/-! ## Layers -/

/-- The name of the file that a path from a directory leads to, if the file is in that directory.
Steps that lead nowhere are passed over. -/
def fileName? (path : String) : Option String :=
  match Text.pieces '/' path with
  | "" :: _ => none
  | steps =>
    match steps.filter fun step => step != "" && step != "." with
    | [name] => some name
    | _ => none

/-- The text of the configuration file of a layer. Where there is no file of the name with the
extension, the extension is put to it once more. A file name that consists of the extension alone
counts as a name without one, and such a file is passed over. -/
def fileText? (files : List (String × String)) (layer : String) : Option String := do
  let name ← fileName? (layer ++ ".toml")
  match files.lookup name with
  | some text => if name = ".toml" then none else some text
  | none => files.lookup (name ++ ".toml")

/-- The keyed values of the configuration file of a layer; none if there is no such file. -/
def fileLayer (files : List (String × String)) (layer : String) : Except Problem Table :=
  match fileText? files layer with
  | none => .ok []
  | some text =>
    match Toml.read? text with
    | some entries => .ok entries
    | none => .error .unreadableFile

/-- The layers above the arguments, from the lowest to the highest. -/
def layers (files vars : List (String × String)) (service environment : String) :
    Except Problem (List Table) := do
  let fromFiles ← ["default", environment, service].mapM (fileLayer files)
  return fromFiles ++ [Variable.table vars]

/-- The value that layers give together, on top of the arguments. -/
def merged (layers : List Table) (service environment : String) : Value :=
  let arguments : Table := [("service_name", .text service), ("environment", .text environment)]
  let given := layers.foldl (fun value layer => Value.assignAll layer value) (Value.table [])
  Value.assignAll given.entries (.table arguments)

/-! ## From values to settings -/

namespace Value

/-- The truth value that a value stands for: numbers other than zero are true, and a few words stand
for truth values, in any case. -/
def toBool : Value → Except Problem Bool
  | bool b => .ok b
  | integer n => .ok (n != 0)
  | float x => .ok !x.isZero
  | text s =>
    match Text.lower s with
    | "1" | "true" | "on" | "yes" => .ok true
    | "0" | "false" | "off" | "no" => .ok false
    | _ => .error .wrongType
  | _ => .error .wrongType

/-- The text that a value stands for. -/
def toText : Value → Except Problem String
  | text s => .ok s
  | bool b => .ok (if b then "true" else "false")
  | integer n => .ok (Text.intText n)
  | float x => .ok x.text
  | _ => .error .wrongType

/-- The values of the members of a section, which is a table, or an array of the members in their
order. -/
def parts (names : List String) : Value → Except Problem Table
  | table entries => .ok entries
  | array elements => .ok (names.zip elements)
  | _ => .error .noSection

end Value

/-- What the value of a member stands for, or the default where there is none. -/
def part {α : Type} (parts : Table) (name : String) (decode : Value → Except Problem α)
    (default : α) : Except Problem α :=
  match parts.lookup name with
  | some value => decode value
  | none => .ok default

end Config

open Config

/-- The engine settings that a value gives. -/
def EngineSettings.ofValue (v : Value) : Except Problem EngineSettings := do
  let parts ← v.parts ["trace_enabled", "warn_on_invalid_rules"]
  let default : EngineSettings := {}
  return {
    traceEnabled := ← part parts "trace_enabled" Value.toBool default.traceEnabled
    warnOnInvalidRules :=
      ← part parts "warn_on_invalid_rules" Value.toBool default.warnOnInvalidRules }

/-- The log settings that a value gives. -/
def LogSettings.ofValue (v : Value) : Except Problem LogSettings := do
  let parts ← v.parts ["log_level", "json_logs"]
  let default : LogSettings := {}
  return {
    logLevel := ← part parts "log_level" Value.toText default.logLevel
    jsonLogs := ← part parts "json_logs" Value.toBool default.jsonLogs }

/-- The settings that a value gives. -/
def Settings.ofValue (v : Value) : Except Problem Settings := do
  let parts ← v.parts ["service_name", "environment", "engine", "observability"]
  let default : Settings := {}
  return {
    serviceName := ← part parts "service_name" Value.toText default.serviceName
    environment := ← part parts "environment" Value.toText default.environment
    engine := ← part parts "engine" EngineSettings.ofValue default.engine
    observability := ← part parts "observability" LogSettings.ofValue default.observability }

/-- The settings of a service in an environment, from files and from variables. -/
def Settings.load (files vars : List (String × String)) (service environment : String) :
    Except Problem Settings := do
  Settings.ofValue (merged (← layers files vars service environment) service environment)

/-- The environment that a variable names. -/
def environmentOf (vars : List (String × String)) : String :=
  (vars.lookup "PK_FILTER_ENV").getD "development"

/-- The settings of a service in the environment that a variable names. -/
def Settings.loadNamed (files vars : List (String × String)) (service : String) :
    Except Problem Settings :=
  Settings.load files vars service (environmentOf vars)

end Sift
