import Courier.Project.Machine
import Courier.Project.Validation
import Courier.Text.Utf8

/-!
# Settings of the service

One file says where probes are answered, where metrics go, how much is logged, and which projects
are served.
-/

namespace Courier

open Yaml

/-- Where the service answers probes. -/
structure Listener where
  host : String
  port : Nat
  deriving DecidableEq, Repr, Inhabited

/-- Where metrics go. Model of `MetricsConfig`. -/
structure MetricsTarget where
  host : String
  port : Nat
  deriving DecidableEq, Repr, Inhabited

/-- How much is logged, and where errors are reported. Model of `LoggingConfig`. -/
structure Logging where
  sentryDsn : Option String := none
  level : String := "info"
  deriving DecidableEq, Repr, Inhabited

/-- The settings of the service. -/
structure Config where
  listener : Listener
  metrics : Option MetricsTarget := none
  logging : Logging := {}
  projects : List Project := []
  deriving DecidableEq, Repr, Inhabited

/-- Why settings cannot be loaded. -/
inductive ConfigError
  | load (fault : FileFault)
  | parse
  deriving DecidableEq, Repr, Inhabited

/-- The wording of a load error; settings that cannot be read have none of their own. -/
def ConfigError.message? : ConfigError → Option String
  | .load fault => some ("could not load config from file: " ++ fault.message)
  | .parse => none

/-- Reads a port. -/
def portOfNode : Node → Reading Nat := Reading.nat (Nat.pow 2 16 - 1)

/-- Reads where probes are answered. -/
def Listener.ofNode (n : Node) : Reading Listener := do
  let r ← Reading.record ["host", "port"] n
  pure {
    host := ← Reading.required r "host" Reading.text
    port := ← Reading.required r "port" portOfNode }

/-- Reads where metrics go. -/
def MetricsTarget.ofNode (n : Node) : Reading MetricsTarget := do
  let r ← Reading.record ["statsd_host", "statsd_port"] n
  pure {
    host := ← Reading.required r "statsd_host" Reading.text
    port := ← Reading.required r "statsd_port" portOfNode }

/-- Reads how much is logged. -/
def Logging.ofNode (n : Node) : Reading Logging := do
  let r ← Reading.record ["sentry_dsn", "level"] n
  pure {
    sentryDsn := ← Reading.defaulting r "sentry_dsn" none (Reading.optional Reading.text)
    level := ← Reading.defaulting r "level" "info" Reading.text }

namespace Config

/-- Reads settings. -/
def ofNode (n : Node) : Reading Config := do
  let r ← Reading.record ["listener", "metrics", "logging", "projects"] n
  pure {
    listener := ← Reading.required r "listener" Listener.ofNode
    metrics := ← Reading.defaulting r "metrics" none (Reading.optional MetricsTarget.ofNode)
    logging := ← Reading.defaulting r "logging" {} Logging.ofNode
    projects := ← Reading.defaulting r "projects" [] Project.listOfNode }

/-- Reads settings from a text. -/
def ofText? (text : String) : Option Config :=
  (Document.ofText? text).bind fun d => d.read? ofNode

/-- Reads settings from what came of opening their file. A folder can be opened but not read.
    Model of `Config.from_file`. -/
def load : Except FileFault ByteArray → Except ConfigError Config
  | .error .isDirectory => .error .parse
  | .error fault => .error (.load fault)
  | .ok content =>
    match (Utf8.decodeText? content.data.toList).bind ofText? with
    | some config => .ok config
    | none => .error .parse

end Config

end Courier
