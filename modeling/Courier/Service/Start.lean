import Courier.Project.Build
import Courier.Service.Admin
import Courier.Service.Arguments
import Courier.Service.Reporting

/-!
# Starting the service

Settings are loaded and checked, then the places for reports are looked at, then a router is
assembled. The service runs if at least one project can be served, and if it can listen for probes.
-/

namespace Courier

/-- Why the service does not run. Model of `CliError`. -/
inductive StartError
  | config (error : ConfigError)
  | validation (error : ValidationError)
  | reporting
  | metrics (fault : MetricsFault)
  | noProjects
  | listener
  | crashed
  deriving DecidableEq, Repr, Inhabited

/-- The wording of a start error. -/
def StartError.message : StartError → String
  | .config error => error.message?.getD "could not parse config"
  | .validation error => "invalid config: " ++ error.message
  | .reporting => "errors cannot be reported to the given place"
  | .metrics fault => "could not set up metrics: " ++ fault.message
  | .noProjects => "no project could be started"
  | .listener => "io error: cannot listen for probes"
  | .crashed => "a project could not be set up"

/-- The exit code for a start error. -/
def StartError.exitCode : StartError → Nat
  | .reporting | .crashed => 101
  | _ => 1

namespace Service

/-- A running service. -/
structure Running where
  config : Config
  assembly : Assembly ReadyProject

/-- Starts a service with loaded settings. Model of `run`, with the checks of `main` before it. -/
def start (m : Machine) (config : Config) : Except StartError Running := do
  (Project.validate config.projects).mapError .validation
  if !config.logging.isReadable then throw .reporting
  if let some target := config.metrics then (target.check m).mapError .metrics
  match ReadyProject.assemble? m config.projects with
  | none => throw .crashed
  | some assembly =>
    if assembly.router.isEmpty then throw .noProjects
    else if !m.canListen config.listener.host then throw .listener
    else return ⟨config, assembly⟩

/-- Starts a service with the settings at a path. -/
def startAt (m : Machine) (path : String) : Except StartError Running := do
  let config ← (Config.load ((m.read path).map (·.content ()))).mapError .config
  start m config

end Service

end Courier
