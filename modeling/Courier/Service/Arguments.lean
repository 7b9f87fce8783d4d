/-!
# Command line

The service takes one option, the path of its settings, and can show its usage.
-/

namespace Courier

/-- What the command line asks for. Model of `Cli`. -/
inductive Invocation
  | run (config : String)
  | help
  | misuse
  deriving DecidableEq, Repr, Inhabited

namespace Invocation

/-- Where settings are looked for. -/
def defaultConfig : String := "pushd.yaml"

/-- How the service is called. -/
def usage : String :=
  "\n".intercalate [
    "Delivers push notifications to APNs, FCM and GCM",
    "",
    "Usage: pushd [OPTIONS]",
    "",
    "Options:",
    "  -c, --config <CONFIG>  Path to the YAML configuration file [default: pushd.yaml]",
    "  -h, --help             Print help"]

/-- Whether an argument is an option, and so no value of the option before it. -/
def isOption (argument : String) : Bool :=
  match argument.toList with
  | '-' :: _ :: _ => true
  | _ => false

/-- What one argument is. -/
inductive Argument
  | config (value : Option String)
  | help
  | wrong
  deriving DecidableEq, Repr, Inhabited

/-- Reads one argument; the option may have its value attached. -/
def Argument.ofText (argument : String) : Argument :=
  match argument.toList with
  | '-' :: '-' :: name =>
    match name.takeWhile (· ≠ '='), name.dropWhile (· ≠ '=') with
    | ['c', 'o', 'n', 'f', 'i', 'g'], [] => .config none
    | ['c', 'o', 'n', 'f', 'i', 'g'], _ :: value => .config (some (String.ofList value))
    | ['h', 'e', 'l', 'p'], [] => .help
    | _, _ => .wrong
  | ['-', 'c'] => .config none
  | '-' :: 'c' :: '=' :: value => .config (some (String.ofList value))
  | '-' :: 'c' :: value => .config (some (String.ofList value))
  | '-' :: 'h' :: _ => .help
  | _ => .wrong

/-- Reads arguments after those that gave a path, or none. The first fault or request for help
    counts; an option comes once, and its value is not empty. -/
def after (config : Option String) : List String → Invocation
  | [] => .run (config.getD defaultConfig)
  | ["--"] => .run (config.getD defaultConfig)
  | argument :: rest =>
    match Argument.ofText argument, rest with
    | .help, _ => .help
    | .wrong, _ => .misuse
    | .config (some value), rest =>
      if value = "" || config.isSome then .misuse else after value rest
    | .config none, value :: rest =>
      if value = "" || isOption value || config.isSome then .misuse else after value rest
    | .config none, [] => .misuse

/-- Reads the command line. -/
def ofArguments (arguments : List String) : Invocation := after none arguments

end Invocation

end Courier
