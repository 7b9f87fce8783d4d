import Courier.Service.Start

/-!
# The service as a program

Reads the settings and the credential files that they name, starts the service, and answers probes
until its input ends. A probe is a line with a method and a target; its answer is a line with the
status, followed by the body.
-/

namespace Courier.Program

/-- Reads a file. -/
def fileAt (path : String) : IO (Except FileFault ByteArray) := do
  match ← (IO.FS.readBinFile path).toBaseIO with
  | .ok content => return .ok content
  | .error (.noFileOrDirectory ..) => return .error .notFound
  | .error (.inappropriateType ..) => return .error .isDirectory
  | .error e => return .error (.other (toString e))

/-- The number of processors that projects are told of. -/
def processors : Nat := 1

/-- The machine that holds the credential files of projects. -/
def machineFor (projects : List Project) : IO Machine := do
  let paths := projects.filterMap fun p => p.credentials.file?
  let files ← paths.mapM fun path => return (path, (← fileAt path).map .ofBytes)
  return .ofFiles files processors

/-- Answers probes until there are no more. -/
partial def answerProbes (input output : IO.FS.Stream) : IO Unit := do
  let line ← input.getLine
  if line.isEmpty then return ()
  match line.trimAscii.toString.splitOn " " with
  | method :: target :: _ =>
    let a := Admin.answer true method target
    output.putStr (a.status.text ++ "\n" ++ a.body)
  | _ => output.putStrLn (Http.Status.text ⟨400⟩)
  output.flush
  answerProbes input output

/-- Reports why the service does not run. -/
def stop (error : StartError) : IO UInt32 := do
  IO.eprintln ("error: " ++ error.message)
  return UInt32.ofNat error.exitCode

/-- Runs the service with the settings at a path. -/
def run (path : String) : IO UInt32 := do
  match Config.load (← fileAt path) with
  | .error error => stop (.config error)
  | .ok config =>
    match Service.start (← machineFor config.projects) config with
    | .error error => stop error
    | .ok _ =>
      answerProbes (← IO.getStdin) (← IO.getStdout)
      return 0

end Courier.Program

open Courier in
/-- Runs the service as the command line says. -/
def main (arguments : List String) : IO UInt32 := do
  match Invocation.ofArguments arguments with
  | .run path => Program.run path
  | .help =>
    IO.println Invocation.usage
    return 0
  | .misuse =>
    IO.eprintln Invocation.usage
    return 2
