import Courier.Project.Settings
import Courier.Text.Blank
import Courier.Text.Quoted

/-!
# Checks on projects

A set of projects is checked before any client is built. The first project at fault counts, and of
its faults the first in a fixed order.

Results:

* `Project.check_none_iff`: which projects pass after given ones.
-/

namespace Courier

/-- What can be wrong with a project. Model of `ValidationError`. -/
inductive ValidationError
  | emptyProjectId
  | duplicateProjectId (id : String)
  | emptyServerKey (id : String)
  | zeroTimeout (id : String)
  deriving DecidableEq, Repr, Inhabited

/-- The wording of a validation error. -/
def ValidationError.message : ValidationError → String
  | .emptyProjectId => "project_id must not be empty"
  | .duplicateProjectId id => "duplicate project_id " ++ Text.quoted id
  | .emptyServerKey id => "project " ++ Text.quoted id ++ ": GCM server key must not be empty"
  | .zeroTimeout id => "project " ++ Text.quoted id ++ ": timeout_ms must be positive"

/-- The name of a validation error. -/
def ValidationError.kind : ValidationError → String
  | .emptyProjectId => "EmptyProjectId"
  | .duplicateProjectId _ => "DuplicateProjectId"
  | .emptyServerKey _ => "EmptyServerKey"
  | .zeroTimeout _ => "ZeroTimeout"

/-- A validation error as a constructor with its argument, for diagnostics. -/
def ValidationError.display (e : ValidationError) : String :=
  match e with
  | .emptyProjectId => e.kind
  | .duplicateProjectId id | .emptyServerKey id | .zeroTimeout id =>
    e.kind ++ "(" ++ Text.quoted id ++ ")"

namespace Project

/-- Whether a project has a server key of blanks only. -/
def hasBlankKey (p : Project) : Bool :=
  match p.credentials with
  | .gcm key => Text.allBlank key
  | _ => false

/-- What is wrong with a project after projects with certain ids. -/
def check (seen : List String) (p : Project) : Option ValidationError :=
  if p.id = "" then some .emptyProjectId
  else if p.id ∈ seen then some (.duplicateProjectId p.id)
  else if p.hasBlankKey then some (.emptyServerKey p.id)
  else if p.timeoutMs = some 0 then some (.zeroTimeout p.id)
  else none

theorem check_none_iff (seen : List String) (p : Project) :
    p.check seen = none ↔
      p.id ≠ "" ∧ p.id ∉ seen ∧ p.hasBlankKey = false ∧ p.timeoutMs ≠ some 0 := by
  unfold check
  grind

/-- Checks projects that come after projects with certain ids. -/
def validateAfter (seen : List String) : List Project → Except ValidationError Unit
  | [] => .ok ()
  | p :: rest =>
    match p.check seen with
    | some error => .error error
    | none => validateAfter (p.id :: seen) rest

/-- Checks a set of projects. Model of `validate_projects`. -/
def validate (projects : List Project) : Except ValidationError Unit := validateAfter [] projects

end Project

end Courier
