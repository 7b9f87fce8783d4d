import Courier.Http.Status

/-!
# Probes

The service answers whether it is alive and whether it is ready.
-/

namespace Courier

/-- An answer to a probe. -/
structure ProbeAnswer where
  status : Http.Status
  body : String
  deriving DecidableEq, Repr, Inhabited

/-- An answer that only says what its status says. Model of `make_boxed_error_response`. -/
def ProbeAnswer.ofStatus (status : Http.Status) : ProbeAnswer :=
  ⟨status, status.reason?.getD "error" ++ "\n"⟩

/-- An answer as it is sent; to `HEAD` without the body. -/
def ProbeAnswer.sent (a : ProbeAnswer) (method : String) : ProbeAnswer :=
  if method = "HEAD" then { a with body := "" } else a

namespace Admin

/-- All is well. -/
def fine : ProbeAnswer := ⟨.ok, "ok\n"⟩

/-- The answer for a path, which depends on whether the service is ready.
    Model of `AdminService.respond`. -/
def respond (ready : Bool) (path : String) : ProbeAnswer :=
  match path with
  | "/health" => fine
  | "/ready" => if ready then fine else .ofStatus .serviceUnavailable
  | _ => .ofStatus ⟨404⟩

/-- The path in a request target. -/
def pathOf (target : String) : String :=
  String.ofList (target.toList.takeWhile fun c => c ≠ '?' && c ≠ '#')

/-- The answer to a request. Model of `AdminService.call`. -/
def answer (ready : Bool) (method target : String) : ProbeAnswer :=
  (respond ready (pathOf target)).sent method

end Admin

end Courier
