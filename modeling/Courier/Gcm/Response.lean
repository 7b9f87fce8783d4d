import Courier.Json.Document
import Courier.Verdict

/-!
# Answers of the legacy Google service

An answer counts successes and failures and holds one result per recipient, of which there is one.

Results:

* `Gcm.classify_invalidToken_iff`: which answers mean a dead token.
-/

namespace Courier.Gcm

open Http Json

/-- The result for one recipient. Model of `GcmResult`. -/
structure Result where
  messageId : Option String := none
  registrationId : Option String := none
  error : Option String := none
  deriving DecidableEq, Repr, Inhabited

/-- An answer of the service. Model of `GcmResponse`. -/
structure Response where
  status : Status
  multicastId : Int := 0
  success : Int := 0
  failure : Int := 0
  results : List Result := []
  deriving DecidableEq, Repr, Inhabited

/-! ## Reading -/

/-- Reads the result for one recipient. -/
def Result.ofDocument? (d : Document) : Option Result := do
  let r ← d.record? ["message_id", "registration_id", "error"]
  some {
    messageId := ← r.default? "message_id" none (Document.optional? Document.text?)
    registrationId := ← r.default? "registration_id" none (Document.optional? Document.text?)
    error := ← r.default? "error" none (Document.optional? Document.text?) }

/-- Reads an answer with a certain status. -/
def Response.ofDocument? (status : Status) (d : Document) : Option Response := do
  let int := Document.int? (-Nat.pow 2 63) (Nat.pow 2 63 - 1)
  let r ← d.record? ["multicast_id", "success", "failure", "results"]
  some {
    status := status
    multicastId := ← r.default? "multicast_id" 0 int
    success := ← r.default? "success" 0 int
    failure := ← r.default? "failure" 0 int
    results := ← r.default? "results" [] (Document.list? Result.ofDocument?) }

/-- Reads an answer with a certain status. -/
def Response.ofBytes? (status : Status) (body : List UInt8) : Option Response :=
  (Document.parse? body).bind (Response.ofDocument? status)

/-- The answers whose body is read. -/
def readStatuses : List Nat := [200, 400]

/-- Reads an answer. Model of `decode_response`. -/
def decode (reply : Reply) : Attempt Response :=
  if reply.status.code ∈ readStatuses then
    match Response.ofBytes? reply.status reply.body with
    | some r => .answered r
    | none => .failed (.invalidResponse reply.status (excerpt reply.body))
  else .answered { status := reply.status }

/-! ## Judgement -/

/-- The errors by which the service reports a dead token. -/
def deadErrors : List String := ["InvalidRegistration", "MissingRegistration"]

/-- The error of the first result; empty where there is none. -/
def Response.firstError (r : Response) : String := (r.results.head?.bind Result.error).getD ""

/-- Whether the service says that it accepted a push. -/
def Response.isAccepted (r : Response) : Bool := r.status == .ok && r.success > 0

/-- Judges an answer. Model of `classify`. -/
def classify (r : Response) : Except DeliveryError Unit :=
  if r.isAccepted then .ok ()
  else if r.firstError ∈ deadErrors then .error (.invalidToken r.firstError)
  else if r.firstError = "" then .error (.rejected r.status "unknown response error")
  else .error (.rejected r.status r.firstError)

theorem classify_invalidToken_iff (r : Response) :
    (∃ text, classify r = .error (.invalidToken text)) ↔
      r.isAccepted = false ∧ r.firstError ∈ deadErrors := by
  unfold classify
  cases r.isAccepted
  · by_cases h : r.firstError ∈ deadErrors
    · simp [h]
    · rw [if_neg h]
      by_cases he : r.firstError = "" <;> simp [he, deadErrors] at h ⊢
      simp [h]
  · simp

end Courier.Gcm
