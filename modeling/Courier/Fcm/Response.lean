import Courier.Json.Document
import Courier.Verdict

/-!
# Firebase's answers

An answer names the message that was accepted, or holds an error with details.

Results:

* `Fcm.classify_invalidToken_iff`: which answers mean a dead token.
-/

namespace Courier.Fcm

open Http Json

/-- An error of the service. Model of `FcmError`. -/
structure Fault where
  code : Int := 0
  message : String := ""
  status : String := ""
  details : List Value := []
  deriving Inhabited

/-- How an error is shown. -/
def Fault.text (f : Fault) : String :=
  toString f.code ++ " " ++ f.message ++ " (" ++ f.status ++ ")"

/-- The field that holds the token of a message. -/
def tokenField : String := "message.token"

/-- Whether a field violation points at the token. -/
def isTokenViolation (violation : Value) : Bool :=
  ((violation.field? "field").bind Value.text?) == some tokenField

/-- Whether a detail lists a violation that points at the token. -/
def isTokenDetail (detail : Value) : Bool :=
  ((detail.field? "fieldViolations").bind Value.items?).any fun violations =>
    violations.any isTokenViolation

/-- Whether an error means a dead token. Model of `FcmError.is_invalid_token`. -/
def Fault.isInvalidToken (f : Fault) : Bool :=
  f.code == 400 && f.status == "INVALID_ARGUMENT" && f.details.any isTokenDetail

/-- An answer of the service. Model of `FcmResponse`. -/
structure Response where
  status : Status
  name : String := ""
  error : Option Fault := none
  deriving Inhabited

/-! ## Reading -/

/-- The number of containers around each detail: the answer, the error and the list. -/
def detailDepth : Nat := 3

/-- Reads an error. -/
def Fault.ofDocument? (d : Document) : Option Fault := do
  let r ← d.record? ["code", "message", "status", "details"]
  some {
    code := ← r.default? "code" 0 (Document.int? (-Nat.pow 2 63) (Nat.pow 2 63 - 1))
    message := ← r.default? "message" "" Document.text?
    status := ← r.default? "status" "" Document.text?
    details := ← r.default? "details" [] (Document.list? (Document.value? detailDepth)) }

/-- Reads an answer with a certain status. -/
def Response.ofDocument? (status : Status) (d : Document) : Option Response := do
  let r ← d.record? ["name", "error"]
  some {
    status := status
    name := ← r.default? "name" "" Document.text?
    error := ← r.default? "error" none (Document.optional? Fault.ofDocument?) }

/-- Reads an answer with a certain status. -/
def Response.ofBytes? (status : Status) (body : List UInt8) : Option Response :=
  (Document.parse? body).bind (Response.ofDocument? status)

/-- The answers whose body is read. -/
def readStatuses : List Nat := [200, 400, 401, 403, 404, 429]

/-- Reads an answer. Model of `decode_response`. -/
def decode (reply : Reply) : Attempt Response :=
  if reply.status.code ∈ readStatuses then
    match Response.ofBytes? reply.status reply.body with
    | some r => .answered r
    | none => .failed (.invalidResponse reply.status (excerpt reply.body))
  else .answered { status := reply.status }

/-! ## Judgement -/

/-- Judges an answer. Model of `classify`. -/
def classify (r : Response) : Except DeliveryError Unit :=
  match r.error with
  | some fault =>
    if fault.isInvalidToken then .error (.invalidToken fault.text)
    else .error (.rejected r.status fault.text)
  | none =>
    if r.status = .ok then
      if r.name = "" then .error (.rejected r.status "response without message name") else .ok ()
    else .error (.rejected r.status (r.status.reason?.getD ""))

theorem classify_invalidToken_iff (r : Response) :
    (∃ text, classify r = .error (.invalidToken text)) ↔
      ∃ fault, r.error = some fault ∧ fault.isInvalidToken := by
  unfold classify
  cases r.error with
  | none => grind
  | some fault => by_cases h : fault.isInvalidToken <;> simp [h]

end Courier.Fcm
