import Courier.Apns.Request
import Courier.Json.Document
import Courier.Retry
import Courier.Verdict

/-!
# Apple's push service

One request per device, whose token is part of the path. The service answers a failure with a
reason.

Results:

* `Apns.classify_invalidToken_iff`: which answers mean a dead token.
-/

namespace Courier.Apns

open Http Json

/-! ## Answers -/

/-- An answer of the service. The timestamp is given with a token that is no longer valid.
    Model of `ApnsResponse`. -/
structure Response where
  status : Status
  apnsId : Option String := none
  reason : String := ""
  timestamp : Option Int := none
  deriving DecidableEq, Repr, Inhabited

/-- What the body of a failure says. Model of `ErrorBody`. -/
structure Failure where
  reason : String := ""
  timestamp : Option Int := none
  deriving DecidableEq, Repr, Inhabited

/-- Reads the body of a failure. -/
def Failure.ofDocument? (d : Document) : Option Failure := do
  let r ← d.record? ["reason", "timestamp"]
  some {
    reason := ← r.default? "reason" "" Document.text?
    timestamp := ← r.default? "timestamp" none
      (Document.optional? (Document.int? (-Nat.pow 2 63) (Nat.pow 2 63 - 1))) }

/-- Reads the body of a failure. -/
def Failure.ofBytes? (body : List UInt8) : Option Failure :=
  (Document.parse? body).bind Failure.ofDocument?

/-- The failures whose body must say why. -/
def explained : List Nat := [400, 403, 404, 405, 410, 413, 429]

/-- The failures that are attempted again, whatever their body says. -/
def retried : List Nat := [500, 503]

/-- Whether a header value is shown: visible ASCII characters, blanks and tabs. -/
def isShown (value : String) : Bool :=
  value.toList.all fun c => c == '\t' || (0x20 ≤ c.val && c.val < 0x7F)

/-- The identifier that the service gave a push. -/
def apnsId? (reply : Reply) : Option String :=
  (reply.headers.lookup "apns-id").filter isShown

/-- Reads an answer. Model of `decode_response`. -/
def decode (reply : Reply) : Attempt Response :=
  let answer (f : Failure) : Attempt Response :=
    .answered ⟨reply.status, apnsId? reply, f.reason, f.timestamp⟩
  if reply.status = .ok then answer {}
  else if reply.status.code ∈ explained then
    match Failure.ofBytes? reply.body with
    | some f => answer f
    | none => .failed (.invalidResponse reply.status (excerpt reply.body))
  else if reply.status.code ∈ retried then answer ((Failure.ofBytes? reply.body).getD {})
  else .failed (.unexpectedStatus reply.status)

/-- The reason by which the service reports a dead token. -/
def deadReason : String := "BadDeviceToken"

/-- Judges an answer. Model of `classify`. -/
def classify (r : Response) : Except DeliveryError Unit :=
  if r.status = .ok then .ok ()
  else if r.status = .badRequest ∧ r.reason = deadReason then
    .error (.invalidToken (toString r.status.code ++ " " ++ r.reason))
  else .error (.rejected r.status r.reason)

theorem classify_invalidToken_iff (r : Response) :
    (∃ text, classify r = .error (.invalidToken text)) ↔
      r.status = .badRequest ∧ r.reason = deadReason := by
  unfold classify
  split
  · rename_i h
    simp [h, Status.ok, Status.badRequest]
  · split <;> simp_all

/-! ## Clients -/

/-- The service for production. -/
def productionEndpoint : String := "https://api.push.apple.com"

/-- The service for the sandbox. -/
def sandboxEndpoint : String := "https://api.sandbox.push.apple.com"

/-- A client for one bundle of certificates. Model of `ApnsClient`. -/
structure Client where
  endpoint : Url
  retries : Int
  capabilities : Capabilities
  deriving DecidableEq, Inhabited

/-- The URL for a device. -/
def Client.url (c : Client) (token : String) : Url := c.endpoint.join ["3", "device", token]

/-- A header that is sent only where it has a value. -/
def optionalHeader (name : String) (value : Option String) : List (String × HeaderValue) :=
  (value.map fun v => (name, HeaderValue.text v)).toList

/-- The headers of a push. -/
def Request.headers (r : Request) : List (String × HeaderValue) :=
  [("content-type", .text "application/json"), ("apns-id", .freshId),
    ("apns-expiration", .text (toString r.expiration)),
    ("apns-priority", .text (toString r.priority)),
    ("apns-push-type", .text r.pushType.name)] ++
  optionalHeader "apns-topic" r.topic ++ optionalHeader "apns-collapse-id" r.collapseId

/-- The request for a device. -/
def Client.request (c : Client) (r : Request) (token : String) : Http.Request :=
  ⟨c.url token, r.headers, .json r.payload⟩

variable {σ : Type}

/-- Sends a push to a device once. Model of `ApnsClient.post`. -/
def Client.post (c : Client) (w : Wire σ) (r : Request) (token : String) (s : σ) :
    Attempt Response × σ :=
  let (a, s) := w.exchange (c.request r token) s
  (a.bind decode, s)

/-- Sends a push to a device. Model of `ApnsClient.send`. -/
def Client.send (c : Client) (w : Wire σ) (r : Request) (token : String) :
    σ → Attempt Response × σ :=
  Retry.send c.retries Response.status (c.post w r token)

/-- Sends a push to a device and judges the answer. Model of `ApnsClient.deliver`. -/
def Client.deliver (c : Client) (w : Wire σ) (r : Request) (token : String) (s : σ) :
    Verdict × σ :=
  let (a, s) := c.send w r token s
  (a.verdict classify, s)

end Courier.Apns
