import Courier.Gcm.Request
import Courier.Gcm.Response
import Courier.Retry
import Courier.Text.Blank

/-!
# The legacy Google service

One request per device, whose token is the recipient of the envelope. A server key stands in a
header.
-/

namespace Courier.Gcm

open Http

/-- The service. -/
def defaultEndpoint : String := "https://fcm.googleapis.com/"

/-- A client for one server key. Model of `GcmClient`. -/
structure Client where
  endpoint : Url
  retries : Int
  dryRun : Bool
  serverKey : String
  deriving DecidableEq, Inhabited

/-- Whether a text can be a server key. -/
def isServerKey (key : String) : Bool := !Text.allBlank key && isSendable key

/-- The URL of all requests. -/
def Client.url (c : Client) : Url := c.endpoint.join ["fcm", "send"]

/-- The request that carries an envelope. -/
def Client.request (c : Client) (r : Request) : Http.Request :=
  ⟨c.url, [("authorization", .text ("key=" ++ c.serverKey)),
    ("content-type", .text "application/json")], .json r.toJson⟩

variable {σ : Type}

/-- Sends an envelope once. Model of `GcmClient.post`. -/
def Client.post (c : Client) (w : Wire σ) (r : Request) (s : σ) : Attempt Response × σ :=
  let (a, s) := w.exchange (c.request r) s
  (a.bind decode, s)

/-- Sends an envelope. Model of `GcmClient.send`. -/
def Client.send (c : Client) (w : Wire σ) (r : Request) : σ → Attempt Response × σ :=
  Retry.send c.retries Response.status (c.post w { r with dryRun := r.dryRun || c.dryRun })

/-- Sends a push to a device and judges the answer. Model of `GcmClient.deliver`. -/
def Client.deliver (c : Client) (w : Wire σ) (r : Request) (token : String) (s : σ) :
    Verdict × σ :=
  let (a, s) := c.send w { r with recipient := token } s
  (a.verdict classify, s)

end Courier.Gcm
