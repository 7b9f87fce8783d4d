import Courier.Fcm.Message
import Courier.Fcm.Response
import Courier.OAuth.Token
import Courier.Retry

/-!
# Firebase

One request per device, whose token is a field of the message. Each attempt presents a bearer token.
-/

namespace Courier.Fcm

open Http Json
open OAuth (AccessToken Tokens)

/-- The service. -/
def defaultEndpoint : String := "https://fcm.googleapis.com"

/-- A client for one project of the service. Model of `FcmClient`. -/
structure Client where
  endpoint : Url
  project : String
  retries : Int
  validateOnly : Bool
  deriving DecidableEq, Inhabited

/-- The URL of all requests. -/
def Client.url (c : Client) : Url :=
  c.endpoint.join ["v1", "projects", c.project, "messages:send"]

/-- The written form of what is sent. Model of `SendRequest`. -/
def Client.envelope (c : Client) (m : Message) : Value :=
  .obj (flagField "validate_only" c.validateOnly ++ [("message", m.toJson)])

/-- The request that carries a message. -/
def Client.request (c : Client) (m : Message) (token : AccessToken) : Request :=
  ⟨c.url, [("authorization", .text token.authorization),
    ("content-type", .text "application/json")], .json (c.envelope m)⟩

variable {σ : Type}

/-- Gets a bearer token, unless the caller has cancelled. -/
def bearer (w : Wire σ) (t : Tokens σ) (s : σ) : Attempt AccessToken × σ :=
  if w.cancelled s then (.failed .cancelled, s) else t.get s

/-- Sends a message once. Model of `FcmClient.post`. -/
def Client.post (c : Client) (w : Wire σ) (t : Tokens σ) (m : Message) (s : σ) :
    Attempt Response × σ :=
  match bearer w t s with
  | (.answered token, s) =>
    let (a, s) := w.exchange (c.request m token) s
    (a.bind decode, s)
  | (.failed error, s) => (.failed error, s)
  | (.crashed, s) => (.crashed, s)

/-- Sends a message. Model of `FcmClient.send`. -/
def Client.send (c : Client) (w : Wire σ) (t : Tokens σ) (m : Message) :
    σ → Attempt Response × σ :=
  Retry.send c.retries Response.status (c.post w t m)

/-- Sends a push to a device and judges the answer. Model of `FcmClient.deliver`. -/
def Client.deliver (c : Client) (w : Wire σ) (t : Tokens σ) (m : Message) (token : String) (s : σ) :
    Verdict × σ :=
  let (a, s) := c.send w t { m with token := token } s
  (a.verdict classify, s)

end Courier.Fcm
