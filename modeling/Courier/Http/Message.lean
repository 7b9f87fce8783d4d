import Courier.Error
import Courier.Json.Value
import Courier.Text.Utf8

/-!
# Requests and replies

A client sends one request at a time and waits for its reply. The network itself is a parameter: a
`Wire` says what comes of each request, and whether the caller has cancelled.
-/

namespace Courier.Http

/-! ## Requests -/

/-- The value of a header: a text, or an identifier made for this request alone. -/
inductive HeaderValue
  | text (value : String)
  | freshId
  deriving DecidableEq, Repr, Inhabited

/-- Whether a text can be sent as the value of a header. -/
def isSendable (value : String) : Bool :=
  value.toList.all fun c => c == '\t' || (0x20 ≤ c.val && c.val ≠ 0x7F)

/-- The value of a header as the receiver sees it: blanks around it do not belong to it. -/
def withoutPadding (value : String) : String :=
  let isBlank (c : Char) : Bool := c == ' ' || c == '\t'
  String.ofList ((value.toList.dropWhile isBlank).reverse.dropWhile isBlank).reverse

/-- Whether a header can be sent. -/
def HeaderValue.sendable : HeaderValue → Bool
  | .text value => isSendable value
  | .freshId => true

/-- What a service account asserts in exchange for a token. The lifetime is in seconds.
    Model of `Claims`. -/
structure Assertion where
  issuer : String
  scope : String
  audience : String
  lifetime : Nat
  deriving DecidableEq, Repr, Inhabited

/-- The body of a request. -/
inductive Body
  | json (value : Json.Value)
  | grant (type : String) (assertion : Assertion)
  deriving Inhabited

/-- A POST request. -/
structure Request where
  url : Url
  headers : List (String × HeaderValue)
  body : Body
  deriving Inhabited

/-- Whether all headers of a request can be sent. -/
def Request.sendable (r : Request) : Bool := r.headers.all fun h => h.2.sendable

/-! ## Replies -/

/-- A reply that was read to its end. -/
structure Reply where
  status : Status
  headers : List (String × String) := []
  body : List UInt8 := []
  deriving DecidableEq, Repr, Inhabited

/-- The number of bytes of a body that an error shows. Model of `MAX_BODY_EXCERPT`. -/
def excerptLimit : Nat := 2000

/-- The start of a body, as an error shows it. Model of `body_excerpt`. -/
def excerpt (body : List UInt8) : String := Utf8.lossy (body.take excerptLimit)

/-- What comes of one request. A reply that is `cut` has a status, but its body does not come to an
    end. -/
inductive Exchange
  | reply (reply : Reply)
  | cut (status : Status)
  | broken
  | silent
  | interrupted
  deriving DecidableEq, Repr, Inhabited

/-! ## Attempts -/

/-- How an attempt ends; a crashed one ends nothing but itself. -/
inductive Attempt (α : Type)
  | answered (value : α)
  | failed (error : SendError)
  | crashed
  deriving Repr, Inhabited

/-- Continues after an answer. -/
def Attempt.bind {α β : Type} (a : Attempt α) (f : α → Attempt β) : Attempt β :=
  match a with
  | .answered value => f value
  | .failed error => .failed error
  | .crashed => .crashed

/-- A network in its own state. -/
structure Wire (σ : Type) where
  cancelled : σ → Bool
  post : Request → σ → Exchange × σ

/-- What an exchange is for the one who waits for it. -/
def Exchange.attempt : Exchange → Attempt Reply
  | .reply r => .answered r
  | .cut _ | .broken => .failed .transport
  | .silent => .failed .timeout
  | .interrupted => .failed .cancelled

/-- Sends one request, unless the caller has cancelled or it cannot be sent.
    Model of `cancellable`. -/
def Wire.send {σ : Type} (w : Wire σ) (request : Request) (s : σ) : Exchange × σ :=
  if w.cancelled s then (.interrupted, s)
  else if request.sendable then w.post request s
  else (.broken, s)

/-- Sends one request and waits for its reply. -/
def Wire.exchange {σ : Type} (w : Wire σ) (request : Request) (s : σ) : Attempt Reply × σ :=
  let (e, s) := w.send request s
  (e.attempt, s)

end Courier.Http
