import Courier.Json.Document
import Courier.OAuth.Token
import Courier.Url.Parser

/-!
# Service accounts

A service account asserts who it is and gets a token in exchange.
-/

namespace Courier.OAuth

open Http Json

/-- Where tokens are fetched unless an account says otherwise. -/
def defaultTokenUri : String := "https://oauth2.googleapis.com/token"

/-- What tokens are asked for. -/
def messagingScope : String := "https://www.googleapis.com/auth/firebase.messaging"

/-- What kind of exchange is asked for. -/
def grantType : String := "urn:ietf:params:oauth:grant-type:jwt-bearer"

/-- How many seconds an assertion holds. -/
def assertionLifetime : Nat := 3600

/-- A service account. A key that can be read may still not sign, and then there is a reason.
    Model of `ServiceAccount`. -/
structure ServiceAccount where
  projectId : String
  clientEmail : String
  privateKey : String
  tokenUri : String := defaultTokenUri
  signingFault? : Option String := none
  deriving DecidableEq, Repr, Inhabited

namespace ServiceAccount

/-- Reads an account. -/
def ofDocument? (d : Document) : Option ServiceAccount := do
  let r ← d.record? ["project_id", "client_email", "private_key", "token_uri"]
  some {
    projectId := ← r.required? "project_id" Document.text?
    clientEmail := ← r.required? "client_email" Document.text?
    privateKey := ← r.required? "private_key" Document.text?
    tokenUri := ← r.default? "token_uri" defaultTokenUri Document.text? }

/-- Reads the account in a file. -/
def ofBytes? (bytes : List UInt8) : Option ServiceAccount :=
  (Document.parse? bytes).bind ofDocument?

/-- An account without its key, for diagnostics. -/
def display (a : ServiceAccount) : String :=
  "ServiceAccount \x7b project_id: " ++ Text.quoted a.projectId ++ ", client_email: " ++
    Text.quoted a.clientEmail ++ ", token_uri: " ++ Text.quoted a.tokenUri ++ ", .. \x7d"

/-- What an account asserts. Model of the claims in `ServiceAccountTokenSource.assertion`. -/
def assertion (a : ServiceAccount) : Assertion :=
  ⟨a.clientEmail, messagingScope, a.tokenUri, assertionLifetime⟩

/-- The request for a token. -/
def request (a : ServiceAccount) (url : Url) : Request :=
  ⟨url, [("content-type", .text "application/x-www-form-urlencoded")], .grant grantType a.assertion⟩

/-- The request with which a token is fetched. What is asserted is signed before anything else.
    Model of `ServiceAccountTokenSource.fetch` up to its request. -/
def tokenRequest (a : ServiceAccount) : Except SendError Request :=
  match a.signingFault? with
  | some fault => .error (.auth ("could not sign assertion: " ++ fault))
  | none =>
    match Url.parse a.tokenUri with
    | .ok (some url) => .ok (a.request url)
    | _ => .error .transport

end ServiceAccount

/-- What a token endpoint grants. The lifetime is in seconds. Model of `TokenResponse`. -/
structure Grant where
  accessToken : String
  tokenType : String := "Bearer"
  expiresIn : Nat
  deriving DecidableEq, Repr, Inhabited

namespace Grant

/-- Reads a grant. -/
def ofDocument? (d : Document) : Option Grant := do
  let r ← d.record? ["access_token", "token_type", "expires_in"]
  let expiresIn ← r.required? "expires_in" (Document.int? 0 (Nat.pow 2 64 - 1))
  some {
    accessToken := ← r.required? "access_token" Document.text?
    tokenType := ← r.default? "token_type" "Bearer" Document.text?
    expiresIn := expiresIn.toNat }

/-- Reads the body with which a token endpoint answers; there is none if it breaks off. -/
def ofAnswer (status : Status) (body : Option (List UInt8)) : Attempt Grant :=
  if status.isSuccess then
    match (body.bind Document.parse?).bind ofDocument? with
    | some grant => .answered grant
    | none => .failed (.auth "invalid token response")
  else
    .failed (.auth ("token exchange returned " ++ status.text ++ ": " ++
      Utf8.lossy (body.getD [])))

/-- Reads what comes of asking a token endpoint. -/
def ofExchange : Exchange → Attempt Grant
  | .cut status => ofAnswer status none
  | e => e.attempt.bind fun r => ofAnswer r.status (some r.body)

/-- The token of a grant that was asked for at a certain time; a clock that cannot show its end
    breaks down. -/
def token (g : Grant) (requestedAt : Moment) : Attempt AccessToken :=
  match requestedAt.later? g.expiresIn with
  | some expiresAt => .answered ⟨g.accessToken, g.tokenType, expiresAt⟩
  | none => .crashed

end Grant

/-- Asks for a token once. Model of `ServiceAccountTokenSource.fetch`. -/
def ServiceAccount.fetch {σ : Type} (a : ServiceAccount) (w : Wire σ) (now : σ → Moment) (s : σ) :
    Attempt AccessToken × σ :=
  match a.tokenRequest with
  | .ok request =>
    let requestedAt := now s
    let (e, s) := w.send request s
    ((Grant.ofExchange e).bind (·.token requestedAt), s)
  | .error error => (.failed error, s)

end Courier.OAuth
