import Courier.Apns.Client
import Courier.Fcm.Client
import Courier.Gcm.Client
import Courier.OAuth.ServiceAccount
import Courier.Project.Machine
import Courier.Url.Parser

/-!
# Clients

How clients come about from what a project says. The endpoint is judged before any credentials.
-/

namespace Courier

/-! ## Endpoints -/

namespace Endpoint

/-- Reads the base URL of a service. Model of `parse_endpoint`. -/
def parse (raw : String) : Except ConstructionError Url :=
  match Url.parse raw with
  | .ok (some url) => .ok url
  | .ok none => .error (.endpoint raw .notHttp)
  | .error error => .error (.endpoint raw (.malformed error))

end Endpoint

/-- What all clients have in common. Model of `ClientOptions`. -/
structure ClientOptions where
  sandbox : Bool := false
  retries : Int := 1
  endpoint : Option Url := none
  deriving DecidableEq, Inhabited

/-- The options of a client with a certain policy, and perhaps another base URL.
    Model of `ClientOptions.new`. -/
def ClientOptions.new (policy : Policy) (endpoint : Option String) :
    Except ConstructionError ClientOptions := do
  let endpoint ← endpoint.mapM Endpoint.parse
  return { sandbox := policy.sandbox, retries := policy.retries, endpoint := endpoint }

/-- The base URL of a service, which is given as a text unless the options name another one. -/
def ClientOptions.base (o : ClientOptions) (service : String) : Except ConstructionError Url :=
  match o.endpoint with
  | some url => .ok url
  | none => Endpoint.parse service

/-! ## Apple -/

/-- A client for a bundle of certificates. Model of `ApnsClient.from_pem`. -/
def Apns.Client.ofBundle (m : Machine) (bundle : List UInt8) (topic : Option String)
    (o : ClientOptions) : Except ConstructionError Apns.Client := do
  let capabilities ← Capabilities.ofBytes bundle
  capabilities.checkTopic topic
  let sandbox := capabilities.isSandbox || o.sandbox
  let endpoint ← o.base (if sandbox then Apns.sandboxEndpoint else Apns.productionEndpoint)
  if m.isIdentity bundle then
    return { endpoint := endpoint, retries := o.retries, capabilities := capabilities }
  else throw .client

/-! ## Firebase -/

/-- A client for a project whose tokens come from anywhere. Model of `FcmClient.with_client`. -/
def Fcm.Client.ofProject (project : String) (o : ClientOptions) :
    Except ConstructionError Fcm.Client := do
  let endpoint ← o.base Fcm.defaultEndpoint
  return {
    endpoint := endpoint, project := project, retries := o.retries, validateOnly := o.sandbox }

/-- A client for a service account, with the account. Model of `FcmClient.from_service_account`. -/
def Fcm.Client.ofServiceAccount (m : Machine) (file : List UInt8) (o : ClientOptions) :
    Except ConstructionError (Fcm.Client × OAuth.ServiceAccount) := do
  match OAuth.ServiceAccount.ofBytes? file with
  | none => throw .serviceAccount
  | some account =>
    if m.isSigningKey account.privateKey then
      let client ← Fcm.Client.ofProject account.projectId o
      return (client, { account with signingFault? := m.signingFault? account.privateKey })
    else throw .signingKey

/-! ## The legacy Google service -/

/-- A client for a server key. Model of `GcmClient.new`. -/
def Gcm.Client.ofKey (key : String) (o : ClientOptions) : Except ConstructionError Gcm.Client := do
  if Gcm.isServerKey key then
    let endpoint ← o.base Gcm.defaultEndpoint
    return { endpoint := endpoint, retries := o.retries, dryRun := o.sandbox, serverKey := key }
  else throw .invalidServerKey

end Courier
