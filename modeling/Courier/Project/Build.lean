import Courier.Dispatch.Slots
import Courier.Project.Client
import Courier.Project.Settings
import Courier.Router.Push

/-!
# Serving projects

From the settings of projects to a router that serves them.
-/

namespace Courier

/-- A client for any push network. -/
inductive Client
  | apns (client : Apns.Client)
  | fcm (client : Fcm.Client) (account : OAuth.ServiceAccount)
  | gcm (client : Gcm.Client)

/-- A project that can be served. -/
structure ReadyProject where
  project : Project
  policy : Policy
  client : Client

namespace ReadyProject

/-- The client of a project. Model of `build_worker` without its dispatcher. -/
def client? (m : Machine) (p : Project) (policy : Policy) (o : ClientOptions) :
    Except ConstructionError Client :=
  match p.credentials with
  | .apns pem _ => do
    let bundle ← m.readCredential pem
    return .apns (← Apns.Client.ofBundle m bundle.data.toList policy.topic o)
  | .fcm file => do
    let file ← m.readCredential file
    let (client, account) ← Fcm.Client.ofServiceAccount m file.data.toList o
    return .fcm client account
  | .gcm key => return .gcm (← Gcm.Client.ofKey key o)

/-- Builds a project. -/
def build (m : Machine) (p : Project) : Except ConstructionError ReadyProject := do
  let policy := p.policy m.processors
  let o ← ClientOptions.new policy p.endpoint
  let client ← client? m p policy o
  return ⟨p, policy, client⟩

/-- Whether the slots of a project can be served; with too many the building breaks down. -/
def fits (s : ReadyProject) : Bool :=
  Dispatch.Dispatcher.slots s.policy.concurrencyLimit ≤ Dispatch.Dispatcher.maxSlots

/-- Builds a project, unless the building breaks down. -/
def build? (m : Machine) (p : Project) : Option (Except ConstructionError ReadyProject) :=
  match build m p with
  | .ok s => if s.fits then some (.ok s) else none
  | .error error => some (.error error)

/-- A router for projects, unless the building breaks down. -/
def assemble? (m : Machine) (projects : List Project) : Option (Assembly ReadyProject) :=
  Assembly.ofList Project.id (build? m) projects

/-! ## Delivery -/

/-- A network for many projects, with a clock and a slot for the token of each project. -/
structure Net (σ : Type) where
  wire : Http.Wire σ
  clock : σ → Moment
  load : String → σ → Option OAuth.AccessToken
  store : String → OAuth.AccessToken → σ → σ

variable {σ : Type}

/-- The tokens of a project. -/
def Net.tokens (net : Net σ) (project : String) (account : OAuth.ServiceAccount) :
    OAuth.Tokens σ where
  now := net.clock
  load := net.load project
  store := net.store project
  fetch := account.fetch net.wire net.clock

/-- The worker of a project, with the time at which notifications are converted. -/
def worker (s : ReadyProject) (net : Net σ) (now : Moment) : Worker σ :=
  let cancelled := net.wire.cancelled
  match s.client with
  | .apns client =>
    Dispatch.worker .apns (fun n => Apns.convert n s.policy client.capabilities now)
      (client.deliver net.wire) s.project.nopMode cancelled
  | .fcm client account =>
    Dispatch.worker .fcm (fun n => Fcm.convert n s.policy)
      (client.deliver net.wire (net.tokens s.project.id account)) s.project.nopMode cancelled
  | .gcm client =>
    Dispatch.worker .gcm (fun n => Gcm.convert n s.policy) (client.deliver net.wire)
      s.project.nopMode cancelled

/-- The workers of a router. -/
def workers (r : Router ReadyProject) (net : Net σ) (now : Moment) : Router (Worker σ) :=
  ⟨r.workers.mapValues fun s => s.worker net now⟩

end ReadyProject

end Courier
