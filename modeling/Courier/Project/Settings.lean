import Courier.Policy
import Courier.Yaml.Kept

/-!
# Settings of a project

What the settings say about one project, and the policy that follows from them. A field that is
missing has a default, which may depend on the push network.
-/

namespace Courier

/-- How a project proves to its push network who it is. Model of `ProviderConfig`. -/
inductive Credentials
  | apns (pem : String) (topic : Option String)
  | fcm (serviceAccount : String)
  | gcm (key : String)
  deriving DecidableEq, Repr, Inhabited

/-- The push network that credentials are for. -/
def Credentials.network : Credentials → Network
  | .apns .. => .apns
  | .fcm _ => .fcm
  | .gcm _ => .gcm

/-- The file that credentials are in; a server key stands in the settings themselves. -/
def Credentials.file? : Credentials → Option String
  | .apns pem _ => some pem
  | .fcm serviceAccount => some serviceAccount
  | .gcm _ => none

/-- The settings of a project. Zero workers stand for as many as there are processors.
    Model of `ProjectConfig`. -/
structure Project where
  id : String
  credentials : Credentials
  nopMode : Bool := false
  workers : Nat := 0
  sandbox : Bool := false
  allowAlerts : Bool := false
  sound : String := ""
  retries : Option Int := none
  timeoutMs : Option Nat := none
  endpoint : Option String := none
  deriving DecidableEq, Repr, Inhabited

/-- The number of attempts unless a project says otherwise. -/
def Network.defaultRetries : Network → Int
  | .apns => 1
  | .fcm => 2
  | .gcm => 1

/-- How long an attempt may take, in milliseconds, unless a project says otherwise. -/
def Network.defaultTimeoutMs : Network → Nat
  | .apns => 10000
  | .fcm => 1000
  | .gcm => 1000

namespace Project

/-- The push network of a project. Model of `ProjectConfig.kind`. -/
def network (p : Project) : Network := p.credentials.network

/-- The topic of a project; an empty one is none. -/
def topic (p : Project) : Option String :=
  match p.credentials with
  | .apns _ topic => topic.filter (· ≠ "")
  | _ => none

/-- The policy of a project on a machine with some processors. Model of `ProjectConfig.policy`. -/
def policy (p : Project) (processors : Nat) : Policy where
  allowAlerts := p.allowAlerts
  sound := p.sound
  topic := p.topic
  sandbox := p.sandbox
  concurrencyLimit := if p.workers = 0 then processors else p.workers
  retries := p.retries.getD p.network.defaultRetries
  timeoutMs := p.timeoutMs.getD p.network.defaultTimeoutMs

/-! ## Reading -/

open Yaml

/-- The fields that all projects have. -/
def fieldNames : List String :=
  ["project_id", "nop_mode", "workers", "sandbox", "allow_alerts", "sound", "retries", "timeout_ms",
    "endpoint"]

/-- The field that names the push network. -/
def networkField : String := "provider"

/-- The fields for the credentials of a push network. -/
def credentialNames : Network → List String
  | .apns => ["pem", "topic"]
  | .fcm => ["service_account"]
  | .gcm => ["key"]

/-- The push networks by name, in the order in which they are numbered too. -/
def networks : List (String × Network) :=
  [Network.apns, .fcm, .gcm].map fun n => (n.name, n)

/-- Reads the credentials among fields. -/
def credentials? (fields : List (String × Kept)) : Option Credentials := do
  let network ← (← (← known? [networkField] fields).lookup networkField).choice? networks
  let r ← known? (credentialNames network) fields
  match network with
  | .apns =>
    let topic ← (r.lookup "topic").elim (some none) Kept.optionalText?
    some (.apns (← (← r.lookup "pem").text?) topic)
  | .fcm => some (.fcm (← (← r.lookup "service_account").text?))
  | .gcm => some (.gcm (← (← r.lookup "key").text?))

/-- How many collections may be inside one another in a field that not all projects have: in all
    128, of which three are around it. -/
def keptDepth : Nat := 128 - 3

/-- Keeps the fields that not all projects have. -/
def keep (fields : List (String × Node)) : Reading (List (String × Kept)) :=
  (fields.filter (·.1 ∉ fieldNames)).mapM fun (name, n) => do
    pure (name, ← Kept.ofNode keptDepth n)

/-- Reads the settings of a project. -/
def ofNode (n : Node) : Reading Project := do
  let fields ← Reading.fields n
  let r ← known? fieldNames fields
  pure {
    id := ← Reading.required r "project_id" Reading.text
    credentials := ← credentials? (← keep fields)
    nopMode := ← Reading.defaulting r "nop_mode" false Reading.truth
    workers := ← Reading.defaulting r "workers" 0 (Reading.nat (Nat.pow 2 64 - 1))
    sandbox := ← Reading.defaulting r "sandbox" false Reading.truth
    allowAlerts := ← Reading.defaulting r "allow_alerts" false Reading.truth
    sound := ← Reading.defaulting r "sound" "" Reading.text
    retries := ← Reading.defaulting r "retries" none
      (Reading.optional (Reading.int (-Nat.pow 2 31) (Nat.pow 2 31 - 1)))
    timeoutMs := ← Reading.defaulting r "timeout_ms" none
      (Reading.optional (Reading.nat (Nat.pow 2 64 - 1)))
    endpoint := ← Reading.defaulting r "endpoint" none (Reading.optional Reading.text) }

/-- Reads a list of projects. -/
def listOfNode (n : Node) : Reading (List Project) := Reading.items ofNode n

/-- Reads a list of projects from a text. -/
def list? (text : String) : Option (List Project) :=
  (Document.ofText? text).bind fun d => d.read? listOfNode

end Project

end Courier
