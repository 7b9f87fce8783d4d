/-!
# Policies

How one project wants its pushes delivered.
-/

namespace Courier

/-- The delivery settings of a project. Model of `ProjectPolicy`. -/
structure Policy where
  allowAlerts : Bool := false
  sound : String := ""
  topic : Option String := none
  sandbox : Bool := false
  concurrencyLimit : Nat := 1
  retries : Int := 1
  timeoutMs : Nat := 10000
  deriving DecidableEq, Repr, Inhabited

/-- A push network. Model of `ProviderKind`. -/
inductive Network
  | apns
  | fcm
  | gcm
  deriving DecidableEq, Repr, Inhabited

/-- The name of a push network in settings and metrics. Model of `ProviderKind.as_str`. -/
def Network.name : Network → String
  | .apns => "apns"
  | .fcm => "fcm-v1"
  | .gcm => "gcm"

end Courier
