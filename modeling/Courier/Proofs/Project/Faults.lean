import Courier.Project.Build
import Courier.Proofs.Fallible

/-!
# Faults of a project by itself

What keeps a project from being built lies in the project and in the machine: its endpoint, its
credential file and what is in that. That there is another project with the same id is none of it.

Results:

* `ReadyProject.build_failsOnly`: no project is a duplicate when it is built.
-/

namespace Courier

/-- Whether an error is about a project by itself. -/
def ConstructionError.IsOwn (e : ConstructionError) : Prop := ∀ id, e ≠ .duplicateProject id

open ConstructionError (IsOwn)

/-! ## Endpoints and files -/

theorem Endpoint.parse_failsOnly (raw : String) : FailsOnly IsOwn (parse raw) := by
  unfold parse
  split
  · exact .ok _
  · exact .error nofun
  · exact .error nofun

theorem ClientOptions.new_failsOnly (policy : Policy) (endpoint : Option String) :
    FailsOnly IsOwn (new policy endpoint) := by
  refine .bind ?_ fun _ => .ok _
  cases endpoint with
  | none => exact .ok _
  | some raw => exact .bind (Endpoint.parse_failsOnly raw) fun _ => .ok _

theorem ClientOptions.base_failsOnly (o : ClientOptions) (service : String) :
    FailsOnly IsOwn (o.base service) := by
  unfold base
  split
  · exact .ok _
  · exact Endpoint.parse_failsOnly service

theorem Machine.readCredential_failsOnly (m : Machine) (path : String) :
    FailsOnly IsOwn (m.readCredential path) := by
  unfold readCredential
  split
  · exact .error nofun
  · split
    · exact .ok _
    · exact .error nofun

/-! ## Certificates -/

namespace Capabilities

theorem applyBlock_failsOnly (read : List UInt8 → Option Certificate) (c : Capabilities)
    (block : Option Pem.Block) : FailsOnly IsOwn (applyBlock read c block) := by
  unfold applyBlock
  split
  · exact .error nofun
  · split
    · split
      · exact .error nofun
      · rename_i certificate _
        cases certificate.extensions.foldlM apply c with
        | ok c' => exact .ok c'
        | error e => exact .error nofun
    · exact .ok c

theorem ofBytes_failsOnly (bytes : List UInt8) : FailsOnly IsOwn (ofBytes bytes) := by
  unfold ofBytes
  split
  · refine .bind (.foldlM (applyBlock_failsOnly _) _ _) fun c => ?_
    split
    · exact .ok c
    · exact .error nofun
  · exact .error nofun

theorem checkTopic_failsOnly (c : Capabilities) (topic : Option String) :
    FailsOnly IsOwn (c.checkTopic topic) := by
  unfold checkTopic
  split
  · exact .ok _
  · split
    · exact .ok _
    · exact .error nofun

end Capabilities

/-! ## Clients -/

theorem Apns.Client.ofBundle_failsOnly (m : Machine) (bundle : List UInt8) (topic : Option String)
    (o : ClientOptions) : FailsOnly IsOwn (ofBundle m bundle topic o) := by
  refine .bind (Capabilities.ofBytes_failsOnly bundle) fun c => ?_
  refine .bind (c.checkTopic_failsOnly topic) fun _ => ?_
  refine .bind (o.base_failsOnly _) fun endpoint => ?_
  split
  · exact .ok _
  · exact .error nofun

theorem Fcm.Client.ofServiceAccount_failsOnly (m : Machine) (file : List UInt8)
    (o : ClientOptions) : FailsOnly IsOwn (ofServiceAccount m file o) := by
  unfold ofServiceAccount
  split
  · exact .error nofun
  · split
    · refine .bind ?_ fun _ => .ok _
      exact .bind (o.base_failsOnly _) fun _ => .ok _
    · exact .error nofun

theorem Gcm.Client.ofKey_failsOnly (key : String) (o : ClientOptions) :
    FailsOnly IsOwn (ofKey key o) := by
  unfold ofKey
  split
  · exact .bind (o.base_failsOnly _) fun _ => .ok _
  · exact .error nofun

/-! ## Projects -/

namespace ReadyProject

theorem client?_failsOnly (m : Machine) (p : Project) (policy : Policy) (o : ClientOptions) :
    FailsOnly IsOwn (client? m p policy o) := by
  unfold client?
  split
  · refine .bind (m.readCredential_failsOnly _) fun bundle => ?_
    exact .bind (Apns.Client.ofBundle_failsOnly m _ _ o) fun _ => .ok _
  · refine .bind (m.readCredential_failsOnly _) fun file => ?_
    exact .bind (Fcm.Client.ofServiceAccount_failsOnly m _ o) fun _ => .ok _
  · exact .bind (Gcm.Client.ofKey_failsOnly _ o) fun _ => .ok _

/-- No project is a duplicate when it is built. -/
theorem build_failsOnly (m : Machine) (p : Project) : FailsOnly IsOwn (build m p) := by
  refine .bind (ClientOptions.new_failsOnly _ p.endpoint) fun o => ?_
  exact .bind (client?_failsOnly m p _ o) fun _ => .ok _

end ReadyProject

end Courier
