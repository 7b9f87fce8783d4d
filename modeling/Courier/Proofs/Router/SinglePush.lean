import Courier.Proofs.Dispatch.Serving
import Courier.Router.FanOut

/-!
# What a push has to find

Which devices of a push turn out to be dead is determined by its projects, one by one. Serving the
projects one after the other finds just these.

Results:

* `Router.deadTokens_reports`: the dead tokens among the outcomes of a project are its dead devices.
* `Router.agrees_of_workers`: workers that ask push networks agree with the sites of a router.
* `Router.singlePush_get?`: what serving the projects one after the other finds.
-/

namespace Courier

open Dispatch (Outcome deadTokens outcomes)

variable {R σ : Type}

/-! ## One project -/

namespace Router

/-- What is reported for a project. Nothing is for a project that is not known. -/
def reports (r : Router (Site R)) (replies : String → Nat → Verdict) (n : Notification)
    (project : String) (devices : List String) : List Outcome :=
  match r.workers.get? project with
  | some site => (site.job n devices).outcomes (replies project)
  | none => []

/-- The devices of a project that turn out to be dead. A project that is not known has none. -/
def deadDevices (r : Router (Site R)) (replies : String → Nat → Verdict) (n : Notification)
    (project : String) (devices : List String) : List String :=
  match r.workers.get? project with
  | some site => (site.job n devices).deadDevices (replies project)
  | none => []

theorem deadDevices_of_known {r : Router (Site R)} {project : String} {site : Site R}
    (h : r.workers.get? project = some site) (replies : String → Nat → Verdict) (n : Notification)
    (devices : List String) :
    r.deadDevices replies n project devices =
      (site.job n devices).deadDevices (replies project) := by
  rw [deadDevices, h]

theorem deadDevices_of_unknown {r : Router (Site R)} {project : String}
    (h : r.workers.get? project = none) (replies : String → Nat → Verdict) (n : Notification)
    (devices : List String) : r.deadDevices replies n project devices = [] := by
  rw [deadDevices, h]

/-- The dead tokens among the outcomes of a project are its dead devices. -/
theorem deadTokens_reports (r : Router (Site R)) (replies : String → Nat → Verdict)
    (n : Notification) (project : String) (devices : List String) :
    deadTokens (r.reports replies n project devices) =
      r.deadDevices replies n project devices := by
  unfold reports deadDevices
  cases r.workers.get? project with
  | none => rfl
  | some site => exact Dispatch.Job.deadTokens_outcomes _ _

/-! ## All projects -/

/-- Whether workers report for each project of a push, at any time, what the sites of a router do if
    their calls are answered by `replies`. -/
def Agrees (workers : Router (Worker σ)) (r : Router (Site R)) (replies : String → Nat → Verdict)
    (p : Push) : Prop :=
  ∀ project devices s, p.destinations.get? project = some devices →
    workers.outcomesOf s p.notification project devices =
      r.reports replies p.notification project devices

/-- Workers that ask push networks agree with the sites of a router whose calls are answered by the
    same networks. -/
theorem agrees_of_workers {workers : Router (Worker σ)} {r : Router (Site R)}
    {replies : String → Nat → Verdict} {p : Push} {network : String → Network}
    {deliver : String → R → String → σ → Verdict × σ}
    (hstands : ∀ project k, (replies project k).Stands)
    (hworkers : ∀ project, workers.workers.get? project = (r.workers.get? project).map fun site =>
      Dispatch.worker (network project) site.convert (deliver project) site.nopMode fun _ => false)
    (hanswers : ∀ project devices site s, p.destinations.get? project = some devices →
      r.workers.get? project = some site →
      Dispatch.AnsweredBy (replies project) false 0
        ((site.job p.notification devices).answers (deliver project) s)) :
    workers.Agrees r replies p := by
  intro project devices s hdevices
  unfold outcomesOf reports
  rw [hworkers]
  cases hsite : r.workers.get? project with
  | none => rfl
  | some site =>
    exact Dispatch.worker_outcomes (hstands project) (network project) site.convert site.nopMode
      devices p.notification s (hanswers project devices site s hdevices hsite)

theorem invalidations_fst (r : Router (Worker σ)) (n : Notification) (project : String)
    (devices : List String) (s : σ) :
    (r.invalidations n project devices s).1 =
      deadTokens (r.outcomesOf s n project devices) := by
  unfold invalidations outcomesOf
  cases r.workers.get? project <;> rfl

theorem serveAll_fst {r : Router (Worker σ)} {n : Notification}
    {found : String → List String → List String} (l : List (String × List String))
    (h : ∀ e ∈ l, ∀ s, deadTokens (r.outcomesOf s n e.1 e.2) = found e.1 e.2) (s : σ) :
    (r.serveAll n l s).1 = l.map fun e => (e.1, found e.1 e.2) := by
  induction l generalizing s with
  | nil => rfl
  | cons e rest ih =>
    obtain ⟨project, devices⟩ := e
    show (project, (r.invalidations n project devices s).1) ::
      (r.serveAll n rest (r.invalidations n project devices s).2.2).1 = _
    rw [ih fun e he => h e (List.mem_cons_of_mem _ he), invalidations_fst, List.map_cons]
    rw [h (project, devices) List.mem_cons_self]

theorem lookup_map_key (found : String → List String → List String)
    (l : List (String × List String)) (key : String) :
    (l.map fun e => (e.1, found e.1 e.2)).lookup key = (l.lookup key).map (found key) := by
  induction l with
  | nil => rfl
  | cons e rest ih =>
    rw [List.map_cons, List.lookup_cons, List.lookup_cons, ih]
    split
    · rename_i heq
      rw [eq_of_beq heq]
      rfl
    · rfl

/-- Serving the projects of a push one after the other finds the dead devices of each. -/
theorem singlePush_get? {workers : Router (Worker σ)} {r : Router (Site R)}
    {replies : String → Nat → Verdict} {p : Push} (h : workers.Agrees r replies p) (s : σ)
    (project : String) :
    (workers.singlePush p s).1.get? project =
      (p.destinations.get? project).map (r.deadDevices replies p.notification project) := by
  have hfound : ∀ e ∈ p.destinations.entries, ∀ s,
      deadTokens (workers.outcomesOf s p.notification e.1 e.2) =
        r.deadDevices replies p.notification e.1 e.2 := by
    intro e he s
    rw [h e.1 e.2 s ((p.destinations.get?_eq_some_iff _ _).2 he), deadTokens_reports]
  show (Dict.ofList (workers.serveAll p.notification p.destinations.entries s).1).get? project = _
  rw [serveAll_fst _ hfound, Dict.get?_ofList, lookup_map_key]
  · rfl
  · rw [List.map_map]
    exact p.destinations.nodup_keys

end Router

end Courier
