import Courier.Proofs.Router.Assembly
import Courier.Service.Start
import Mathlib.Data.List.Nodup

/-!
# Starting with projects that pass

The checks on projects leave the number of workers alone. A project that can be built reserves that
many slots, and more than can be served break the whole assembly down, whatever the other projects
are. Nothing else does: every other fault of a project is listed beside the router.

Results:

* `Assembly.ofList_isSome_iff`: entries for different projects are assembled exactly if the building
  of none of them breaks down.
* `ReadyProject.build?_eq_none_iff`: which projects break the building down.
* `ReadyProject.valid_starts`: when projects that pass are assembled, and what into.
* `ReadyProject.not_valid_starts`: projects that pass may not be assembled.
-/

namespace Courier

open Dispatch (Dispatcher)

/-! ## Entries whose building breaks down -/

namespace Assembly

variable {α ω : Type} {id : α → String} {build : α → Option (Except ConstructionError ω)}

theorem foldlM_add_isSome_iff {l : List α} (hids : (l.map id).Nodup) {a : Assembly ω}
    (hnew : ∀ e ∈ l, a.router.workers.contains (id e) = false) :
    (l.foldlM (fun (a : Assembly ω) e => a.add (id e) fun () => build e) a).isSome ↔
      ∀ e ∈ l, build e ≠ none := by
  induction l generalizing a with
  | nil => simp
  | cons e l ih =>
    obtain ⟨he, hrest⟩ := List.nodup_cons.1 hids
    obtain ⟨hcontains, hothers⟩ := List.forall_mem_cons.1 hnew
    rw [List.foldlM_cons, List.forall_mem_cons, add, hcontains]
    cases hbuild : build e with
    | none => simp
    | some outcome =>
      cases outcome with
      | error error =>
        simp only [ne_eq, reduceCtorEq, not_false_eq_true, true_and]
        exact ih hrest hothers
      | ok worker =>
        simp only [ne_eq, reduceCtorEq, not_false_eq_true, true_and]
        refine ih hrest fun other hother => ?_
        rw [← Bool.not_eq_true, Dict.contains_insert, not_or, Bool.not_eq_true]
        exact ⟨fun heq => he (heq ▸ List.mem_map_of_mem hother), hothers other hother⟩

/-- Entries for different projects are assembled exactly if the building of none of them breaks
    down. -/
theorem ofList_isSome_iff {l : List α} (hids : (l.map id).Nodup) :
    (ofList id build l).isSome ↔ ∀ e ∈ l, build e ≠ none :=
  foldlM_add_isSome_iff (a := empty) hids fun _ _ => rfl

end Assembly

/-! ## Slots -/

/-- Whether the slots that a project asks for can be served. -/
def Project.FitsOn (p : Project) (m : Machine) : Prop :=
  (p.policy m.processors).concurrencyLimit ≤ Dispatcher.maxSlots

theorem Project.fitsOn_iff (p : Project) (m : Machine) :
    p.FitsOn m ↔ p.workers ≤ Dispatcher.maxSlots ∧
      (p.workers = 0 → m.processors ≤ Dispatcher.maxSlots) := by
  show (if p.workers = 0 then m.processors else p.workers) ≤ _ ↔ _
  split <;> omega

namespace ReadyProject

theorem policy_of_build {m : Machine} {p : Project} {s : ReadyProject} (h : build m p = .ok s) :
    s.policy = p.policy m.processors := by
  obtain ⟨o, -, hclient⟩ := bind_eq_ok_iff.1 h
  obtain ⟨client, -, hs⟩ := bind_eq_ok_iff.1 hclient
  exact (congrArg policy (Except.ok.inj hs)).symm

/-- The slots of a project fit exactly if a dispatcher for them comes about. -/
theorem fits_iff (s : ReadyProject) :
    s.fits = true ↔ s.policy.concurrencyLimit ≤ Dispatcher.maxSlots := by
  rw [← Dispatcher.new_isSome_iff (R := Unit), Dispatcher.new, fits, decide_eq_true_iff]
  split <;> simp_all

/-- The building breaks down for projects that can be built but ask for too many slots. -/
theorem build?_eq_none_iff (m : Machine) (p : Project) :
    build? m p = none ↔ (∃ s, build m p = .ok s) ∧ ¬ p.FitsOn m := by
  unfold build?
  cases hbuild : build m p with
  | error error => simp
  | ok s =>
    have hfits : s.fits = true ↔ p.FitsOn m := by
      rw [fits_iff, policy_of_build hbuild, Project.FitsOn]
    by_cases h : p.FitsOn m
    · simp [hfits.2 h, h]
    · simp [mt hfits.1 h, h]

theorem build?_of_ne_none {m : Machine} {p : Project} (h : build? m p ≠ none) :
    build? m p = some (build m p) := by
  unfold build? at h ⊢
  cases hbuild : build m p with
  | error error => rfl
  | ok s =>
    rw [hbuild] at h
    by_cases hfits : s.fits = true
    · exact if_pos hfits
    · exact absurd (if_neg hfits) h

/-! ## Starting -/

/-- A service whose settings pass, and whose reports can go where they should, crashes exactly if
    its projects are not assembled. -/
theorem start_crashed_iff {m : Machine} {config : Config}
    (hvalid : Project.validate config.projects = .ok ())
    (hreadable : config.logging.isReadable = true)
    (hmetrics : ∀ target, config.metrics = some target → target.check m = .ok ()) :
    Service.start m config = .error .crashed ↔ assemble? m config.projects = none := by
  have hend (a : Assembly ReadyProject) (empty listens : Bool) :
      (if empty then .error .noProjects else if !listens then .error .listener
        else .ok ⟨config, a⟩ : Except StartError Service.Running) ≠ .error .crashed := by
    cases empty <;> cases listens <;> exact nofun
  unfold Service.start
  rw [hvalid, hreadable]
  cases hassemble : assemble? m config.projects with
  | none =>
    refine iff_of_true ?_ rfl
    cases htarget : config.metrics with
    | none => rfl
    | some target =>
      simp only [hmetrics target htarget]
      rfl
  | some a =>
    refine iff_of_false ?_ nofun
    cases htarget : config.metrics with
    | none => exact hend a _ _
    | some target =>
      simp only [hmetrics target htarget]
      exact hend a _ _

/-- What becomes of projects that pass on some machine. -/
structure Starts (m : Machine) (projects : List Project) : Prop where
  /-- They are assembled exactly if the slots fit of all that can be built. -/
  returns : (assemble? m projects).isSome ↔
    ∀ p ∈ projects, (∃ s, build m p = .ok s) → p.FitsOn m
  /-- Then each project that can be built is served, -/
  served : ∀ a, assemble? m projects = some a →
    ∀ p ∈ projects, a.router.workers.get? p.id = (build m p).toOption
  /-- and the failures are the others in order, each for its own reason. -/
  failures : ∀ a, assemble? m projects = some a →
    a.failures = Assembly.refused (projects.map fun p => (p.id, build m p))
  /-- If reports can go where they should, the service crashes in no other case. -/
  crashes : ∀ config : Config, config.projects = projects → config.logging.isReadable = true →
    (∀ target, config.metrics = some target → target.check m = .ok ()) →
    (Service.start m config = .error .crashed ↔
      ∃ p ∈ projects, (∃ s, build m p = .ok s) ∧ ¬ p.FitsOn m)

theorem assemble?_isSome_iff {m : Machine} {projects : List Project}
    (hvalid : Project.validate projects = .ok ()) :
    (assemble? m projects).isSome ↔ ∀ p ∈ projects, (∃ s, build m p = .ok s) → p.FitsOn m := by
  rw [assemble?, Assembly.ofList_isSome_iff (Project.nodup_of_validate hvalid)]
  simp only [ne_eq, build?_eq_none_iff, not_and, not_not]

/-- The places of projects that pass and are assembled. -/
theorem holds_of_assemble? {m : Machine} {projects : List Project}
    (hvalid : Project.validate projects = .ok ()) {a : Assembly ReadyProject}
    (ha : assemble? m projects = some a) :
    a.Holds (projects.map fun p => (p.id, build m p)) := by
  have hids := Project.nodup_of_validate hvalid
  have hbuild : ∀ p ∈ projects, build? m p = some (build m p) := fun p hp =>
    build?_of_ne_none ((Assembly.ofList_isSome_iff hids).1 (by rw [← assemble?, ha]; rfl) p hp)
  obtain ⟨found, hfound, hholds⟩ := Assembly.exists_ofList Project.id (build m) hbuild
  obtain rfl : found = a := Option.some.inj (hfound.symm.trans ha)
  rwa [Assembly.places_of_nodup _ _ hids] at hholds

/-- Projects that pass are assembled into a router exactly if none of them asks for more slots than
    can be served. Whatever else may be wrong with one of them keeps no other from being served. -/
theorem valid_starts (m : Machine) {projects : List Project}
    (hvalid : Project.validate projects = .ok ()) : Starts m projects where
  returns := assemble?_isSome_iff hvalid
  served := by
    intro a ha p hp
    apply Option.ext
    intro s
    rw [(holds_of_assemble? hvalid ha).get?_eq_some_iff]
    constructor
    · intro hmem
      obtain ⟨other, hother, heq⟩ := List.mem_map.1 hmem
      obtain ⟨hid, hbuild⟩ := Prod.mk.inj heq
      obtain rfl := List.inj_on_of_nodup_map (Project.nodup_of_validate hvalid) hother hp hid
      rw [hbuild]
      rfl
    · intro hs
      cases hbuild : build m p with
      | ok found =>
        rw [hbuild] at hs
        exact List.mem_map.2 ⟨p, hp, by rw [hbuild, Option.some.inj hs]⟩
      | error error =>
        rw [hbuild] at hs
        cases hs
  failures := fun a ha => (holds_of_assemble? hvalid ha).failures_eq
  crashes := by
    rintro config rfl hreadable hmetrics
    rw [start_crashed_iff hvalid hreadable hmetrics, ← Option.not_isSome_iff_eq_none,
      assemble?_isSome_iff hvalid]
    simp only [not_forall, exists_prop]

/-! Two projects with server keys. The second one has as many workers as can be served, or one
    more. -/

/-- A machine with four processors and no files. -/
def bareMachine : Machine := .ofFiles [] 4

/-- A project with a number of workers. -/
def staffed (id : String) (workers : Nat) : Project :=
  { id := id, credentials := .gcm "key", workers := workers, endpoint := some "http://[::1]" }

theorem exists_build_staffed :
    ∀ p ∈ [staffed "a" 0, staffed "b" (Nat.pow 2 61 - 1), staffed "b" (Nat.pow 2 61)],
      ∃ s, build bareMachine p = .ok s := by
  have hbuilt :
      ∀ p ∈ [staffed "a" 0, staffed "b" (Nat.pow 2 61 - 1), staffed "b" (Nat.pow 2 61)],
        (build bareMachine p).toOption.isSome = true := by decide +kernel
  intro p hp
  obtain ⟨s, hs⟩ := Option.isSome_iff_exists.1 (hbuilt p hp)
  cases hbuild : build bareMachine p with
  | ok s => exact ⟨s, rfl⟩
  | error error =>
    rw [hbuild] at hs
    cases hs

theorem valid_starts_two :
    Project.validate [staffed "a" 0, staffed "b" (Nat.pow 2 61 - 1)] = .ok () ∧
    Starts bareMachine [staffed "a" 0, staffed "b" (Nat.pow 2 61 - 1)] ∧
    (assemble? bareMachine [staffed "a" 0, staffed "b" (Nat.pow 2 61 - 1)]).isSome := by
  have hvalid : Project.validate [staffed "a" 0, staffed "b" (Nat.pow 2 61 - 1)] = .ok () := by
    decide +kernel
  have hfits : ∀ p ∈ [staffed "a" 0, staffed "b" (Nat.pow 2 61 - 1)],
      p.workers ≤ Dispatcher.maxSlots ∧
        (p.workers = 0 → bareMachine.processors ≤ Dispatcher.maxSlots) := by
    decide +kernel
  have hstarts := valid_starts bareMachine hvalid
  exact ⟨hvalid, hstarts, hstarts.returns.2 fun p hp _ => (p.fitsOn_iff _).2 (hfits p hp)⟩

/-- Projects that pass the checks may break the assembly down: one worker more than can be served
    leaves nobody served, though the other project can be. -/
theorem not_valid_starts :
    Project.validate [staffed "a" 0, staffed "b" (Nat.pow 2 61)] = .ok () ∧
    (∀ p ∈ [staffed "a" 0, staffed "b" (Nat.pow 2 61)], p.workers < Nat.pow 2 64) ∧
    assemble? bareMachine [staffed "a" 0, staffed "b" (Nat.pow 2 61)] = none ∧
    (assemble? bareMachine [staffed "a" 0]).isSome := by
  have hvalid : Project.validate [staffed "a" 0, staffed "b" (Nat.pow 2 61)] = .ok () := by
    decide +kernel
  have halone : Project.validate [staffed "a" 0] = .ok () := by decide +kernel
  have hfirst : (staffed "a" 0).FitsOn bareMachine :=
    (Project.fitsOn_iff _ _).2 (by decide +kernel)
  refine ⟨hvalid, by decide +kernel, ?_, (assemble?_isSome_iff halone).2 fun p hp _ => ?_⟩
  · rw [← Option.not_isSome_iff_eq_none, assemble?_isSome_iff hvalid]
    intro hfits
    have hlast : (staffed "b" (Nat.pow 2 61)).FitsOn bareMachine :=
      hfits _ (by simp) (exists_build_staffed _ (by simp))
    exact absurd ((Project.fitsOn_iff _ _).1 hlast).1 (by decide +kernel)
  · obtain rfl := List.mem_singleton.1 hp
    exact hfirst

end ReadyProject

end Courier
