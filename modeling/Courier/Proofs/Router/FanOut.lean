import Courier.Proofs.Router.Errand
import Courier.Proofs.Router.SinglePush
import Mathlib.Algebra.GroupWithZero.Nat

/-!
# The dead tokens of a push

All projects of a push are served at once, each by its own dispatcher. When all results are joined,
each project of the push has a list, whatever the order of the steps was: the dead devices of that
project, or a start of them if the push was cancelled.

Results:

* `FanOut.sound_steps`: what holds in every state of a push.
* `FanOut.rests_or_moves`: a push is over, or a project waits for a slot, or a step brings the push
  nearer to its end.
* `FanOut.steps_gather`: what a push finds, in every order of steps.
-/

namespace Courier

open Dispatch (Job Outcome outcomes deadTokens)

variable {R : Type}

/-! ## Lists with a changed element -/

theorem map_modify_of_eq {α β : Type} {f : α → α} {g : α → β} (h : ∀ a, g (f a) = g a)
    (l : List α) (i : Nat) : (l.modify i f).map g = l.map g := by
  induction l generalizing i with
  | nil => simp
  | cons a l ih => cases i <;> simp [h, ih]

theorem mem_modify {α : Type} {f : α → α} {l : List α} {i : Nat} {b : α}
    (h : b ∈ l.modify i f) : b ∈ l ∨ ∃ a, l[i]? = some a ∧ b = f a := by
  induction l generalizing i with
  | nil => simp at h
  | cons a l ih =>
    cases i with
    | zero =>
      rw [List.modify_zero_cons] at h
      rcases List.mem_cons.1 h with rfl | h
      · exact .inr ⟨a, rfl, rfl⟩
      · exact .inl (List.mem_cons_of_mem _ h)
    | succ i =>
      rw [List.modify_succ_cons] at h
      rcases List.mem_cons.1 h with rfl | h
      · exact .inl List.mem_cons_self
      · exact (ih h).imp_left (List.mem_cons_of_mem _)

theorem sum_modify {α : Type} {f : α → α} {l : List α} {i : Nat} {a : α} (ha : l[i]? = some a)
    (w : α → Nat) : ((l.modify i f).map w).sum + w a = (l.map w).sum + w (f a) := by
  induction l generalizing i with
  | nil => simp at ha
  | cons b l ih =>
    cases i with
    | zero =>
      obtain rfl := Option.some.inj ha
      simp only [List.modify_zero_cons, List.map_cons, List.sum_cons]
      omega
    | succ i =>
      have := ih ha
      simp only [List.modify_succ_cons, List.map_cons, List.sum_cons]
      omega

theorem sum_modify_lt {α : Type} {f : α → α} {w : α → Nat} {l : List α} {i : Nat} {a : α}
    (ha : l[i]? = some a) (h : w (f a) < w a) : ((l.modify i f).map w).sum < (l.map w).sum := by
  have := sum_modify (f := f) ha w
  omega

/-! ## What a project has to find -/

namespace Router

/-- Whether the result for a project is right: a start of its dead devices, and all of them if the
    push is not cancelled. -/
def Finds (r : Router (Site R)) (replies : String → Nat → Verdict) (p : Push) (cancelled : Bool)
    (project : String) (dead : List String) : Prop :=
  ∃ devices, p.destinations.get? project = some devices ∧
    dead <+: r.deadDevices replies p.notification project devices ∧
    (cancelled = false → dead = r.deadDevices replies p.notification project devices)

theorem Finds.mono {r : Router (Site R)} {replies : String → Nat → Verdict} {p : Push}
    {cancelled : Bool} {project : String} {dead : List String}
    (h : r.Finds replies p cancelled project dead) : r.Finds replies p true project dead := by
  obtain ⟨devices, hdevices, hstart, -⟩ := h
  exact ⟨devices, hdevices, hstart, nofun⟩

end Router

variable {r : Router (Site R)} {replies : String → Nat → Verdict} {p : Push}
  {cancelled : Bool}

/-! ## One project -/

namespace Lane

/-- What holds of the part of a push that goes to one project, in every state. -/
def Sound (r : Router (Site R)) (replies : String → Nat → Verdict) (p : Push) (cancelled : Bool)
    (l : Lane R) : Prop :=
  ∃ devices, p.destinations.get? l.project = some devices ∧
    match l.errand? with
    | none => r.workers.get? l.project = none
    | some e => ∃ site, r.workers.get? l.project = some site ∧
      e.job = site.job p.notification devices ∧ e.Sound (replies l.project) cancelled

theorem modify_sound {l : Lane R} {cancelled' : Bool} {f : Errand R → Errand R}
    (h : l.Sound r replies p cancelled) (hjob : ∀ e, (f e).job = e.job)
    (hf : ∀ e : Errand R, e.Sound (replies l.project) cancelled →
      (f e).Sound (replies l.project) cancelled') :
    (l.modify f).Sound r replies p cancelled' := by
  obtain ⟨devices, hdevices, hl⟩ := h
  refine ⟨devices, hdevices, ?_⟩
  cases he : l.errand? with
  | none =>
    rw [he] at hl
    rw [modify, he]
    exact hl
  | some e =>
    rw [he] at hl
    obtain ⟨site, hsite, hejob, hsound⟩ := hl
    rw [modify, he]
    exact ⟨site, hsite, (hjob e).trans hejob, hf e hsound⟩

/-- The task for a project that is known is sound. -/
theorem errand_sound {l : Lane R} (h : l.Sound r replies p cancelled) {e : Errand R}
    (he : l.errand? = some e) : e.Sound (replies l.project) cancelled := by
  obtain ⟨devices, -, hl⟩ := h
  rw [he] at hl
  obtain ⟨site, -, -, hsound⟩ := hl
  exact hsound

/-- A complete part has the right result. -/
theorem finds_dead {l : Lane R} (h : l.Sound r replies p cancelled)
    (hcomplete : l.isComplete = true) : r.Finds replies p cancelled l.project l.dead := by
  obtain ⟨devices, hdevices, hl⟩ := h
  refine ⟨devices, hdevices, ?_⟩
  cases he : l.errand? with
  | none =>
    rw [he] at hl
    rw [dead, he, Router.deadDevices_of_unknown hl]
    exact ⟨List.prefix_refl _, fun _ => rfl⟩
  | some e =>
    rw [he] at hl
    obtain ⟨site, hsite, hejob, hsound⟩ := hl
    rw [isComplete, he] at hcomplete
    rw [dead, he, Router.deadDevices_of_known hsite, ← hejob]
    exact Errand.dead_of_isComplete hsound hcomplete

end Lane

/-! ## All projects -/

namespace FanOut

/-- What holds of a push in every state. -/
structure Sound (r : Router (Site R)) (replies : String → Nat → Verdict) (p : Push)
    (f : FanOut R) : Prop where
  projects : f.lanes.map Lane.project = p.destinations.keys
  lanes : ∀ l ∈ f.lanes, l.Sound r replies p f.cancelled
  joined : ∀ l ∈ f.lanes, l.joined = true → (f.result.get? l.project).isSome = true
  result : ∀ project dead, f.result.get? project = some dead →
    r.Finds replies p f.cancelled project dead

theorem sound_start (r : Router (Site R)) (replies : String → Nat → Verdict) (p : Push) :
    (start r p).Sound r replies p where
  projects := by
    show (p.destinations.entries.map _).map Lane.project = p.destinations.entries.map Prod.fst
    rw [List.map_map]
    rfl
  lanes := by
    intro l hl
    obtain ⟨⟨project, devices⟩, he, rfl⟩ := List.mem_map.1 hl
    refine ⟨devices, (p.destinations.get?_eq_some_iff project devices).2 he, ?_⟩
    cases hsite : r.workers.get? project with
    | none =>
      simp only [hsite, Option.map_none]
    | some site =>
      simp only [hsite, Option.map_some]
      exact ⟨site, rfl, rfl, rfl, rfl, rfl⟩
  joined := by
    intro l hl hj
    obtain ⟨e, -, rfl⟩ := List.mem_map.1 hl
    cases hj
  result := by
    intro project dead h
    cases h

theorem inside_sound {f : FanOut R} (hstands : ∀ project k, (replies project k).Stands)
    (h : f.Sound r replies p) (index : Nat) (s : Errand.Step R) :
    (f.step replies (.inside index s)).Sound r replies p where
  projects := by
    rw [← h.projects]
    refine map_modify_of_eq ?_ f.lanes index
    exact fun _ => rfl
  lanes := by
    intro l hl
    rcases mem_modify hl with hl | ⟨l', hl', rfl⟩
    · exact h.lanes l hl
    · exact Lane.modify_sound (h.lanes l' (List.mem_of_getElem? hl')) (fun e => e.step_job s)
        fun e he => Errand.step_sound (hstands l'.project) he s
  joined := by
    intro l hl hj
    rcases mem_modify hl with hl | ⟨l', hl', rfl⟩
    · exact h.joined l hl hj
    · exact h.joined l' (List.mem_of_getElem? hl') hj
  result := h.result

theorem cancel_sound {f : FanOut R} (h : f.Sound r replies p) :
    (f.step replies .cancel).Sound r replies p where
  projects := by
    rw [← h.projects]
    show (f.lanes.map _).map Lane.project = _
    rw [List.map_map]
    rfl
  lanes := by
    intro l hl
    obtain ⟨l', hl', rfl⟩ := List.mem_map.1 hl
    exact Lane.modify_sound (h.lanes l' hl') Errand.cancel_job fun e he => Errand.cancel_sound he
  joined := by
    intro l hl hj
    obtain ⟨l', hl', rfl⟩ := List.mem_map.1 hl
    exact h.joined l' hl' hj
  result := by
    intro project dead hdead
    exact (h.result project dead hdead).mono

theorem join_sound {f : FanOut R} (h : f.Sound r replies p) {index : Nat} {l : Lane R}
    (hindex : f.lanes[index]? = some l) (hcomplete : l.isComplete = true) :
    ({ f with
      lanes := f.lanes.modify index fun l => { l with joined := true }
      result := f.result.insert l.project l.dead } : FanOut R).Sound r replies p where
  projects := by
    rw [← h.projects]
    refine map_modify_of_eq ?_ f.lanes index
    exact fun _ => rfl
  lanes := by
    intro l' hl'
    rcases mem_modify hl' with hl' | ⟨l'', hl'', rfl⟩
    · exact h.lanes l' hl'
    · exact h.lanes l'' (List.mem_of_getElem? hl'')
  joined := by
    intro l' hl' hj
    show ((f.result.insert l.project l.dead).get? l'.project).isSome = true
    by_cases hproject : l'.project = l.project
    · rw [hproject, Dict.get?_insert_self]
      rfl
    · rw [Dict.get?_insert_of_ne _ hproject]
      rcases mem_modify hl' with hl' | ⟨l'', hl'', rfl⟩
      · exact h.joined l' hl' hj
      · obtain rfl := Option.some.inj (hindex.symm.trans hl'')
        exact absurd rfl hproject
  result := by
    intro project dead hdead
    by_cases hproject : project = l.project
    · subst hproject
      rw [Dict.get?_insert_self] at hdead
      obtain rfl := Option.some.inj hdead
      exact Lane.finds_dead (h.lanes l (List.mem_of_getElem? hindex)) hcomplete
    · rw [Dict.get?_insert_of_ne _ hproject] at hdead
      exact h.result project dead hdead

/-- Every step of a push keeps what holds of it. -/
theorem step_sound {f : FanOut R} (hstands : ∀ project k, (replies project k).Stands)
    (h : f.Sound r replies p) (s : Step R) : (f.step replies s).Sound r replies p := by
  cases s with
  | inside index s => exact inside_sound hstands h index s
  | cancel => exact cancel_sound h
  | join index =>
    rw [step]
    cases hjoins : f.joins? (.join index) with
    | none => exact h
    | some l =>
      obtain ⟨hindex, hready⟩ := Option.filter_eq_some_iff.1 hjoins
      rw [Bool.and_eq_true] at hready
      exact join_sound h hindex hready.1

/-- What holds of a push after any steps. -/
theorem sound_steps (hstands : ∀ project k, (replies project k).Stands) (r : Router (Site R))
    (p : Push) (l : List (Step R)) : ((start r p).steps replies l).Sound r replies p := by
  have hsteps : ∀ (l : List (Step R)) (f : FanOut R), f.Sound r replies p →
      (f.steps replies l).Sound r replies p := by
    intro l
    induction l with
    | nil => exact fun _ h => h
    | cons s l ih => exact fun f h => ih (f.step replies s) (step_sound hstands h s)
  exact hsteps l _ (sound_start r replies p)

/-! ## Progress -/

end FanOut

/-- An upper bound for the steps that a part of a push has left. -/
def Lane.work (l : Lane R) : Nat := l.errand?.elim 0 Errand.work + if l.joined then 0 else 1

/-- Whether a part of a push waits for a slot while none is free. -/
def Lane.Waits (l : Lane R) : Prop := ∃ e, l.errand? = some e ∧ e.Waits

namespace FanOut

/-- An upper bound for the steps that a push has left. -/
def work (f : FanOut R) : Nat := (f.lanes.map Lane.work).sum

/-- A push is over, or a project waits for a slot, or a step brings the push nearer to its end. -/
theorem rests_or_moves {f : FanOut R} (h : f.Sound r replies p) :
    f.isOver = true ∨ (∃ l ∈ f.lanes, l.Waits) ∨
      ∃ s, s ≠ .cancel ∧ (f.step replies s).work < f.work := by
  cases hover : f.isOver with
  | true => exact .inl rfl
  | false =>
    right
    obtain ⟨l, hl, hj⟩ := List.all_eq_false.1 hover
    rw [Bool.not_eq_true] at hj
    obtain ⟨index, hindex⟩ := List.mem_iff_getElem?.1 hl
    cases hcomplete : l.isComplete with
    | true =>
      refine .inr ⟨.join index, by simp, ?_⟩
      have hjoins : f.joins? (.join index) = some l := by
        rw [joins?, hindex]
        simp [hcomplete, hj]
      rw [step, hjoins]
      refine sum_modify_lt hindex ?_
      simp [Lane.work, hj]
    | false =>
      cases he : l.errand? with
      | none => simp [Lane.isComplete, he] at hcomplete
      | some e =>
        have hsound := Lane.errand_sound (h.lanes l hl) he
        have hnot : ¬ e.isComplete = true := by
          simpa [Lane.isComplete, he] using hcomplete
        rcases (Errand.rests_or_moves hsound).resolve_left hnot with hwaits | ⟨s, hwork⟩
        · exact .inl ⟨l, hl, e, he, hwaits⟩
        · refine .inr ⟨.inside index s, by simp, sum_modify_lt hindex ?_⟩
          simpa [Lane.work, Lane.modify, he] using hwork

/-! ## Results -/

/-- The result of a project of a push that is over. -/
theorem result_of_isOver {f : FanOut R} (h : f.Sound r replies p) (hover : f.isOver = true)
    {project : String} {devices : List String}
    (hdevices : p.destinations.get? project = some devices) :
    ∃ dead, f.result.get? project = some dead ∧
      dead <+: r.deadDevices replies p.notification project devices ∧
      (f.cancelled = false → dead = r.deadDevices replies p.notification project devices) := by
  have hkey : project ∈ f.lanes.map Lane.project := by
    rw [h.projects]
    exact List.mem_map.2 ⟨(project, devices), (p.destinations.get?_eq_some_iff _ _).1 hdevices, rfl⟩
  obtain ⟨l, hl, rfl⟩ := List.mem_map.1 hkey
  obtain ⟨dead, hdead⟩ := Option.isSome_iff_exists.1
    (h.joined l hl (List.all_eq_true.1 hover l hl))
  obtain ⟨devices', hdevices', hfinds⟩ := h.result _ _ hdead
  obtain rfl := Option.some.inj (hdevices.symm.trans hdevices')
  exact ⟨dead, hdead, hfinds⟩

theorem result_of_not_destination {f : FanOut R} (h : f.Sound r replies p) {project : String}
    (hproject : p.destinations.get? project = none) : f.result.get? project = none := by
  cases hresult : f.result.get? project with
  | none => rfl
  | some dead =>
    obtain ⟨devices, hdevices, -⟩ := h.result project dead hresult
    rw [hproject] at hdevices
    cases hdevices

/-- The projects of a push that is over are those that have a result. -/
theorem keys_of_isOver {f : FanOut R} (h : f.Sound r replies p) (hover : f.isOver = true) :
    f.result.keys = p.destinations.keys := by
  apply Dict.keys_eq
  intro project
  cases hdevices : p.destinations.get? project with
  | some devices =>
    obtain ⟨dead, hdead, -⟩ := result_of_isOver h hover hdevices
    rw [hdead]
    rfl
  | none => rw [result_of_not_destination h hdevices]

/-- What a push has come to in some state. -/
structure Gathers (r : Router (Site R)) (replies : String → Nat → Verdict) (p : Push)
    (f : FanOut R) : Prop where
  /-- At the end the projects of the push are those that have a result. -/
  keys : f.isOver = true → f.result.keys = p.destinations.keys
  /-- The result of a project are its dead devices if the push is not cancelled. -/
  whole : f.isOver = true → f.cancelled = false →
    ∀ project devices, p.destinations.get? project = some devices →
      f.result.get? project = some (r.deadDevices replies p.notification project devices)
  /-- In any case it is a start of them. -/
  start : f.isOver = true →
    ∀ project devices, p.destinations.get? project = some devices →
      ∃ dead, f.result.get? project = some dead ∧
        dead <+: r.deadDevices replies p.notification project devices
  /-- A project that is not known has an empty list. -/
  unknown : f.isOver = true →
    ∀ project devices, p.destinations.get? project = some devices →
      r.workers.get? project = none → f.result.get? project = some []
  /-- Serving one project after the other gives the same result, if nobody cancels the push. -/
  sequential : f.isOver = true → f.cancelled = false →
    ∀ {σ : Type} (workers : Router (Worker σ)) (s : σ), workers.Agrees r replies p →
      (workers.singlePush p s).1 = f.result
  /-- What a dispatcher reports never waits until the task has collected something. -/
  fits : ∀ l ∈ f.lanes, ∀ e, l.errand? = some e →
    ∀ q, e.push? = some q → q.reported.length ≤ q.room
  /-- The push is over, or a project waits while its dispatcher has no slot free, or a step brings
      the push nearer to its end. -/
  proceeds : f.isOver = true ∨ (∃ l ∈ f.lanes, l.Waits) ∨
    ∃ s, (f.step replies s).work < f.work

/-- What a push finds does not depend on the order of the steps of its tasks and dispatchers, nor on
    what else the dispatchers do. -/
theorem steps_gather (r : Router (Site R)) (p : Push) (replies : String → Nat → Verdict)
    (hstands : ∀ project k, (replies project k).Stands) (l : List (Step R)) :
    Gathers r replies p ((start r p).steps replies l) := by
  have h := sound_steps hstands r p l
  have hwhole : ((start r p).steps replies l).isOver = true →
      ((start r p).steps replies l).cancelled = false →
      ∀ project devices, p.destinations.get? project = some devices →
        ((start r p).steps replies l).result.get? project =
          some (r.deadDevices replies p.notification project devices) := by
    intro hover hc project devices hdevices
    obtain ⟨dead, hdead, -, hall⟩ := result_of_isOver h hover hdevices
    rw [hdead, hall hc]
  constructor
  case keys => exact keys_of_isOver h
  case whole => exact hwhole
  case start =>
    intro hover project devices hdevices
    obtain ⟨dead, hdead, hstart, -⟩ := result_of_isOver h hover hdevices
    exact ⟨dead, hdead, hstart⟩
  case unknown =>
    intro hover project devices hdevices hunknown
    obtain ⟨dead, hdead, hstart, -⟩ := result_of_isOver h hover hdevices
    rw [Router.deadDevices_of_unknown hunknown, List.prefix_nil] at hstart
    rw [hdead, hstart]
  case sequential =>
    intro hover hc σ workers s hagrees
    apply Dict.ext_get?
    intro project
    rw [Router.singlePush_get? hagrees]
    cases hdevices : p.destinations.get? project with
    | some devices => exact (hwhole hover hc project devices hdevices).symm
    | none => exact (result_of_not_destination h hdevices).symm
  case fits =>
    intro l hl e he q hq
    exact Errand.reported_le_room (Lane.errand_sound (h.lanes l hl) he) hq
  case proceeds => exact (rests_or_moves h).imp_right fun h => h.imp_right fun ⟨s, _, hs⟩ => ⟨s, hs⟩

/-! A push to two projects, one of which is known. The known one has three devices: one is dead, one
    has an empty token, and one is served. -/

/-- A push network that calls the first token of a push dead. -/
def firstIsDead : String → Nat → Verdict :=
  fun _ k => if k = 0 then .failed (.invalidToken "gone") else .delivered

/-- A router with one project. -/
def oneSite : Router (Site Unit) :=
  ⟨.ofList [("a", { convert := fun _ => .ok (.send ()), nopMode := false, dispatcher := ⟨1, []⟩ })]⟩

/-- A push to two projects. -/
def twoProjects : Push := { destinations := .ofList [("a", ["x", "", "y"]), ("b", ["z"])] }

/-- An order of the steps of both. -/
def someOrder : List (Step Unit) :=
  [.join 1, .inside 0 .submit, .inside 0 (.inside (.grant 0)), .inside 0 (.inside (.advance 0)),
    .inside 0 (.inside (.advance 0)), .inside 0 (.answer false), .inside 0 .collect,
    .inside 0 (.inside (.advance 0)), .inside 0 (.inside (.advance 0)), .inside 0 (.answer false),
    .inside 0 (.inside (.advance 0)), .inside 0 .collect, .inside 0 .collect, .join 0]

/-- The answer of that push network to a token. -/
def xIsDead (_ : Unit) (token : String) (s : Unit) : Verdict × Unit :=
  (if token = "x" then .failed (.invalidToken "gone") else .delivered, s)

/-- A worker for that project, which asks the push network itself. -/
def oneWorker : Router (Worker Unit) :=
  ⟨oneSite.workers.mapValues fun site =>
    Dispatch.worker .gcm site.convert xIsDead site.nopMode fun _ => false⟩

theorem stands_firstIsDead (project : String) (k : Nat) : (firstIsDead project k).Stands := by
  unfold firstIsDead
  split <;> decide

theorem agrees_oneWorker : oneWorker.Agrees oneSite firstIsDead twoProjects := by
  have hworkers : ∀ project, oneWorker.workers.get? project =
      (oneSite.workers.get? project).map fun site =>
        Dispatch.worker .gcm site.convert xIsDead site.nopMode fun _ => false := by
    intro project
    rw [oneWorker, Dict.get?_mapValues]
  refine Router.agrees_of_workers stands_firstIsDead hworkers ?_
  intro project devices site s hdevices hsite
  have hmem := (oneSite.workers.get?_eq_some_iff project site).1 hsite
  obtain ⟨rfl, rfl⟩ := Prod.mk.inj (List.mem_singleton.1 hmem)
  obtain rfl : ["x", "", "y"] = devices := Option.some.inj hdevices
  intro k v hk
  left
  match k with
  | 0 => exact (Option.some.inj hk).symm
  | 1 => exact (Option.some.inj hk).symm
  | k + 2 => cases hk

theorem steps_gather_two :
    (∀ project k, (firstIsDead project k).Stands) ∧
      Gathers oneSite firstIsDead twoProjects
        ((start oneSite twoProjects).steps firstIsDead someOrder) ∧
      ((start oneSite twoProjects).steps firstIsDead someOrder).isOver = true ∧
      ((start oneSite twoProjects).steps firstIsDead someOrder).result =
        .ofList [("a", ["x"]), ("b", [])] ∧
      oneWorker.Agrees oneSite firstIsDead twoProjects ∧
      (oneWorker.singlePush twoProjects ()).1 = .ofList [("a", ["x"]), ("b", [])] := by
  have h := steps_gather oneSite twoProjects firstIsDead stands_firstIsDead someOrder
  have hover : ((start oneSite twoProjects).steps firstIsDead someOrder).isOver = true := by
    decide +kernel
  have hresult : ((start oneSite twoProjects).steps firstIsDead someOrder).result =
      .ofList [("a", ["x"]), ("b", [])] := by
    decide +kernel
  refine ⟨stands_firstIsDead, h, hover, hresult, agrees_oneWorker, ?_⟩
  rw [h.sequential hover (by decide +kernel) oneWorker () agrees_oneWorker, hresult]

end FanOut

end Courier
