import Courier.Proofs.Router.FanOut
import Courier.Router.Stream
import Mathlib.Data.List.Nodup
import Mathlib.Data.List.Perm.Subperm
import Mathlib.Tactic.Conv

/-!
# One push of a stream

A push that was pulled joins the results of its projects one by one, holds each until it is passed
on, and is done when none is left. What it has joined are items that are due, and at its end all of
them.

Results:

* `Flight.step_sound`, `Flight.cancel_sound`: what holds of a push in every state.
* `Flight.count_step`: what a step joins is held.
* `Flight.items_subperm`, `Flight.items_of_isOver`: what was joined is due, and at the end all that
  is due.
-/

namespace Courier

variable {R : Type} {r : Router (Site R)} {replies : String → Nat → Verdict} {p : Push}

/-! ## Lists with a changed element -/

/-- If what one element loses in one sum it loses in the other, so do the lists. -/
theorem sum_modify_add {α : Type} {f : α → α} {v w : α → Nat} {l : List α} {i : Nat}
    (h : ∀ a, l[i]? = some a → w (f a) + v a = w a + v (f a)) :
    ((l.modify i f).map w).sum + (l.map v).sum = (l.map w).sum + ((l.modify i f).map v).sum := by
  cases ha : l[i]? with
  | none =>
    rw [List.modify_eq_self (List.getElem?_eq_none_iff.1 ha)]
  | some a =>
    have := h a ha
    have := sum_modify (f := f) ha v
    have := sum_modify (f := f) ha w
    omega

theorem getElem?_modify_cases {α : Type} {f : α → α} {l : List α} {i j : Nat} {b : α}
    (h : (l.modify i f)[j]? = some b) :
    l[j]? = some b ∨ i = j ∧ ∃ a, l[j]? = some a ∧ b = f a := by
  rw [List.getElem?_modify] at h
  split at h
  · obtain ⟨a, ha, rfl⟩ := Option.map_eq_some_iff.1 h
    exact .inr ⟨‹_›, a, ha, rfl⟩
  · exact .inl (by simpa using h)

/-! ## Joining once -/

namespace FanOut

/-- Whether no project has a result before its task is joined. -/
def Fresh (f : FanOut R) : Prop :=
  ∀ l ∈ f.lanes, l.joined = false → f.result.get? l.project = none

theorem fresh_start (r : Router (Site R)) (p : Push) : (start r p).Fresh := fun _ _ _ => rfl

theorem Sound.nodup {f : FanOut R} (h : f.Sound r replies p) :
    (f.lanes.map Lane.project).Nodup := by
  rw [h.projects]
  exact p.destinations.nodup_keys

theorem fresh_inside {f : FanOut R} (h : f.Fresh) (index : Nat) (s : Errand.Step R) :
    (f.step replies (.inside index s)).Fresh := by
  intro l hl hj
  rcases mem_modify hl with hl | ⟨l', hl', rfl⟩
  · exact h l hl hj
  · exact h l' (List.mem_of_getElem? hl') hj

theorem fresh_join {f : FanOut R} (hsound : f.Sound r replies p) (h : f.Fresh) {index : Nat}
    {l : Lane R} (hindex : f.lanes[index]? = some l) :
    ({ f with
      lanes := f.lanes.modify index fun l => { l with joined := true }
      result := f.result.insert l.project l.dead } : FanOut R).Fresh := by
  have hprojects : ((f.lanes.modify index fun l => { l with joined := true }).map
      Lane.project).Nodup := by
    rw [map_modify_of_eq (f := fun l : Lane R => { l with joined := true }) fun _ => rfl]
    exact hsound.nodup
  have hjoined : { l with joined := true } ∈
      f.lanes.modify index fun l => { l with joined := true } := by
    apply List.mem_of_getElem? (i := index)
    rw [List.getElem?_modify_eq, hindex]
    rfl
  intro l' hl' hj
  have hproject : l'.project ≠ l.project := by
    intro heq
    -- Two tasks of one project are one and the same, so this one was joined just now.
    have := List.inj_on_of_nodup_map hprojects hl' hjoined heq
    rw [this] at hj
    cases hj
  show (f.result.insert l.project l.dead).get? l'.project = none
  rw [Dict.get?_insert_of_ne _ hproject]
  rcases mem_modify hl' with hl' | ⟨l'', hl'', rfl⟩
  · exact h l' hl' hj
  · cases hj

/-- What was joined stays joined. -/
theorem isOver_step {f : FanOut R} (h : f.isOver = true) (s : Step R) :
    (f.step replies s).isOver = true := by
  have hall := List.all_eq_true.1 h
  apply List.all_eq_true.2
  intro l hl
  cases s with
  | inside index s =>
    rcases mem_modify hl with hl | ⟨l', hl', rfl⟩
    · exact hall l hl
    · exact hall l' (List.mem_of_getElem? hl')
  | cancel =>
    obtain ⟨l', hl', rfl⟩ := List.mem_map.1 hl
    exact hall l' hl'
  | join index =>
    rw [step] at hl
    split at hl
    · rcases mem_modify hl with hl | ⟨l', hl', rfl⟩
      · exact hall l hl
      · rfl
    · exact hall l hl

theorem joins?_of_isOver {f : FanOut R} (h : f.isOver = true) (s : Step R) : f.joins? s = none := by
  cases s with
  | join index =>
    rw [joins?, Option.filter_eq_none_iff]
    intro l hl
    simp [List.all_eq_true.1 h l (List.mem_of_getElem? hl)]
  | _ => rfl

end FanOut

/-! ## One push of a stream -/

namespace Flight

/-- What was joined, as it is yielded. -/
def items (f : Flight R) : List Invalidations :=
  f.fanOut.result.entries.map fun e => ⟨f.push.correlationId, e.1, e.2⟩

/-- What is to be yielded for all projects, with nothing found yet for those that were not
    joined. -/
def due (f : Flight R) : List Invalidations :=
  f.push.destinations.keys.map fun project =>
    ⟨f.push.correlationId, project, (f.fanOut.result.get? project).getD []⟩

/-- What holds of a push of a stream in every state. -/
structure Sound (r : Router (Site R)) (replies : String → Nat → Verdict) (cancelled : Bool)
    (f : Flight R) : Prop where
  fanOut : f.fanOut.Sound r replies f.push
  flag : f.fanOut.cancelled = cancelled
  fresh : f.fanOut.Fresh
  reaped : f.reaped = true → f.isDone = true

variable {f : Flight R} {cancelled : Bool}

theorem sound_start (r : Router (Site R)) (replies : String → Nat → Verdict) (p : Push) :
    (start r p).Sound r replies false where
  fanOut := FanOut.sound_start r replies p
  flag := rfl
  fresh := FanOut.fresh_start r p
  reaped := nofun

/-- What a step of a push may do: nothing, a step of a task, or joining a result. -/
theorem step_cases (replies : String → Nat → Verdict) (f : Flight R) (s : FanOut.Step R) :
    f.step replies s = f ∨
    (∃ index e, s = .inside index e ∧
      f.step replies s = { f with fanOut := f.fanOut.step replies s }) ∨
    ∃ index l, s = .join index ∧ f.held = none ∧ f.fanOut.joins? s = some l ∧
      f.step replies s =
        { f with fanOut := f.fanOut.step replies s, held := some (f.item l) } := by
  cases s with
  | inside index e => exact .inr (.inl ⟨index, e, rfl, rfl⟩)
  | cancel => exact .inl rfl
  | join index =>
    simp only [step]
    split
    · rename_i l hheld hjoins
      exact .inr (.inr ⟨index, l, rfl, hheld, hjoins, rfl⟩)
    · exact .inl rfl

theorem joined_step (replies : String → Nat → Verdict) {index : Nat} {l : Lane R}
    (h : f.fanOut.joins? (.join index) = some l) :
    f.fanOut.lanes[index]? = some l ∧ l.isComplete = true ∧ l.joined = false ∧
      f.fanOut.step replies (.join index) = { f.fanOut with
        lanes := f.fanOut.lanes.modify index fun l => { l with joined := true }
        result := f.fanOut.result.insert l.project l.dead } := by
  obtain ⟨hindex, hready⟩ := Option.filter_eq_some_iff.1 h
  rw [Bool.and_eq_true, Bool.not_eq_true'] at hready
  refine ⟨hindex, hready.1, hready.2, ?_⟩
  rw [FanOut.step, h]

theorem step_push (replies : String → Nat → Verdict) (f : Flight R) (s : FanOut.Step R) :
    (f.step replies s).push = f.push := by
  rcases step_cases replies f s with h | ⟨_, _, _, h⟩ | ⟨_, _, _, _, _, h⟩ <;> rw [h]

/-- Every step of a push keeps what holds of it. -/
theorem step_sound (hstands : ∀ project k, (replies project k).Stands)
    (h : f.Sound r replies cancelled) (s : FanOut.Step R) :
    (f.step replies s).Sound r replies cancelled := by
  rcases step_cases replies f s with
    heq | ⟨index, e, rfl, heq⟩ | ⟨index, l, rfl, hheld, hjoins, heq⟩
  · rw [heq]
    exact h
  · rw [heq]
    have hsound := FanOut.step_sound hstands h.fanOut (.inside index e)
    refine ⟨hsound, h.flag, FanOut.fresh_inside h.fresh index e, ?_⟩
    intro hreaped
    have hdone := h.reaped hreaped
    simp only [isDone, Bool.and_eq_true] at hdone ⊢
    exact ⟨hdone.1, FanOut.isOver_step hdone.2 _⟩
  · rw [heq]
    have hsound := FanOut.step_sound hstands h.fanOut (.join index)
    obtain ⟨hindex, -, -, hjoin⟩ := joined_step replies hjoins
    refine ⟨hsound, ?_, ?_, ?_⟩
    · rw [hjoin]
      exact h.flag
    · rw [hjoin]
      exact FanOut.fresh_join h.fanOut h.fresh hindex
    · intro hreaped
      have hdone := h.reaped hreaped
      simp only [isDone, Bool.and_eq_true] at hdone
      rw [FanOut.joins?_of_isOver hdone.2] at hjoins
      cases hjoins

theorem cancel_sound (h : f.Sound r replies cancelled) : f.cancel.Sound r replies true := by
  have hcancel : f.cancel.fanOut = f.fanOut.step replies .cancel := rfl
  refine ⟨?_, rfl, ?_, ?_⟩
  · rw [hcancel]
    exact FanOut.cancel_sound h.fanOut
  · intro l hl hj
    obtain ⟨l', hl', rfl⟩ := List.mem_map.1 hl
    exact h.fresh l' hl' hj
  · intro hreaped
    have hdone := h.reaped hreaped
    simp only [isDone, Bool.and_eq_true] at hdone ⊢
    exact ⟨hdone.1, hcancel ▸ FanOut.isOver_step hdone.2 .cancel⟩

/-- What a step joins is held. -/
theorem count_step (h : f.Sound r replies cancelled) (s : FanOut.Step R) (a : Invalidations) :
    (f.step replies s).items.count a + f.held.toList.count a =
      f.items.count a + (f.step replies s).held.toList.count a := by
  rcases step_cases replies f s with
    heq | ⟨index, e, rfl, heq⟩ | ⟨index, l, rfl, hheld, hjoins, heq⟩
  · rw [heq]
  · rw [heq]
    rfl
  · obtain ⟨hindex, -, hnot, hjoin⟩ := joined_step replies hjoins
    have hnew := h.fresh l (List.mem_of_getElem? hindex) hnot
    have hperm := ((Dict.insert_perm hnew l.dead).map fun e : String × List String =>
      (⟨f.push.correlationId, e.1, e.2⟩ : Invalidations)).count_eq a
    rw [heq, hheld, hjoin]
    show ((f.fanOut.result.insert l.project l.dead).entries.map _).count a + 0 = _
    rw [hperm, List.map_cons, List.count_cons]
    show _ = f.items.count a + [f.item l].count a
    rw [List.count_singleton]
    rfl

theorem entries_eq (d : Dict (List String)) :
    d.entries = d.keys.map fun key => (key, (d.get? key).getD []) := by
  rw [Dict.keys, List.map_map]
  conv_lhs => rw [← List.map_id d.entries]
  apply List.map_congr_left
  intro e he
  show e = (e.1, (d.get? e.1).getD [])
  rw [(d.get?_eq_some_iff e.1 e.2).2 he]
  rfl

theorem items_eq (f : Flight R) :
    f.items = f.fanOut.result.keys.map fun project =>
      ⟨f.push.correlationId, project, (f.fanOut.result.get? project).getD []⟩ := by
  rw [items, entries_eq, List.map_map]
  rfl

/-- What was joined is due. -/
theorem items_subperm (h : f.Sound r replies cancelled) : f.items.Subperm f.due := by
  have hkeys : f.fanOut.result.keys ⊆ f.push.destinations.keys := by
    intro project hproject
    obtain ⟨e, he, rfl⟩ := List.mem_map.1 hproject
    obtain ⟨devices, hdevices, -⟩ :=
      h.fanOut.result e.1 e.2 ((Dict.get?_eq_some_iff _ _ _).2 he)
    exact List.mem_map.2 ⟨_, (Dict.get?_eq_some_iff _ _ _).1 hdevices, rfl⟩
  obtain ⟨l, hperm, hsub⟩ := List.subperm_of_subset f.fanOut.result.nodup_keys hkeys
  rw [items_eq, due]
  exact ⟨_, hperm.map _, hsub.map _⟩

/-- At the end of a push all that is due was joined. -/
theorem items_of_isOver (h : f.Sound r replies cancelled) (hover : f.fanOut.isOver = true) :
    f.items = f.due := by
  rw [items_eq, due, FanOut.keys_of_isOver h.fanOut hover]

/-- What was found for a project is a start of its dead devices, and all of them at the end of a
    push that is not cancelled. -/
theorem found_isPrefix (h : f.Sound r replies cancelled) {project : String} {devices : List String}
    (hdevices : f.push.destinations.get? project = some devices) :
    (f.fanOut.result.get? project).getD [] <+:
        r.deadDevices replies f.push.notification project devices ∧
      (f.fanOut.isOver = true → cancelled = false →
        (f.fanOut.result.get? project).getD [] =
          r.deadDevices replies f.push.notification project devices) := by
  cases hresult : f.fanOut.result.get? project with
  | none =>
    refine ⟨List.nil_prefix, fun hover hc => ?_⟩
    obtain ⟨dead, hdead, -⟩ := FanOut.result_of_isOver h.fanOut hover hdevices
    rw [hresult] at hdead
    cases hdead
  | some dead =>
    obtain ⟨devices', hdevices', hstart, hall⟩ := h.fanOut.result project dead hresult
    obtain rfl := Option.some.inj (hdevices.symm.trans hdevices')
    exact ⟨hstart, fun _ hc => hall (h.flag.trans hc)⟩

end Flight

/-! ## Progress -/

/-- An upper bound for the steps that a push of a stream has left: each result that is joined is
    then to be passed on and read. -/
def Flight.work (f : Flight R) : Nat :=
  3 * f.fanOut.work + (if f.held.isSome then 2 else 0) + if f.reaped then 0 else 1

theorem Flight.work_step_lt {f : Flight R} {replies : String → Nat → Verdict} {s : FanOut.Step R}
    (hheld : f.held = none) (hs : s ≠ .cancel)
    (h : (f.fanOut.step replies s).work < f.fanOut.work) : (f.step replies s).work < f.work := by
  cases s with
  | cancel => exact absurd rfl hs
  | inside index e =>
    have : 3 * (f.fanOut.step replies (.inside index e)).work < 3 * f.fanOut.work := by omega
    exact Nat.add_lt_add_right (Nat.add_lt_add_right this _) _
  | join index =>
    cases hjoins : f.fanOut.joins? (.join index) with
    | none =>
      rw [FanOut.step, hjoins] at h
      exact absurd h (Nat.lt_irrefl _)
    | some l =>
      have hstep : f.step replies (.join index) =
          { f with fanOut := f.fanOut.step replies (.join index), held := some (f.item l) } := by
        rw [step, hheld, hjoins]
      have : 3 * (f.fanOut.step replies (.join index)).work + 2 < 3 * f.fanOut.work + 0 := by omega
      rw [hstep, work, work, hheld]
      exact Nat.add_lt_add_right this _

end Courier
