import Courier.Dispatch.Settle

/-!
# What happens to one push of a dispatcher

A dispatcher holds many pushes, and its steps come in any order. Seen from one push, each of them is
one of a few moves: the push stays as it is, gets its slot, gives up, goes on by itself, takes the
verdict on its call, or is cancelled or abandoned from outside.

Results:

* `Dispatcher.step_own`: what a step does to the push that it is about, and to the free slots.
* `Dispatcher.step_move`: every step of a dispatcher is a move of each of its pushes.
* `Dispatcher.steps_moves`: so every run of a dispatcher is a sequence of moves of each of its
  pushes, with the verdicts that this push takes and the events that it causes.
-/

namespace Courier.Dispatch

variable {R : Type}

/-! ## Moves -/

/-- The events of giving a slot back, if `freed` says that one comes free. -/
def leaving (freed : Nat) (crashed : Bool) : List Event :=
  if freed = 1 ∧ crashed = false then [.left] else []

/-- What can happen to a push: the verdict that it takes, the events that it causes, and what it
    becomes. -/
inductive Move (p : Push R) : Option Verdict → List Event → Push R → Prop
  | stay : Move p none [] p
  | enter (waits : p.phase = .waiting) (uncancelled : p.cancelled = false) :
      Move p none [.entered] { p with phase := .running .starting }
  | withdraw (waits : p.phase = .waiting) (cancelled : p.cancelled = true) :
      Move p none [] { p with phase := .ended }
  | cancel : Move p none [] { p with cancelled := true }
  | forsake (waits : p.phase = .waiting) :
      Move p none [] { p with phase := .ended, listening := false }
  | abandon {stage : Stage R} (runs : p.phase = .running stage) :
      Move p none [] { p with listening := false }
  | advance {stage next : Stage R} {events : List Event} (runs : p.phase = .running stage)
      (moves : stage.moves = true)
      (goes : stage.advance p.job p.cancelled p.listening = (next, events)) :
      Move p none (events ++ leaving (p.moveTo next events).2 false) (p.moveTo next events).1
  | answer {request : R} {token : String} {rest : List String} {verdict : Verdict}
      {next : Stage R} {events : List Event}
      (runs : p.phase = .running (.delivering request token rest))
      (goes : Stage.answer p.listening verdict (.delivering request token rest) = (next, events)) :
      Move p (some verdict)
        (events ++ leaving (p.moveTo next events).2 (verdict == .crashed)) (p.moveTo next events).1

/-- A sequence of moves, with all verdicts taken and all events caused, in order. -/
inductive Moves : Push R → List Verdict → List Event → Push R → Prop
  | refl (p : Push R) : Moves p [] [] p
  | step {p q r : Push R} {verdict : Option Verdict} {verdicts : List Verdict}
      {events more : List Event} (first : Move p verdict events q)
      (others : Moves q verdicts more r) :
      Moves p (verdict.toList ++ verdicts) (events ++ more) r

/-! ## Slots -/

namespace Push

variable {p : Push R}

/-- How many slots a push holds. -/
def held (p : Push R) : Nat := if p.isRunning then 1 else 0

theorem held_of_waiting (h : p.phase = .waiting) : p.held = 0 := by
  rw [held, isRunning, h]
  rfl

theorem held_of_running {stage : Stage R} (h : p.phase = .running stage) : p.held = 1 := by
  rw [held, isRunning, h]
  rfl

theorem held_of_ended (h : p.phase = .ended) : p.held = 0 := by
  rw [held, isRunning, h]
  rfl

theorem held_le_one (p : Push R) : p.held ≤ 1 := by
  unfold held
  split <;> omega

/-- A push that moves on keeps its slot or sets it free. -/
theorem moveTo_held (p : Push R) (stage : Stage R) (events : List Event) :
    (p.moveTo stage events).1.held + (p.moveTo stage events).2 = 1 := by
  cases stage <;> rfl

end Push

/-! ## The steps of a dispatcher -/

/-- The push that a step is about; a submitted push is a new one. -/
def Step.index? : Step R → Option Nat
  | .submit .. => none
  | .grant index | .withdraw index | .cancel index | .abandon index | .advance index
  | .answer index _ => some index

theorem Push.isWaiting_iff (p : Push R) : p.isWaiting = true ↔ p.phase = .waiting := by
  unfold isWaiting
  split <;> simp_all

theorem Push.isEnded_iff (p : Push R) : p.isEnded = true ↔ p.phase = .ended := by
  unfold isEnded
  split <;> simp_all

namespace Dispatcher

/-- The verdict that a push takes in a step. -/
def answerTo? (d : Dispatcher R) (index : Nat) : Step R → Option Verdict
  | .answer i verdict =>
    if i = index ∧ (d.pushes[index]?).any Push.isDelivering then some verdict else none
  | _ => none

/-- The events that a push causes in a step. -/
def eventsOf (d : Dispatcher R) (index : Nat) (s : Step R) : List Event :=
  if s.index? = some index then (d.step s).2 else []

/-- The verdicts that a push takes in a run. -/
def answersTo (index : Nat) : Dispatcher R → List (Step R) → List Verdict
  | _, [] => []
  | d, s :: rest => (d.answerTo? index s).toList ++ answersTo index (d.step s).1 rest

/-- The events that a push causes in a run. -/
def history (index : Nat) : Dispatcher R → List (Step R) → List Event
  | _, [] => []
  | d, s :: rest => d.eventsOf index s ++ history index (d.step s).1 rest

theorem moveTo_pushes (d : Dispatcher R) (index : Nat) (p : Push R) (stage : Stage R)
    (events : List Event) (crashed : Bool) :
    (d.moveTo index p stage events crashed).1.pushes =
      d.pushes.set index (p.moveTo stage events).1 := rfl

theorem moveTo_events (d : Dispatcher R) (index : Nat) (p : Push R) (stage : Stage R)
    (events : List Event) (crashed : Bool) :
    (d.moveTo index p stage events crashed).2 =
      events ++ leaving (p.moveTo stage events).2 crashed := by
  unfold moveTo leaving
  simp only
  split <;> simp

theorem moveTo_free {d : Dispatcher R} {index : Nat} {p : Push R} {stage : Stage R}
    (hp : p.phase = .running stage) (next : Stage R) (events : List Event) (crashed : Bool) :
    (d.moveTo index p next events crashed).1.free + (p.moveTo next events).1.held =
      d.free + p.held := by
  show d.free + (p.moveTo next events).2 + _ = _
  rw [Push.held_of_running hp, ← p.moveTo_held next events]
  omega

/-- A step about a push that is not there does nothing. -/
theorem step_of_none {d : Dispatcher R} {s : Step R} {index : Nat} (hs : s.index? = some index)
    (hp : d.pushes[index]? = none) : d.step s = (d, []) := by
  cases s with
  | submit => cases hs
  | _ =>
    obtain rfl := Option.some.inj hs
    simp only [step, hp]

/-- A step about a push changes only that push, by one of its moves, and the slots that it takes or
    gives back. -/
theorem step_own {d : Dispatcher R} {s : Step R} {index : Nat} {p : Push R}
    (hs : s.index? = some index) (hp : d.pushes[index]? = some p) :
    ∃ q, (d.step s).1.pushes = d.pushes.set index q ∧
      Move p (d.answerTo? index s) (d.step s).2 q ∧
      (d.step s).1.free + q.held = d.free + p.held := by
  have hstay : d.pushes = d.pushes.set index p := by
    obtain ⟨hlt, rfl⟩ := List.getElem?_eq_some_iff.1 hp
    rw [List.set_getElem_self]
  cases s with
  | submit => cases hs
  | grant i =>
    obtain rfl := Option.some.inj hs
    simp only [step, hp, answerTo?]
    split
    · rename_i h
      simp only [Bool.and_eq_true, Bool.not_eq_true', Push.isWaiting_iff, decide_eq_true_eq] at h
      refine ⟨_, rfl, .enter h.1.1 h.1.2, ?_⟩
      rw [Push.held_of_waiting h.1.1]
      exact Nat.sub_add_cancel h.2
    · exact ⟨p, hstay, .stay, rfl⟩
  | withdraw i =>
    obtain rfl := Option.some.inj hs
    simp only [step, hp, answerTo?]
    split
    · rename_i h
      simp only [Bool.and_eq_true, Push.isWaiting_iff] at h
      refine ⟨_, rfl, .withdraw h.1 h.2, ?_⟩
      rw [Push.held_of_waiting h.1]
      rfl
    · exact ⟨p, hstay, .stay, rfl⟩
  | cancel i =>
    obtain rfl := Option.some.inj hs
    simp only [step, hp, answerTo?]
    exact ⟨_, rfl, .cancel, rfl⟩
  | abandon i =>
    obtain rfl := Option.some.inj hs
    simp only [step, hp, answerTo?]
    cases hph : p.phase with
    | waiting =>
      refine ⟨_, rfl, .forsake hph, ?_⟩
      rw [Push.held_of_waiting hph]
      rfl
    | running stage =>
      refine ⟨_, rfl, by simpa only [hph] using Move.abandon hph, ?_⟩
      rw [Push.held_of_running hph]
      rfl
    | ended => exact ⟨p, hstay, .stay, rfl⟩
  | advance i =>
    obtain rfl := Option.some.inj hs
    simp only [step, hp, answerTo?]
    cases hph : p.phase with
    | waiting => exact ⟨p, hstay, .stay, rfl⟩
    | ended => exact ⟨p, hstay, .stay, rfl⟩
    | running stage =>
      dsimp only
      split
      · rename_i hm
        refine ⟨_, moveTo_pushes .., ?_, moveTo_free hph ..⟩
        rw [moveTo_events]
        exact .advance hph hm rfl
      · exact ⟨p, hstay, .stay, rfl⟩
  | answer i verdict =>
    obtain rfl := Option.some.inj hs
    simp only [step, hp, answerTo?, Option.any_some, Push.isDelivering, true_and]
    cases hph : p.phase with
    | waiting => exact ⟨p, hstay, .stay, rfl⟩
    | ended => exact ⟨p, hstay, .stay, rfl⟩
    | running stage =>
      cases stage with
      | delivering request token rest =>
        refine ⟨_, moveTo_pushes .., ?_, moveTo_free hph ..⟩
        show Move p (some verdict) (d.moveTo i p _ _ (verdict == .crashed)).2 _
        rw [moveTo_events]
        exact .answer hph rfl
      | _ => exact ⟨p, hstay, .stay, rfl⟩

/-- A step about another push leaves a push as it is. -/
theorem step_other {d : Dispatcher R} {s : Step R} {index : Nat} {p : Push R}
    (hs : s.index? ≠ some index) (hp : d.pushes[index]? = some p) :
    (d.step s).1.pushes[index]? = some p := by
  obtain ⟨hlt, -⟩ := List.getElem?_eq_some_iff.1 hp
  cases hi : s.index? with
  | none =>
    cases s with
    | submit => simp only [step]; rw [List.getElem?_append_left hlt, hp]
    | _ => cases hi
  | some i =>
    cases hpi : d.pushes[i]? with
    | none => rw [step_of_none hi hpi, hp]
    | some p' =>
      obtain ⟨q, hq, -⟩ := step_own hi hpi
      rw [hq, List.getElem?_set_ne (by grind), hp]

/-- Every step of a dispatcher is a move of each of its pushes. -/
theorem step_move {d : Dispatcher R} {index : Nat} {p : Push R} (hp : d.pushes[index]? = some p)
    (s : Step R) :
    ∃ q, (d.step s).1.pushes[index]? = some q ∧
      Move p (d.answerTo? index s) (d.eventsOf index s) q := by
  obtain ⟨hlt, -⟩ := List.getElem?_eq_some_iff.1 hp
  by_cases hs : s.index? = some index
  · obtain ⟨q, hq, hmove, -⟩ := step_own hs hp
    refine ⟨q, ?_, ?_⟩
    · rw [hq, List.getElem?_set_self hlt]
    · rwa [eventsOf, if_pos hs]
  · have hnone : d.answerTo? index s = none := by
      cases s with
      | answer i verdict =>
        simp only [Step.index?, Option.some.injEq] at hs
        simp [answerTo?, hs]
      | _ => rfl
    refine ⟨p, step_other hs hp, ?_⟩
    rw [eventsOf, if_neg hs, hnone]
    exact .stay

/-- Every run of a dispatcher is a sequence of moves of each of its pushes. -/
theorem steps_moves {index : Nat} (l : List (Step R)) {d : Dispatcher R} {p : Push R}
    (hp : d.pushes[index]? = some p) :
    ∃ q, (d.steps l).1.pushes[index]? = some q ∧
      Moves p (answersTo index d l) (history index d l) q := by
  induction l generalizing d p with
  | nil => exact ⟨p, hp, .refl p⟩
  | cons s l ih =>
    obtain ⟨q, hq, first⟩ := step_move hp s
    obtain ⟨r, hr, others⟩ := ih hq
    exact ⟨r, hr, .step first others⟩

/-- A push that is submitted comes after all others. -/
theorem step_submit (d : Dispatcher R) (job : Job R) (cancelled : Bool) :
    (d.step (.submit job cancelled)).1.pushes[d.pushes.length]? =
      some { job := job, cancelled := cancelled } := by
  simp [step]

end Dispatcher

end Courier.Dispatch
