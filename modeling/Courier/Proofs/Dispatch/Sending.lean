import Courier.Proofs.Dispatch.Ending

/-!
# Sending a push

A push is submitted to a dispatcher that may be busy with others, and then the steps of all pushes
come in any order. What the push does is always a start of its course. If it comes to its end while
it is neither cancelled nor abandoned, it has done all of it.

Results:

* `Dispatcher.submit_steps_moves`: the run of a submitted push, seen from that push.
* `Dispatcher.cut_silent`: a call that is cut off reports nothing and is the last one.
* `Dispatcher.submitted_follows`: what is reported, called and converted for a submitted push, in
  every run.
-/

namespace Courier.Dispatch

variable {R : Type}

/-! ## Starts of a course -/

/-- What was done for a push is a start of its course. -/
structure Job.Begun (job : Job R) (verdict : Nat → Verdict) (events : List Event) : Prop where
  course : essential events <+: job.course verdict
  reported : Dispatch.outcomes events <+: job.outcomes verdict
  fits : (Dispatch.outcomes events).length ≤ max 1 job.devices.length
  called : Dispatch.calls events <+: job.calls
  converted : events.count .converted ≤ job.conversions

/-- All of the course of a push was done. -/
structure Job.Done (job : Job R) (verdict : Nat → Verdict) (events : List Event) : Prop where
  reported : Dispatch.outcomes events = job.outcomes verdict
  called : Dispatch.calls events = job.calls
  converted : events.count .converted = job.conversions

namespace Job

variable {job : Job R} {verdict : Nat → Verdict} {events : List Event}

theorem Begun.of_isPrefix (h : essential events <+: job.course verdict) :
    job.Begun verdict events := by
  have hreported : Dispatch.outcomes events <+: job.outcomes verdict := by
    rw [← outcomes_essential, ← job.outcomes_course]
    exact h.filterMap _
  constructor
  case course => exact h
  case reported => exact hreported
  case fits => exact Nat.le_trans hreported.length_le (job.length_outcomes_le verdict)
  case called =>
    rw [← calls_essential, ← job.calls_course verdict]
    exact h.filterMap _
  case converted =>
    rw [← count_essential, ← job.count_course verdict]
    exact h.sublist.count_le _

theorem Done.of_eq (h : essential events = job.course verdict) : job.Done verdict events where
  reported := by rw [← outcomes_essential, h, outcomes_course]
  called := by rw [← calls_essential, h, calls_course]
  converted := by rw [← count_essential, h, count_course]

end Job

/-! ## Runs of a submitted push -/

namespace Dispatcher

/-- A dispatcher after a push was submitted. -/
def submit (d : Dispatcher R) (job : Job R) (cancelled : Bool) : Dispatcher R :=
  (d.step (.submit job cancelled)).1

theorem history_append (index : Nat) (d : Dispatcher R) (l m : List (Step R)) :
    history index d (l ++ m) = history index d l ++ history index (d.steps l).1 m := by
  induction l generalizing d with
  | nil => rfl
  | cons s l ih =>
    show d.eventsOf index s ++ history index (d.step s).1 (l ++ m) = _
    rw [ih, ← List.append_assoc]
    rfl

/-- Every run of a dispatcher after a push was submitted is a sequence of moves of that push. -/
theorem submit_steps_moves (d : Dispatcher R) (job : Job R) (cancelled : Bool)
    (l : List (Step R)) :
    ∃ p, ((d.submit job cancelled).steps l).1.pushes[d.pushes.length]? = some p ∧
      Moves { job := job, cancelled := cancelled }
        (answersTo d.pushes.length (d.submit job cancelled) l)
        (history d.pushes.length (d.submit job cancelled) l) p :=
  steps_moves l (d.step_submit job cancelled)

/-- A call that is cut off reports nothing, and nothing comes after it. -/
theorem cut_silent {d : Dispatcher R} {index : Nat} {p : Push R} (hp : d.pushes[index]? = some p)
    (hd : p.isDelivering = true) (l : List (Step R)) :
    outcomes (history index d (.answer index .cutOff :: l)) = [] ∧
      calls (history index d (.answer index .cutOff :: l)) = [] := by
  obtain ⟨request, token, rest, hph⟩ : ∃ request token rest,
      p.phase = .running (.delivering request token rest) := by
    unfold Push.isDelivering Stage.isDelivering at hd
    split at hd
    · rename_i stage hph
      cases stage with
      | delivering request token rest => exact ⟨request, token, rest, hph⟩
      | _ => cases hd
    · cases hd
  -- The answer itself ends the push without an outcome, so the rest of the run finds it ended.
  have hq := step_answer hp hph .cutOff
  have hended : (p.moveTo (Stage.answer p.listening .cutOff (.delivering request token rest)).1
      (Stage.answer p.listening .cutOff (.delivering request token rest)).2).1.phase = .ended := by
    cases p.listening <;> rfl
  have hevents : d.eventsOf index (.answer index .cutOff) = [.returned, .failed, .left] := by
    simp only [eventsOf, Step.index?, if_true, step, hp, hph, Stage.isDelivering]
    cases p.listening <;> rfl
  obtain ⟨_, _, others⟩ := steps_moves l hq
  obtain ⟨-, -, hnone⟩ := others.of_ended hended
  show outcomes (d.eventsOf index _ ++ history index _ l) = [] ∧
    calls (d.eventsOf index _ ++ history index _ l) = []
  rw [hevents, hnone]
  exact ⟨rfl, rfl⟩

/-- How a push of a dispatcher fares in a run. `verdict k` is the answer to its call number `k` if
    that call comes to its own end, and may depend on anything that was called before. -/
structure Follows (job : Job R) (verdict : Nat → Verdict) (index : Nat) (d : Dispatcher R)
    (l : List (Step R)) : Prop where
  /-- The push is there, and what it has reported are the outcomes that it caused. -/
  present : ∃ p, (d.steps l).1.pushes[index]? = some p ∧ p.reported = outcomes (history index d l)
  /-- What is done is a start of the course. -/
  begun : ∀ p, (d.steps l).1.pushes[index]? = some p →
    AnsweredBy verdict p.cancelled 0 (answersTo index d l) → job.Begun verdict (history index d l)
  /-- It is all of the course at an end that was not brought about from outside. -/
  done : ∀ p, (d.steps l).1.pushes[index]? = some p →
    AnsweredBy verdict p.cancelled 0 (answersTo index d l) →
    p.phase = .ended → p.cancelled = false → p.listening = true →
      job.Done verdict (history index d l)
  /-- After a cancellation no call is made, and only an attempt under way is still reported, of
      which there is one at most. -/
  cancelled : ∀ l₁ l₂ p, l = l₁ ++ l₂ → (d.steps l₁).1.pushes[index]? = some p →
    p.cancelled = true →
      calls (history index (d.steps l₁).1 l₂) = [] ∧
      (outcomes (history index (d.steps l₁).1 l₂)).length ≤ p.owed ∧ p.owed ≤ 1
  /-- A call that is cut off is the last one, and is not reported. -/
  cut : ∀ l₁ l₂ p, l = l₁ ++ .answer index .cutOff :: l₂ →
    (d.steps l₁).1.pushes[index]? = some p → p.isDelivering = true →
      outcomes (history index d l) = outcomes (history index d l₁) ∧
      calls (history index d l) = calls (history index d l₁)
  /-- The push is over, or waits while no slot is free, or can go on and comes nearer to its end. -/
  proceeds : ∀ p, (d.steps l).1.pushes[index]? = some p →
    p.phase = .ended ∨ p.phase = .waiting ∧ (d.steps l).1.free = 0 ∨
      ∃ s q, (p.ownStep? index (0 < (d.steps l).1.free) = some s ∨
          p.isDelivering = true ∧ s = .answer index (verdict (answersTo index d l).length)) ∧
        ((d.steps l).1.step s).1.pushes[index]? = some q ∧ q.work < p.work

/-- A submitted push follows its course, whatever else the dispatcher does and in which order. -/
theorem submitted_follows (d : Dispatcher R) (job : Job R) (cancelled : Bool)
    (verdict : Nat → Verdict) (hstands : ∀ k, (verdict k).Stands) (l : List (Step R)) :
    Follows job verdict d.pushes.length (d.submit job cancelled) l := by
  obtain ⟨p, hp, hmoves⟩ := d.submit_steps_moves job cancelled l
  have hunique : ∀ q, ((d.submit job cancelled).steps l).1.pushes[d.pushes.length]? = some q →
      q = p := fun q hq => Option.some.inj (hq.symm.trans hp)
  constructor
  case present => exact ⟨p, hp, hmoves.reported_eq⟩
  case begun =>
    intro q hq ha
    exact .of_isPrefix ((List.prefix_append _ _).trans (hmoves.ahead_isPrefix hstands ha))
  case done =>
    intro q hq ha hended hc hl
    obtain rfl := hunique q hq
    have := hmoves.ahead_eq hstands ha hc hl
    rw [Push.ahead_of_ended hended, List.append_nil] at this
    exact .of_eq this
  case cancelled =>
    intro l₁ l₂ q hl hq hc
    obtain ⟨_, _, hmoves₂⟩ := steps_moves l₂ hq
    obtain ⟨hcalls, houtcomes⟩ := hmoves₂.of_cancelled hc
    exact ⟨hcalls, houtcomes, q.owed_le_one⟩
  case cut =>
    intro l₁ l₂ q hl hq hd
    obtain ⟨houtcomes, hcalls⟩ := cut_silent hq hd l₂
    rw [hl, history_append, outcomes_append, calls_append, houtcomes, hcalls, List.append_nil,
      List.append_nil]
    exact ⟨rfl, rfl⟩
  case proceeds =>
    intro q hq
    obtain rfl := hunique q hq
    exact rests_or_moves hp (hmoves.not_finished nofun) _

/-- Of three devices, one is dead, one has an empty token, and one is served, while another push of
    the dispatcher gives up. -/
theorem submitted_follows_three :
    (∀ k, (if k = 0 then Verdict.failed (.invalidToken "gone") else .delivered).Stands) ∧
      Follows ⟨["a", "", "b"], .ok (.send ()), false⟩
        (fun k => if k = 0 then .failed (.invalidToken "gone") else .delivered) 1
        (submit ⟨1, [{ job := ⟨[], .ok .ignore, false⟩, cancelled := true }]⟩
          ⟨["a", "", "b"], .ok (.send ()), false⟩ false)
        [.grant 1, .advance 1, .advance 1, .withdraw 0, .answer 1 (.failed (.invalidToken "gone")),
          .advance 1, .advance 1, .answer 1 .delivered, .advance 1] := by
  have hstands : ∀ k,
      (if k = 0 then Verdict.failed (.invalidToken "gone") else .delivered).Stands := by
    intro k
    split <;> decide
  exact ⟨hstands, submitted_follows ⟨1, [{ job := ⟨[], .ok .ignore, false⟩, cancelled := true }]⟩
    ⟨["a", "", "b"], .ok (.send ()), false⟩ false _ hstands _⟩

example :
    outcomes (history 1
      (submit ⟨1, [{ job := ⟨[], .ok .ignore, false⟩, cancelled := true }]⟩
        ⟨["a", "", "b"], .ok (.send ()), false⟩ false)
      [.grant 1, .advance 1, .advance 1, .withdraw 0, .answer 1 (.failed (.invalidToken "gone")),
        .advance 1, .advance 1, .answer 1 .delivered, .advance 1]) =
      [⟨"a", some (.invalidToken "gone")⟩, ⟨"", some .emptyDeviceToken⟩, ⟨"b", none⟩] := by
  decide

end Dispatcher

end Courier.Dispatch
