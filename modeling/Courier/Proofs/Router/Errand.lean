import Courier.Proofs.Dispatch.Ending
import Courier.Router.FanOut

/-!
# The task for one project

A task hands the push of its project to a dispatcher and collects what is reported. In every state
what was reported and what is still ahead make up a start of all outcomes, all of them while nobody
has cancelled, and the dead tokens are those among the outcomes that were collected.

Results:

* `Errand.step_sound`, `Errand.cancel_sound`: every step keeps this.
* `Errand.dead_of_isComplete`: what a complete task has found.
* `Errand.rests_or_moves`: whether a task can move, and that this brings it nearer to its end.
-/

namespace Courier

open Dispatch (Dispatcher Job Outcome Move outcomes deadTokens)

variable {R : Type} {replies : Nat → Verdict} {cancelled : Bool}

/-! ## Dead tokens -/

theorem Dispatch.outcomes_isPrefix {l m : List Dispatch.Event} (h : l <+: m) :
    outcomes l <+: outcomes m :=
  h.filterMap _

theorem Dispatch.deadTokens_isPrefix {l m : List Outcome} (h : l <+: m) :
    deadTokens l <+: deadTokens m :=
  (h.filter _).map _

theorem Dispatch.deadTokens_concat (l : List Outcome) (o : Outcome) :
    deadTokens (l ++ [o]) = deadTokens l ++ if o.isInvalidation then [o.token] else [] := by
  rw [deadTokens, List.filter_append, List.map_append]
  cases h : o.isInvalidation <;> simp [deadTokens, h]

namespace Errand

/-- How a push of a dispatcher belongs to a task: what it has reported and what is still ahead of it
    are a start of all outcomes, and all of them while it is not cancelled. -/
structure Carries (replies : Nat → Verdict) (cancelled : Bool) (e : Errand R)
    (p : Dispatch.Push R) : Prop where
  job : p.job = e.job
  listening : p.listening = true
  flag : p.cancelled = cancelled
  running : p.phase ≠ .running .finished
  start : p.reported ++ outcomes (p.ahead replies e.answered) <+: e.job.outcomes replies
  whole : cancelled = false →
    p.reported ++ outcomes (p.ahead replies e.answered) = e.job.outcomes replies
  collected : e.collected ≤ p.reported.length
  dead : e.dead = deadTokens (p.reported.take e.collected)

/-- What holds of a task in every state. -/
def Sound (replies : Nat → Verdict) (cancelled : Bool) (e : Errand R) : Prop :=
  match e.index? with
  | none => e.answered = 0 ∧ e.collected = 0 ∧ e.dead = []
  | some index => ∃ p, e.dispatcher.pushes[index]? = some p ∧ e.Carries replies cancelled p

theorem sound_of_carries {e : Errand R} {index : Nat} {p : Dispatch.Push R}
    (hindex : e.index? = some index) (hp : e.dispatcher.pushes[index]? = some p)
    (h : e.Carries replies cancelled p) : e.Sound replies cancelled := by
  rw [Sound, hindex]
  exact ⟨p, hp, h⟩

/-- A move of the push keeps it with its task. -/
theorem Carries.move {e : Errand R} {p q : Dispatch.Push R} (h : e.Carries replies cancelled p)
    (hstands : ∀ k, (replies k).Stands) {v : Option Verdict} {events : List Dispatch.Event}
    (hmove : Move p v events q)
    (hv : ∀ w ∈ v, w = replies e.answered ∨ w = .cutOff ∧ cancelled = true)
    (hflag : q.cancelled = p.cancelled) (hlistening : q.listening = p.listening)
    (d : Dispatcher R) :
    ({ e with dispatcher := d, answered := e.answered + v.toList.length } : Errand R).Carries
      replies cancelled q := by
  have hreported := hmove.reported_eq
  constructor
  case job => rw [hmove.job_eq, h.job]
  case listening => rw [hlistening, h.listening]
  case flag => rw [hflag, h.flag]
  case running => exact hmove.not_finished h.running
  case start =>
    have := hmove.ahead_isPrefix (hstands _) fun w hw => (hv w hw).imp_right And.left
    have := Dispatch.outcomes_isPrefix this
    rw [Dispatch.outcomes_append, Dispatch.outcomes_essential] at this
    rw [hreported, List.append_assoc]
    exact ((List.prefix_append_right_inj _).2 this).trans h.start
  case whole =>
    intro hc
    have hv' : ∀ w ∈ v, w = replies e.answered := fun w hw =>
      (hv w hw).resolve_right fun ⟨_, hcut⟩ => by rw [hc] at hcut; cases hcut
    have := hmove.ahead_eq (hstands _) hv' (by rw [hflag, h.flag, hc])
      (by rw [hlistening, h.listening])
    rw [hreported, List.append_assoc, ← h.whole hc, ← this, Dispatch.outcomes_append,
      Dispatch.outcomes_essential]
  case collected =>
    rw [hreported, List.length_append]
    exact Nat.le_add_right_of_le h.collected
  case dead =>
    rw [hreported, List.take_append_of_le_length h.collected]
    exact h.dead

/-- The push of a task goes along with a step of its dispatcher. -/
theorem Carries.step {e : Errand R} {index : Nat} {p : Dispatch.Push R}
    (h : e.Carries replies cancelled p) (hstands : ∀ k, (replies k).Stands)
    (hindex : e.index? = some index) (hp : e.dispatcher.pushes[index]? = some p)
    {s : Dispatch.Step R} (hcancel : s ≠ .cancel index) (habandon : s ≠ .abandon index)
    (hv : ∀ w ∈ e.dispatcher.answerTo? index s,
      w = replies e.answered ∨ w = .cutOff ∧ cancelled = true) :
    ({ e with
      dispatcher := (e.dispatcher.step s).1
      answered := e.answered + (e.dispatcher.answerTo? index s).toList.length } : Errand R).Sound
      replies cancelled := by
  obtain ⟨q, hq, hmove⟩ := Dispatcher.step_move hp s
  obtain ⟨q', hq', hflag, hlistening⟩ := Dispatcher.step_flags hp hcancel habandon
  obtain rfl := Option.some.inj (hq.symm.trans hq')
  exact sound_of_carries hindex hq (h.move hstands hmove hv hflag hlistening _)

/-- A push that is submitted now is the push of its task. -/
theorem sound_submit {e : Errand R} (h : e.answered = 0 ∧ e.collected = 0 ∧ e.dead = []) :
    ({ e with
      dispatcher := (e.dispatcher.step (.submit e.job cancelled)).1
      index? := some e.dispatcher.pushes.length } : Errand R).Sound replies cancelled := by
  obtain ⟨hanswered, hcollected, hdead⟩ := h
  have hall : outcomes (e.job.courseFrom replies e.answered) = e.job.outcomes replies := by
    rw [hanswered]
    exact e.job.outcomes_course replies
  refine sound_of_carries rfl (e.dispatcher.step_submit e.job cancelled) ?_
  constructor
  case job => rfl
  case listening => rfl
  case flag => rfl
  case running => nofun
  case start =>
    show outcomes (e.job.courseFrom replies e.answered) <+: e.job.outcomes replies
    rewrite [hall]
    exact List.prefix_refl _
  case whole => exact fun _ => hall
  case collected => exact Nat.le_of_eq hcollected
  case dead =>
    show e.dead = deadTokens (List.take e.collected [])
    rw [hdead, List.take_nil]
    rfl

/-- A step of the dispatcher that does nothing to the push from outside keeps it with its task. -/
theorem Carries.inside {e : Errand R} {index : Nat} {p : Dispatch.Push R}
    (h : e.Carries replies cancelled p) (hstands : ∀ k, (replies k).Stands)
    (hindex : e.index? = some index) (hp : e.dispatcher.pushes[index]? = some p)
    {s : Dispatch.Step R} (hs : e.isOutside s = false) :
    ({ e with dispatcher := (e.dispatcher.step s).1 } : Errand R).Sound replies cancelled := by
  have hcancel : s ≠ .cancel index := by
    rintro rfl
    simp [isOutside, hindex] at hs
  have habandon : s ≠ .abandon index := by
    rintro rfl
    simp [isOutside, hindex] at hs
  have hnone : e.dispatcher.answerTo? index s = none := by
    cases s with
    | answer i w =>
      have : ¬ index = i := by simpa [isOutside, hindex] using hs
      simp [Dispatcher.answerTo?, Ne.symm this]
    | _ => rfl
  have := h.step hstands hindex hp hcancel habandon (by
    rw [hnone]
    intro w hw
    cases hw)
  rwa [hnone] at this

/-- The verdict on a call under way keeps the push with its task. -/
theorem Carries.answer {e : Errand R} {index : Nat} {p : Dispatch.Push R}
    (h : e.Carries replies cancelled p) (hstands : ∀ k, (replies k).Stands)
    (hindex : e.index? = some index) (hp : e.dispatcher.pushes[index]? = some p)
    (hdelivering : p.isDelivering = true) {w : Verdict}
    (hw : w = replies e.answered ∨ w = .cutOff ∧ cancelled = true) :
    ({ e with
      dispatcher := (e.dispatcher.step (.answer index w)).1
      answered := e.answered + 1 } : Errand R).Sound replies cancelled := by
  have hsome : e.dispatcher.answerTo? index (.answer index w) = some w := by
    simp [Dispatcher.answerTo?, hp, hdelivering]
  have hcancel : (.answer index w : Dispatch.Step R) ≠ .cancel index := by
    intro h
    cases h
  have habandon : (.answer index w : Dispatch.Step R) ≠ .abandon index := by
    intro h
    cases h
  have := h.step hstands hindex hp hcancel habandon (by
    intro w' hw'
    rw [hsome] at hw'
    obtain rfl := Option.some.inj hw'
    exact hw)
  rwa [hsome] at this

/-- Collecting an outcome keeps the push with its task. -/
theorem Carries.collect {e : Errand R} {p : Dispatch.Push R} (h : e.Carries replies cancelled p)
    {o : Outcome} (ho : p.reported[e.collected]? = some o) :
    ({ e with
      collected := e.collected + 1
      dead := e.dead ++ if o.isInvalidation then [o.token] else [] } : Errand R).Carries
      replies cancelled p := by
  obtain ⟨hlt, -⟩ := List.getElem?_eq_some_iff.1 ho
  refine { h with collected := hlt, dead := ?_ }
  rw [List.take_add_one, ho, h.dead]
  exact (Dispatch.deadTokens_concat _ _).symm

/-- Every step keeps a task sound. -/
theorem step_sound {e : Errand R} (hstands : ∀ k, (replies k).Stands)
    (h : e.Sound replies cancelled) (s : Step R) :
    (e.step replies cancelled s).Sound replies cancelled := by
  cases hindex : e.index? with
  | none =>
    have h' := h
    rw [Sound, hindex] at h'
    cases s with
    | submit =>
      simp only [step, hindex]
      exact sound_submit h'
    | inside s =>
      simp only [step]
      split
      · exact h
      · simpa only [Sound, hindex] using h'
    | answer isCut => simpa only [step, hindex] using h
    | collect => simpa only [step, push?, hindex, Option.bind_none] using h
  | some index =>
    have h' := h
    rw [Sound, hindex] at h'
    obtain ⟨p, hp, hcarries⟩ := h'
    cases s with
    | submit => simpa only [step, hindex] using h
    | inside s =>
      simp only [step]
      split
      · exact h
      · rename_i hs
        exact hcarries.inside hstands hindex hp (Bool.eq_false_iff.2 hs)
    | answer isCut =>
      rw [step, hindex]
      simp only [hp, Option.any_some]
      split
      · rename_i hanswer
        simp only [Bool.and_eq_true, Bool.or_eq_true, Bool.not_eq_true'] at hanswer
        obtain ⟨hdelivering, hcut⟩ := hanswer
        rw [← hindex]
        refine hcarries.answer hstands hindex hp hdelivering ?_
        cases isCut with
        | false => exact .inl rfl
        | true => exact .inr ⟨rfl, hcut.resolve_left nofun⟩
      · exact h
    | collect =>
      have hpush : e.push? = some p := by rw [push?, hindex]; exact hp
      rw [step, hpush, Option.bind_some]
      cases ho : p.reported[e.collected]? with
      | none => exact h
      | some o => exact sound_of_carries hindex hp (hcarries.collect ho)

/-- A task stays sound when the push is cancelled. -/
theorem cancel_sound {e : Errand R} (h : e.Sound replies cancelled) :
    e.cancel.Sound replies true := by
  cases hindex : e.index? with
  | none =>
    rw [Sound, hindex] at h
    rw [cancel, hindex, Sound, hindex]
    exact h
  | some index =>
    rw [Sound, hindex] at h
    obtain ⟨p, hp, hcarries⟩ := h
    obtain ⟨hlt, -⟩ := List.getElem?_eq_some_iff.1 hp
    rw [cancel, hindex]
    refine sound_of_carries rfl (p := { p with cancelled := true }) ?_ ?_
    · simp only [Dispatcher.step, hp]
      exact List.getElem?_set_self hlt
    · refine { hcarries with flag := rfl, whole := ?_ }
      exact fun h => absurd h.symm Bool.false_ne_true

/-- A complete task has found the dead devices of a start of its push, and all of them if the push
    is not cancelled. -/
theorem dead_of_isComplete {e : Errand R} (h : e.Sound replies cancelled)
    (hcomplete : e.isComplete = true) :
    e.dead <+: e.job.deadDevices replies ∧
      (cancelled = false → e.dead = e.job.deadDevices replies) := by
  cases hindex : e.index? with
  | none => simp [isComplete, push?, hindex] at hcomplete
  | some index =>
    rw [Sound, hindex] at h
    obtain ⟨p, hp, hcarries⟩ := h
    simp only [isComplete, push?, hindex, Option.bind_some, hp, Option.any_some, Bool.and_eq_true,
      Dispatch.Push.isEnded_iff, beq_iff_eq] at hcomplete
    obtain ⟨hended, hall⟩ := hcomplete
    have hahead := Dispatch.Push.ahead_of_ended hended replies e.answered
    have hdead : e.dead = deadTokens p.reported := by
      rw [hcarries.dead, ← hall, List.take_length]
    rw [hdead, ← Job.deadTokens_outcomes]
    refine ⟨Dispatch.deadTokens_isPrefix ?_, fun hc => congrArg _ ?_⟩
    · simpa [hahead, outcomes] using hcarries.start
    · simpa [hahead, outcomes] using hcarries.whole hc

/-- No outcome has to wait until others are collected. -/
theorem reported_le_room {e : Errand R} (h : e.Sound replies cancelled) {p : Dispatch.Push R}
    (hpush : e.push? = some p) : p.reported.length ≤ p.room := by
  cases hindex : e.index? with
  | none => simp [push?, hindex] at hpush
  | some index =>
    rw [Sound, hindex] at h
    obtain ⟨q, hq, hcarries⟩ := h
    obtain rfl : q = p := by
      rw [push?, hindex] at hpush
      exact Option.some.inj (hq.symm.trans hpush)
    have hstart := (List.prefix_append _ _).trans hcarries.start
    rw [Dispatch.Push.room, hcarries.job]
    exact Nat.le_trans hstart.length_le (e.job.length_outcomes_le replies)

/-! ## Progress -/

theorem step_job (e : Errand R) (s : Step R) : (e.step replies cancelled s).job = e.job := by
  cases s with
  | submit => simp only [step]; split <;> rfl
  | inside => simp only [step]; split <;> rfl
  | answer =>
    simp only [step]
    split
    · split <;> rfl
    · rfl
  | collect => simp only [step]; split <;> rfl

theorem cancel_job (e : Errand R) : e.cancel.job = e.job := by
  unfold cancel
  split <;> rfl

/-- An upper bound for the steps that a task has left: each step of its push may report one outcome,
    which is then to be collected. -/
def work (e : Errand R) : Nat :=
  match e.push? with
  | some p => 2 * p.work + (p.reported.length - e.collected)
  | none => 4 * e.job.devices.length + 9

theorem work_of_push {e : Errand R} {p : Dispatch.Push R} (h : e.push? = some p) :
    e.work = 2 * p.work + (p.reported.length - e.collected) := by
  rw [work, h]

/-- Whether the push of a task waits for a slot while none is free. -/
def Waits (e : Errand R) : Prop :=
  ∃ p, e.push? = some p ∧ p.phase = .waiting ∧ e.dispatcher.free = 0

/-- What the push of a task can do next, by itself or by the verdict on its call, is a step of the
    task. -/
theorem push_step (cancelled : Bool) {e : Errand R} {index : Nat} {p q : Dispatch.Push R}
    {free : Bool} (hindex : e.index? = some index) (hp : e.dispatcher.pushes[index]? = some p)
    {s : Dispatch.Step R}
    (hs : p.ownStep? index free = some s ∨
      p.isDelivering = true ∧ s = .answer index (replies e.answered))
    (hq : (e.dispatcher.step s).1.pushes[index]? = some q) :
    ∃ s', (e.step replies cancelled s').push? = some q ∧
      (e.step replies cancelled s').collected = e.collected := by
  rcases hs with hown | ⟨hdelivering, rfl⟩
  · have houtside : e.isOutside s = false := by
      unfold Dispatch.Push.ownStep? at hown
      grind [isOutside]
    refine ⟨.inside s, ?_⟩
    rw [step, houtside]
    refine ⟨?_, rfl⟩
    show (e.index?.bind fun i => (e.dispatcher.step s).1.pushes[i]?) = some q
    rw [hindex]
    exact hq
  · refine ⟨.answer false, ?_⟩
    rw [step, hindex]
    simp only [hp, Option.any_some, hdelivering, Bool.not_false, Bool.true_or, Bool.and_self,
      if_true]
    exact ⟨hq, trivial⟩

/-- A task is complete, or its push waits for a slot, or a step brings it nearer to its end. -/
theorem rests_or_moves {e : Errand R} (h : e.Sound replies cancelled) :
    e.isComplete = true ∨ e.Waits ∨ ∃ s, (e.step replies cancelled s).work < e.work := by
  cases hindex : e.index? with
  | none =>
    refine .inr (.inr ⟨.submit, ?_⟩)
    rw [Sound, hindex] at h
    have hpush : (e.step replies cancelled .submit).push? =
        some { job := e.job, cancelled := cancelled } := by
      rw [step, hindex]
      exact e.dispatcher.step_submit e.job cancelled
    have hnone : e.push? = none := by rw [push?, hindex]; rfl
    rw [work_of_push hpush, work, hnone]
    show 2 * (2 * e.job.devices.length + 4) + (0 - _) < 4 * e.job.devices.length + 9
    omega
  | some index =>
    rw [Sound, hindex] at h
    obtain ⟨p, hp, hcarries⟩ := h
    have hpush : e.push? = some p := by rw [push?, hindex]; exact hp
    rcases Dispatcher.rests_or_moves hp hcarries.running (replies e.answered) with
      hended | ⟨hwaits, hfree⟩ | ⟨s, q, hs, hq, hwork⟩
    · rcases Nat.lt_or_ge e.collected p.reported.length with hlt | hge
      · refine .inr (.inr ⟨.collect, ?_⟩)
        have hpush' : (e.step replies cancelled .collect).push? = some p ∧
            (e.step replies cancelled .collect).collected = e.collected + 1 := by
          rw [step, hpush, Option.bind_some, List.getElem?_eq_getElem hlt]
          exact ⟨hpush, rfl⟩
        rw [work_of_push hpush'.1, work_of_push hpush, hpush'.2]
        omega
      · left
        have : p.reported.length = e.collected := Nat.le_antisymm hge hcarries.collected
        simp [isComplete, hpush, p.isEnded_iff.2 hended, this]
    · exact .inr (.inl ⟨p, hpush, hwaits, hfree⟩)
    · right; right
      have hlength := Dispatcher.step_reported_le hp hq
      obtain ⟨s', hpush', hcollected⟩ := push_step cancelled hindex hp hs hq
      refine ⟨s', ?_⟩
      rw [work_of_push hpush', work_of_push hpush, hcollected]
      omega

end Errand

end Courier
