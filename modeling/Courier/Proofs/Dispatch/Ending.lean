import Courier.Proofs.Dispatch.Ahead

/-!
# How a push comes to its end

A cancelled push starts no more calls, and at most the attempt under way still gives an outcome. A
push that can move comes nearer to its end with each move of its own; it rests only while it waits
for a slot.

Results:

* `Moves.of_cancelled`: what a cancelled push still does.
* `Moves.of_ended`: a push that is over does nothing more.
* `Dispatcher.rests_or_moves`: whether a push can move, and that this brings it nearer to its end.
-/

namespace Courier.Dispatch

variable {R : Type} {p q : Push R}

/-! ## After the end -/

theorem Move.of_ended {v : Option Verdict} {events : List Event} (h : Move p v events q)
    (hp : p.phase = .ended) : q.phase = .ended ∧ v = none ∧ events = [] := by
  cases h with
  | stay | cancel => exact ⟨hp, rfl, rfl⟩
  | enter hph | withdraw hph | forsake hph | abandon hph | advance hph | answer hph =>
    rw [hp] at hph
    cases hph

/-- A push that is over does nothing more. -/
theorem Moves.of_ended {answers : List Verdict} {events : List Event}
    (h : Moves p answers events q) (hp : p.phase = .ended) :
    q.phase = .ended ∧ answers = [] ∧ events = [] := by
  induction h with
  | refl => exact ⟨hp, rfl, rfl⟩
  | step first _ ih =>
    obtain ⟨hq, rfl, rfl⟩ := first.of_ended hp
    obtain ⟨hr, rfl, rfl⟩ := ih hq
    exact ⟨hr, rfl, rfl⟩

/-! ## After cancellation -/

namespace Stage

/-- How many outcomes a stage may still report once the push is cancelled: one if an attempt is
    under way, or if the push has not looked at its devices yet. -/
def owed : Stage R → Nat
  | .starting | .delivering .. => 1
  | _ => 0

theorem calls_report (listening : Bool) (outcome : Outcome) (next : Stage R) :
    calls (report listening outcome next).2 = [] := by
  cases listening <;> rfl

theorem owed_report_finished (listening : Bool) (outcome : Outcome) :
    (outcomes (report listening outcome (.finished : Stage R)).2).length +
      (report listening outcome (.finished : Stage R)).1.owed ≤ 1 := by
  cases listening <;> simp [report, outcomes, Event.outcome?, owed]

theorem advance_of_cancelled (job : Job R) (listening : Bool) (s : Stage R) (h : s.moves) :
    calls (s.advance job true listening).2 = [] ∧
      (outcomes (s.advance job true listening).2).length +
        (s.advance job true listening).1.owed ≤ s.owed := by
  cases s with
  | starting =>
    simp only [advance]
    split
    · exact ⟨calls_report .., owed_report_finished ..⟩
    · cases hc : job.converted with
      | error error => exact ⟨rfl, Nat.zero_le _⟩
      | ok converted => cases converted <;> exact ⟨rfl, Nat.zero_le _⟩
  | refusing error rest => cases rest <;> exact ⟨rfl, Nat.le_refl _⟩
  | sending request rest => cases rest <;> exact ⟨rfl, Nat.le_refl _⟩
  | delivering => cases h
  | finished => cases h

theorem calls_verdictEvents (token : String) (v : Verdict) :
    calls (verdictEvents token v).1 = [] := by
  cases v with
  | failed error =>
    simp only [verdictEvents]
    split <;> rfl
  | _ => rfl

theorem outcomes_verdictEvents_length (token : String) (v : Verdict) :
    (outcomes (verdictEvents token v).1).length ≤ 1 := by
  cases v with
  | failed error =>
    simp only [verdictEvents]
    split
    · exact Nat.zero_le 1
    · exact Nat.le_refl 1
  | delivered => exact Nat.le_refl 1
  | crashed => exact Nat.zero_le 1

theorem answer_events (listening : Bool) (v : Verdict) (request : R) (token : String)
    (rest : List String) :
    calls (answer listening v (.delivering request token rest)).2 = [] ∧
      (outcomes (answer listening v (.delivering request token rest)).2).length +
        (answer listening v (.delivering request token rest)).1.owed ≤ 1 := by
  have hcalls := calls_verdictEvents token v
  have houtcomes := outcomes_verdictEvents_length token v
  cases listening with
  | true =>
    simp only [answer, if_true]
    split <;> exact ⟨hcalls, houtcomes⟩
  | false =>
    simp only [answer, Bool.false_eq_true, if_false]
    have hsilent := essential_silent token v
    rw [← calls_essential, ← outcomes_essential, hsilent]
    exact ⟨rfl, Nat.zero_le _⟩

end Stage

/-- How many outcomes a push may still report once it is cancelled. -/
def Push.owed (p : Push R) : Nat :=
  match p.phase with
  | .running stage => stage.owed
  | _ => 0

@[simp] theorem Push.moveTo_owed (p : Push R) (stage : Stage R) (events : List Event) :
    (p.moveTo stage events).1.owed = stage.owed := by
  cases stage <;> rfl

theorem Push.owed_of_running {stage : Stage R} (h : p.phase = .running stage) :
    p.owed = stage.owed := by
  rw [owed, h]

theorem Push.owed_le_one (p : Push R) : p.owed ≤ 1 := by
  unfold owed Stage.owed
  split <;> (try split) <;> omega

theorem calls_leaving (freed : Nat) (crashed : Bool) : calls (leaving freed crashed) = [] := by
  unfold leaving
  split <;> rfl

/-- A cancelled push starts no call, and what it reports was owed before. -/
theorem Move.of_cancelled {v : Option Verdict} {events : List Event} (h : Move p v events q)
    (hp : p.cancelled = true) :
    calls events = [] ∧ (outcomes events).length + q.owed ≤ p.owed := by
  cases h with
  | stay | cancel => exact ⟨rfl, by simp [outcomes, Push.owed]⟩
  | enter _ uncancelled => rw [hp] at uncancelled; cases uncancelled
  | withdraw | forsake => exact ⟨rfl, Nat.zero_le _⟩
  | abandon runs => exact ⟨rfl, by simp [outcomes, Push.owed, runs]⟩
  | @advance stage _ _ runs moves goes =>
    have := stage.advance_of_cancelled p.job p.listening moves
    rw [hp] at goes
    rw [goes] at this
    simpa [calls_append, calls_leaving, outcomes_append, Push.owed_of_running runs] using this
  | @answer request token rest w _ _ runs goes =>
    have := Stage.answer_events p.listening w request token rest
    rw [goes] at this
    simpa [calls_append, calls_leaving, outcomes_append, Push.owed_of_running runs, Stage.owed]
      using this

/-- A cancelled push starts no more calls, and at most what it owed is still reported. -/
theorem Moves.of_cancelled {answers : List Verdict} {events : List Event}
    (h : Moves p answers events q) (hp : p.cancelled = true) :
    calls events = [] ∧ (outcomes events).length ≤ p.owed := by
  induction h with
  | refl => exact ⟨rfl, Nat.zero_le _⟩
  | step first _ ih =>
    obtain ⟨hcalls, howed⟩ := first.of_cancelled hp
    obtain ⟨hcalls', howed'⟩ := ih (first.cancelled_mono hp)
    refine ⟨?_, ?_⟩
    · rw [calls_append, hcalls, hcalls', List.append_nil]
    · rw [outcomes_append, List.length_append]
      omega

/-! ## Nearer to the end -/

theorem Stage.outcomes_report_length (listening : Bool) (outcome : Outcome) (next : Stage R) :
    (outcomes (report listening outcome next).2).length ≤ 1 := by
  cases listening
  · exact Nat.zero_le 1
  · exact Nat.le_refl 1

theorem Stage.outcomes_advance_length (job : Job R) (cancelled listening : Bool) (s : Stage R) :
    (outcomes (s.advance job cancelled listening).2).length ≤ 1 := by
  cases s with
  | starting =>
    simp only [advance]
    split
    · exact outcomes_report_length ..
    · cases job.converted with
      | error error => exact Nat.zero_le 1
      | ok converted => cases converted <;> exact Nat.zero_le 1
  | refusing error rest =>
    cases rest with
    | nil => exact Nat.zero_le 1
    | cons token rest =>
      simp only [advance]
      split
      · exact Nat.zero_le 1
      · exact outcomes_report_length ..
  | sending request rest =>
    cases rest with
    | nil => exact Nat.zero_le 1
    | cons token rest =>
      simp only [advance]
      split
      · exact Nat.zero_le 1
      · split
        · exact outcomes_report_length ..
        · split
          · exact outcomes_report_length ..
          · exact Nat.zero_le 1
  | delivering | finished => exact Nat.zero_le 1

/-- A move reports at most one outcome. -/
theorem Move.outcomes_length {v : Option Verdict} {events : List Event} (h : Move p v events q) :
    (outcomes events).length ≤ 1 := by
  cases h with
  | stay | enter | withdraw | cancel | forsake | abandon => exact Nat.zero_le 1
  | @advance stage _ _ _ _ goes =>
    have := stage.outcomes_advance_length p.job p.cancelled p.listening
    rw [goes] at this
    simpa [outcomes_append] using this
  | @answer request token rest w _ _ _ goes =>
    have := (Stage.answer_events p.listening w request token rest).2
    rw [goes] at this
    simpa [outcomes_append] using Nat.le_of_add_right_le this

theorem Push.moveTo_work_le (p : Push R) (stage : Stage R) (events : List Event) :
    (p.moveTo stage events).1.work ≤ stage.work p.job + 1 := by
  cases stage <;> simp [moveTo, work]

theorem Push.work_of_running {stage : Stage R} (h : p.phase = .running stage) :
    p.work = stage.work p.job + 1 := by
  rw [work, h]

theorem Stage.work_answer_lt (job : Job R) (listening : Bool) (v : Verdict) (request : R)
    (token : String) (rest : List String) :
    (answer listening v (.delivering request token rest)).1.work job <
      (delivering request token rest).work job := by
  simp only [answer]
  split
  · split
    · show 2 * rest.length + 1 < 2 * rest.length + 2
      omega
    · exact Nat.succ_pos _
  · exact Nat.succ_pos _

/-- No push is held at the last stage: it is over then. -/
theorem Move.not_finished {v : Option Verdict} {events : List Event} (h : Move p v events q)
    (hp : p.phase ≠ .running .finished) : q.phase ≠ .running .finished := by
  have hmove : ∀ (stage : Stage R) (l : List Event),
      (p.moveTo stage l).1.phase ≠ .running .finished := by
    intro stage l
    cases stage <;> simp [Push.moveTo]
  cases h with
  | stay | cancel | abandon => exact hp
  | enter | withdraw | forsake => simp
  | advance | answer => exact hmove _ _

theorem Moves.not_finished {answers : List Verdict} {events : List Event}
    (h : Moves p answers events q) (hp : p.phase ≠ .running .finished) :
    q.phase ≠ .running .finished := by
  induction h with
  | refl => exact hp
  | step first _ ih => exact ih (first.not_finished hp)

namespace Dispatcher

variable {d : Dispatcher R} {index : Nat}

theorem step_advance {stage : Stage R} (hp : d.pushes[index]? = some p)
    (hph : p.phase = .running stage) (hm : stage.moves = true) :
    (d.step (.advance index)).1.pushes[index]? =
      some (p.moveTo (stage.advance p.job p.cancelled p.listening).1
        (stage.advance p.job p.cancelled p.listening).2).1 := by
  obtain ⟨hlt, -⟩ := List.getElem?_eq_some_iff.1 hp
  simp only [step, hp, hph, hm, if_true, moveTo_pushes]
  exact List.getElem?_set_self hlt

theorem step_answer {request : R} {token : String} {rest : List String}
    (hp : d.pushes[index]? = some p) (hph : p.phase = .running (.delivering request token rest))
    (v : Verdict) :
    (d.step (.answer index v)).1.pushes[index]? =
      some (p.moveTo (Stage.answer p.listening v (.delivering request token rest)).1
        (Stage.answer p.listening v (.delivering request token rest)).2).1 := by
  obtain ⟨hlt, -⟩ := List.getElem?_eq_some_iff.1 hp
  simp only [step, hp, hph, Stage.isDelivering, if_true, moveTo_pushes]
  exact List.getElem?_set_self hlt

theorem step_withdraw (hp : d.pushes[index]? = some p) (hph : p.phase = .waiting)
    (hc : p.cancelled = true) :
    (d.step (.withdraw index)).1.pushes[index]? = some { p with phase := .ended } := by
  obtain ⟨hlt, -⟩ := List.getElem?_eq_some_iff.1 hp
  simp only [step, hp, p.isWaiting_iff.2 hph, hc, Bool.and_self, if_true, put]
  exact List.getElem?_set_self hlt

theorem step_grant (hp : d.pushes[index]? = some p) (hph : p.phase = .waiting)
    (hc : p.cancelled = false) (hfree : 0 < d.free) :
    (d.step (.grant index)).1.pushes[index]? = some { p with phase := .running .starting } := by
  obtain ⟨hlt, -⟩ := List.getElem?_eq_some_iff.1 hp
  simp only [step, hp, p.isWaiting_iff.2 hph, hc, hfree, Bool.not_false, decide_true, Bool.and_self,
    if_true, put]
  exact List.getElem?_set_self hlt

/-- A step reports at most one outcome of a push. -/
theorem step_reported_le (hp : d.pushes[index]? = some p) {s : Step R}
    (hq : (d.step s).1.pushes[index]? = some q) :
    q.reported.length ≤ p.reported.length + 1 := by
  obtain ⟨q', hq', hmove⟩ := step_move hp s
  obtain rfl := Option.some.inj (hq.symm.trans hq')
  rw [hmove.reported_eq, List.length_append]
  exact Nat.add_le_add_left hmove.outcomes_length _

/-- A push of a dispatcher is over, or it waits for a slot while none is free, or it can move, which
    brings it nearer to its end: by itself, or by the verdict on its call. -/
theorem rests_or_moves (hp : d.pushes[index]? = some p) (hwf : p.phase ≠ .running .finished)
    (v : Verdict) :
    p.phase = .ended ∨ p.phase = .waiting ∧ d.free = 0 ∨
      ∃ s q, (p.ownStep? index (0 < d.free) = some s ∨
          p.isDelivering = true ∧ s = .answer index v) ∧
        (d.step s).1.pushes[index]? = some q ∧ q.work < p.work := by
  cases hph : p.phase with
  | ended => exact .inl rfl
  | waiting =>
    have hwork : p.work = 2 * p.job.devices.length + 4 := by rw [Push.work, hph]
    cases hc : p.cancelled with
    | true =>
      refine .inr (.inr ⟨.withdraw index, _, .inl ?_, step_withdraw hp hph hc, ?_⟩)
      · rw [Push.ownStep?, hph, hc]
        rfl
      · rw [hwork]
        exact Nat.succ_pos _
    | false =>
      rcases Nat.eq_zero_or_pos d.free with hfree | hfree
      · exact .inr (.inl ⟨rfl, hfree⟩)
      · refine .inr (.inr ⟨.grant index, _, .inl ?_, step_grant hp hph hc hfree, ?_⟩)
        · simp [Push.ownStep?, hph, hc, hfree]
        · rw [hwork]
          show 2 * p.job.devices.length + 2 + 1 < _
          omega
  | running stage =>
    have hwork := Push.work_of_running hph
    by_cases hm : stage.moves = true
    · refine .inr (.inr ⟨.advance index, _, .inl ?_, step_advance hp hph hm, ?_⟩)
      · rw [Push.ownStep?, hph]
        exact if_pos hm
      · have hlt := stage.work_advance_lt p.job p.cancelled p.listening hm
        have hle := p.moveTo_work_le (stage.advance p.job p.cancelled p.listening).1
          (stage.advance p.job p.cancelled p.listening).2
        omega
    · cases stage with
      | delivering request token rest =>
        have hdelivering : p.isDelivering = true := by rw [Push.isDelivering, hph]; rfl
        refine .inr (.inr ⟨.answer index v, _, .inr ⟨hdelivering, rfl⟩, step_answer hp hph v, ?_⟩)
        have hlt := Stage.work_answer_lt p.job p.listening v request token rest
        have hle := p.moveTo_work_le (Stage.answer p.listening v (.delivering request token rest)).1
          (Stage.answer p.listening v (.delivering request token rest)).2
        omega
      | finished => exact absurd hph hwf
      | _ => exact absurd rfl hm

end Dispatcher

end Courier.Dispatch
