import Courier.Proofs.Dispatch.Course

/-!
# What is ahead of a push

In each state the rest of the course is ahead of a push. A move does the first part of it and leaves
the remainder ahead, unless the push is cancelled or abandoned: then nothing more may be ahead. So
what a push has done is at any time a start of its course, and at an undisturbed end all of it.

Results:

* `Move.ahead_isPrefix`, `Move.ahead_eq`: what one move does, and what is ahead after it.
* `Moves.ahead_isPrefix`, `Moves.ahead_eq`: what a run does, and what is ahead after it.
-/

namespace Courier.Dispatch

variable {R : Type}

/-! ## Stages -/

namespace Stage

/-- The course that is ahead in a stage, if the next call has number `n`. -/
def ahead (job : Job R) (verdict : Nat → Verdict) (n : Nat) : Stage R → List Event
  | .starting => job.courseFrom verdict n
  | .refusing error rest => rest.map (refusal error)
  | .sending _ rest => sendingCourse job.nopMode verdict n rest
  | .delivering _ token rest =>
    .reported ⟨token, (verdict n).error?⟩ :: sendingCourse job.nopMode verdict (n + 1) rest
  | .finished => []

variable (job : Job R) (verdict : Nat → Verdict) (n : Nat) (cancelled listening : Bool)

theorem ahead_report_isPrefix (outcome : Outcome) (next : Stage R) :
    essential (report listening outcome next).2 ++
        (report listening outcome next).1.ahead job verdict n <+:
      .reported outcome :: next.ahead job verdict n := by
  unfold report
  split
  · exact List.prefix_refl _
  · exact List.nil_prefix

theorem ahead_advance_isPrefix (s : Stage R) :
    essential (s.advance job cancelled listening).2 ++
        (s.advance job cancelled listening).1.ahead job verdict n <+: s.ahead job verdict n := by
  cases s with
  | starting =>
    show _ <+: job.courseFrom verdict n
    simp only [advance, Job.courseFrom]
    split
    · exact ahead_report_isPrefix job verdict n listening emptyList .finished
    · cases hc : job.converted with
      | error error => exact List.prefix_refl _
      | ok converted => cases converted <;> exact List.prefix_refl _
  | refusing error rest =>
    cases rest with
    | nil => exact List.prefix_refl _
    | cons token rest =>
      simp only [advance]
      split
      · exact List.nil_prefix
      · exact ahead_report_isPrefix job verdict n listening _ (.refusing error rest)
  | sending request rest =>
    cases rest with
    | nil => exact List.prefix_refl _
    | cons token rest =>
      show _ <+: sendingCourse job.nopMode verdict n (token :: rest)
      simp only [advance, sendingCourse]
      split
      · exact List.nil_prefix
      · split
        · exact ahead_report_isPrefix job verdict n listening _ (.sending request rest)
        · split
          · exact ahead_report_isPrefix job verdict n listening _ (.sending request rest)
          · exact List.prefix_refl _
  | delivering request token rest => exact List.prefix_refl _
  | finished => exact List.prefix_refl _

theorem ahead_advance_eq (s : Stage R) :
    essential (s.advance job false true).2 ++ (s.advance job false true).1.ahead job verdict n =
      s.ahead job verdict n := by
  cases s with
  | starting =>
    show _ = job.courseFrom verdict n
    simp only [advance, Job.courseFrom]
    split
    · rfl
    · cases hc : job.converted with
      | error error => rfl
      | ok converted => cases converted <;> rfl
  | refusing error rest => cases rest <;> rfl
  | sending request rest =>
    cases rest with
    | nil => rfl
    | cons token rest =>
      show _ = sendingCourse job.nopMode verdict n (token :: rest)
      simp only [advance, sendingCourse, Bool.false_eq_true, if_false]
      split
      · rfl
      · split <;> rfl
  | delivering request token rest => rfl
  | finished => rfl

theorem ahead_answer_eq (hv : (verdict n).Stands) (request : R) (token : String)
    (rest : List String) :
    essential (answer true (verdict n) (.delivering request token rest)).2 ++
        (answer true (verdict n) (.delivering request token rest)).1.ahead job verdict (n + 1) =
      (delivering request token rest).ahead job verdict n := by
  obtain ⟨hgoes, hevents⟩ := verdictEvents_of_stands token hv
  simp [answer, hgoes, hevents, ahead]

theorem essential_silent (token : String) (v : Verdict) :
    essential ((verdictEvents token v).1.filter fun e => e.outcome?.isNone) = [] := by
  cases v with
  | failed error =>
    simp only [verdictEvents]
    split <;> rfl
  | _ => rfl

theorem ahead_answer_isPrefix {v : Verdict} (hstands : (verdict n).Stands)
    (hv : v = verdict n ∨ v = .cutOff) (request : R) (token : String) (rest : List String) :
    essential (answer listening v (.delivering request token rest)).2 ++
        (answer listening v (.delivering request token rest)).1.ahead job verdict (n + 1) <+:
      (delivering request token rest).ahead job verdict n := by
  cases listening with
  | false =>
    simp only [answer, Bool.false_eq_true, if_false]
    rw [essential_silent]
    exact List.nil_prefix
  | true =>
    rcases hv with rfl | rfl
    · rewrite [ahead_answer_eq job verdict n hstands]
      exact List.prefix_refl _
    · exact List.nil_prefix

end Stage

/-! ## Pushes -/

namespace Push

/-- The course that is ahead of a push, if its next call has number `n`. -/
def ahead (p : Push R) (verdict : Nat → Verdict) (n : Nat) : List Event :=
  match p.phase with
  | .waiting => p.job.courseFrom verdict n
  | .running stage => stage.ahead p.job verdict n
  | .ended => []

variable (p : Push R) (stage : Stage R) (events : List Event)

@[simp] theorem moveTo_job : (p.moveTo stage events).1.job = p.job := by
  cases stage <;> rfl

@[simp] theorem moveTo_cancelled : (p.moveTo stage events).1.cancelled = p.cancelled := by
  cases stage <;> rfl

@[simp] theorem moveTo_listening : (p.moveTo stage events).1.listening = p.listening := by
  cases stage <;> rfl

@[simp] theorem moveTo_reported :
    (p.moveTo stage events).1.reported = p.reported ++ outcomes events := by
  cases stage <;> rfl

@[simp] theorem moveTo_ahead (verdict : Nat → Verdict) (n : Nat) :
    (p.moveTo stage events).1.ahead verdict n = stage.ahead p.job verdict n := by
  cases stage <;> rfl

theorem ahead_of_running {p : Push R} {stage : Stage R} (h : p.phase = .running stage)
    (verdict : Nat → Verdict) (n : Nat) : p.ahead verdict n = stage.ahead p.job verdict n := by
  rw [ahead, h]

theorem ahead_of_ended {p : Push R} (h : p.phase = .ended) (verdict : Nat → Verdict) (n : Nat) :
    p.ahead verdict n = [] := by
  rw [ahead, h]

end Push

/-- Only its own cancellation and its own abandonment show in whether a push is cancelled and
    whether anybody listens to it. -/
theorem Dispatcher.step_flags {d : Dispatcher R} {index : Nat} {p : Push R}
    (hp : d.pushes[index]? = some p) {s : Step R} (hcancel : s ≠ .cancel index)
    (habandon : s ≠ .abandon index) :
    ∃ q, (d.step s).1.pushes[index]? = some q ∧ q.cancelled = p.cancelled ∧
      q.listening = p.listening := by
  obtain ⟨hlt, -⟩ := List.getElem?_eq_some_iff.1 hp
  by_cases hs : s.index? = some index
  · cases s with
    | submit => cases hs
    | cancel => exact absurd (congrArg _ (Option.some.inj hs)) hcancel
    | abandon => exact absurd (congrArg _ (Option.some.inj hs)) habandon
    | grant i =>
      obtain rfl := Option.some.inj hs
      simp only [step, hp]
      split
      · exact ⟨_, List.getElem?_set_self hlt, rfl, rfl⟩
      · exact ⟨p, hp, rfl, rfl⟩
    | withdraw i =>
      obtain rfl := Option.some.inj hs
      simp only [step, hp]
      split
      · exact ⟨_, List.getElem?_set_self hlt, rfl, rfl⟩
      · exact ⟨p, hp, rfl, rfl⟩
    | advance i =>
      obtain rfl := Option.some.inj hs
      simp only [step, hp]
      split
      · split
        · exact ⟨_, List.getElem?_set_self hlt, p.moveTo_cancelled .., p.moveTo_listening ..⟩
        · exact ⟨p, hp, rfl, rfl⟩
      · exact ⟨p, hp, rfl, rfl⟩
    | answer i verdict =>
      obtain rfl := Option.some.inj hs
      simp only [step, hp]
      split
      · split
        · exact ⟨_, List.getElem?_set_self hlt, p.moveTo_cancelled .., p.moveTo_listening ..⟩
        · exact ⟨p, hp, rfl, rfl⟩
      · exact ⟨p, hp, rfl, rfl⟩
  · exact ⟨p, step_other hs hp, rfl, rfl⟩

namespace Move

variable {p q : Push R} {v : Option Verdict} {events : List Event}

theorem job_eq (h : Move p v events q) : q.job = p.job := by
  cases h <;> simp

theorem reported_eq (h : Move p v events q) : q.reported = p.reported ++ outcomes events := by
  cases h <;> simp [outcomes_append] <;> rfl

/-- A cancelled push stays cancelled. -/
theorem cancelled_mono (h : Move p v events q) (hp : p.cancelled = true) : q.cancelled = true := by
  cases h <;> simp [hp]

/-- Nobody begins to listen to an abandoned push. -/
theorem listening_mono (h : Move p v events q) (hq : q.listening = true) : p.listening = true := by
  cases h <;> simp_all

variable {verdict : Nat → Verdict} {n : Nat}

/-- What a move does, and what is ahead after it, are a start of what was ahead before. -/
theorem ahead_isPrefix (h : Move p v events q) (hstands : (verdict n).Stands)
    (hv : ∀ w ∈ v, w = verdict n ∨ w = .cutOff) :
    essential events ++ q.ahead verdict (n + v.toList.length) <+: p.ahead verdict n := by
  cases h with
  | stay | cancel => exact List.prefix_refl _
  | enter waits => rw [Push.ahead.eq_def p, waits]; exact List.prefix_refl _
  | withdraw | forsake => exact List.nil_prefix
  | abandon runs => rw [Push.ahead, runs, Push.ahead_of_running runs]; exact List.prefix_refl _
  | @advance stage _ _ runs _ goes =>
    have := Stage.ahead_advance_isPrefix p.job verdict n p.cancelled p.listening stage
    rw [goes] at this
    simpa [Push.ahead_of_running runs] using this
  | @answer request token rest w _ _ runs goes =>
    have := Stage.ahead_answer_isPrefix p.job verdict n p.listening hstands (hv w rfl) request token
      rest
    rw [goes] at this
    simpa [Push.ahead_of_running runs] using this

/-- An undisturbed push leaves nothing out. -/
theorem ahead_eq (h : Move p v events q) (hstands : (verdict n).Stands)
    (hv : ∀ w ∈ v, w = verdict n) (hc : q.cancelled = false) (hl : q.listening = true) :
    essential events ++ q.ahead verdict (n + v.toList.length) = p.ahead verdict n := by
  cases h with
  | stay => rfl
  | cancel => cases hc
  | enter waits => rw [Push.ahead.eq_def p, waits]; rfl
  | withdraw _ cancelled => rw [cancelled] at hc; cases hc
  | forsake | abandon => cases hl
  | @advance stage _ _ runs _ goes =>
    simp only [Push.moveTo_cancelled, Push.moveTo_listening] at hc hl
    rw [hc, hl] at goes
    have := Stage.ahead_advance_eq p.job verdict n stage
    rw [goes] at this
    simpa [Push.ahead_of_running runs] using this
  | @answer request token rest w _ _ runs goes =>
    simp only [Push.moveTo_listening] at hl
    obtain rfl := hv w rfl
    have := Stage.ahead_answer_eq p.job verdict n hstands request token rest
    rw [hl] at goes
    rw [goes] at this
    simpa [Push.ahead_of_running runs] using this

end Move

/-! ## Runs -/

/-- Whether calls from number `n` on are answered by `verdict`, but for those that are cut off once
    the push is `cancelled`. -/
def AnsweredBy (verdict : Nat → Verdict) (cancelled : Bool) (n : Nat) (answers : List Verdict) :
    Prop :=
  ∀ k v, answers[k]? = some v → v = verdict (n + k) ∨ v = .cutOff ∧ cancelled = true

namespace AnsweredBy

variable {verdict : Nat → Verdict} {cancelled : Bool} {n : Nat} {v : Option Verdict}
  {answers : List Verdict}

theorem head (h : AnsweredBy verdict cancelled n (v.toList ++ answers)) :
    ∀ w ∈ v, w = verdict n ∨ w = .cutOff ∧ cancelled = true := by
  intro w hw
  obtain rfl : v = some w := hw
  exact h 0 w rfl

theorem tail (h : AnsweredBy verdict cancelled n (v.toList ++ answers)) :
    AnsweredBy verdict cancelled (n + v.toList.length) answers := by
  intro k w hw
  rw [Nat.add_assoc]
  refine h (v.toList.length + k) w ?_
  rwa [List.getElem?_append_right (by omega), Nat.add_sub_cancel_left]

end AnsweredBy

namespace Moves

variable {p q : Push R} {answers : List Verdict} {events : List Event}

theorem job_eq (h : Moves p answers events q) : q.job = p.job := by
  induction h with
  | refl => rfl
  | step first _ ih => rw [ih, first.job_eq]

theorem reported_eq (h : Moves p answers events q) :
    q.reported = p.reported ++ outcomes events := by
  induction h with
  | refl => simp [outcomes]
  | step first _ ih => rw [ih, first.reported_eq, outcomes_append, List.append_assoc]

theorem cancelled_mono (h : Moves p answers events q) (hp : p.cancelled = true) :
    q.cancelled = true := by
  induction h with
  | refl => exact hp
  | step first _ ih => exact ih (first.cancelled_mono hp)

theorem listening_mono (h : Moves p answers events q) (hq : q.listening = true) :
    p.listening = true := by
  induction h with
  | refl => exact hq
  | step first _ ih => exact first.listening_mono (ih hq)

variable {verdict : Nat → Verdict} {cancelled : Bool} {n : Nat}

/-- What a run does for a push, and what is ahead after it, are a start of what was ahead. -/
theorem ahead_isPrefix (h : Moves p answers events q) (hstands : ∀ k, (verdict k).Stands)
    (ha : AnsweredBy verdict cancelled n answers) :
    essential events ++ q.ahead verdict (n + answers.length) <+: p.ahead verdict n := by
  induction h generalizing n with
  | refl p => exact List.prefix_refl _
  | @step p q r v answers events more first _ ih =>
    have hfirst := first.ahead_isPrefix (hstands n) fun w hw => (ha.head w hw).imp_right And.left
    obtain ⟨t, ht⟩ := ih ha.tail
    rw [essential_append, List.append_assoc, List.length_append, ← Nat.add_assoc]
    refine List.IsPrefix.trans ?_ hfirst
    rw [← ht]
    exact (List.prefix_append_right_inj _).2 (List.prefix_append _ _)

/-- A run leaves nothing out for a push that is neither cancelled nor abandoned. -/
theorem ahead_eq (h : Moves p answers events q) (hstands : ∀ k, (verdict k).Stands)
    (ha : AnsweredBy verdict q.cancelled n answers) (hc : q.cancelled = false)
    (hl : q.listening = true) :
    essential events ++ q.ahead verdict (n + answers.length) = p.ahead verdict n := by
  induction h generalizing n with
  | refl p => rfl
  | @step p q r v answers events more first others ih =>
    have hqc : q.cancelled = false := by
      cases hq : q.cancelled with
      | false => rfl
      | true => rw [others.cancelled_mono hq] at hc; cases hc
    have hv : ∀ w ∈ v, w = verdict n := fun w hw =>
      (ha.head w hw).resolve_right fun ⟨_, hcut⟩ => by rw [hc] at hcut; cases hcut
    have hfirst := first.ahead_eq (hstands n) hv hqc (others.listening_mono hl)
    rw [essential_append, List.append_assoc, List.length_append, ← Nat.add_assoc, ih ha.tail hc hl,
      hfirst]

end Moves

end Courier.Dispatch
