import Courier.Proofs.Dispatch.Sending

/-!
# Who holds a slot

A dispatcher neither loses nor invents a slot: each is free or held by one push. A push takes at
most one, when it begins, and gives back what it took, however it ends. While it holds a slot
nothing but the push network keeps it waiting, for there is room for everything that it reports.

Results:

* `Dispatcher.steps_slots`: free slots and running pushes always come to the same number.
* `Dispatcher.steps_balance`: what a push takes in a run it holds at the end or has given back.
* `Moves.entered_le`, `Moves.converted_eq`, `Moves.toReport_le`: how often a push begins and is
  converted in a run, and how much it reports.
* `Dispatcher.new_steps_disciplined`: the slots of a dispatcher, in every run from its start.
-/

namespace Courier.Dispatch

variable {R : Type} {p q : Push R}

/-! ## All slots -/

namespace Dispatcher

variable {d : Dispatcher R} {index : Nat}

theorem running_set (hp : d.pushes[index]? = some p) (q : Push R) :
    (d.pushes.set index q).countP Push.isRunning + p.held = d.running + q.held := by
  obtain ⟨hlt, rfl⟩ := List.getElem?_eq_some_iff.1 hp
  have hpos : (if d.pushes[index].isRunning then 1 else 0) ≤ d.pushes.countP Push.isRunning := by
    split
    · rename_i h
      exact List.countP_pos_iff.2 ⟨_, List.getElem_mem hlt, h⟩
    · exact Nat.zero_le _
  rw [List.countP_set hlt, running, Push.held, Push.held]
  omega

/-- A step neither loses nor invents a slot. -/
theorem step_slots (d : Dispatcher R) (s : Step R) :
    (d.step s).1.free + (d.step s).1.running = d.free + d.running := by
  cases hs : s.index? with
  | none =>
    cases s with
    | submit job cancelled =>
      show d.free + (d.pushes ++ [_]).countP Push.isRunning = _
      rw [List.countP_append]
      rfl
    | _ => cases hs
  | some index =>
    cases hp : d.pushes[index]? with
    | none => rw [step_of_none hs hp]
    | some p =>
      obtain ⟨q, hq, -, hfree⟩ := step_own hs hp
      have hrunning := running_set hp q
      rw [← hq] at hrunning
      have : (d.step s).1.running = (d.step s).1.pushes.countP Push.isRunning := rfl
      omega

/-- A run neither loses nor invents a slot. -/
theorem steps_slots (d : Dispatcher R) (l : List (Step R)) :
    (d.steps l).1.free + (d.steps l).1.running = d.free + d.running := by
  induction l generalizing d with
  | nil => rfl
  | cons s l ih =>
    show ((d.step s).1.steps l).1.free + ((d.step s).1.steps l).1.running = _
    rw [ih, step_slots]

theorem inFlight_le_running (d : Dispatcher R) : d.inFlight ≤ d.running := by
  apply List.countP_mono_left
  intro p _ h
  unfold Push.isRunning
  split at h <;> simp_all

end Dispatcher

/-! ## The slots of one push -/

namespace Dispatcher

variable {d : Dispatcher R} {index : Nat}

/-- The slots that a push takes in a run. -/
def taken (index : Nat) : Dispatcher R → List (Step R) → Nat
  | _, [] => 0
  | d, s :: rest =>
    (if s.index? = some index then d.free - (d.step s).1.free else 0) +
      taken index (d.step s).1 rest

/-- The slots that a push gives back in a run. -/
def returned (index : Nat) : Dispatcher R → List (Step R) → Nat
  | _, [] => 0
  | d, s :: rest =>
    (if s.index? = some index then (d.step s).1.free - d.free else 0) +
      returned index (d.step s).1 rest

/-- A push holds a slot more after a step in which a slot comes to it, and one less after a step in
    which one comes free. -/
theorem step_held {s : Step R} (hp : d.pushes[index]? = some p)
    (hq : (d.step s).1.pushes[index]? = some q) :
    (if s.index? = some index then d.free - (d.step s).1.free else 0) = q.held - p.held ∧
      (if s.index? = some index then (d.step s).1.free - d.free else 0) = p.held - q.held := by
  split
  · rename_i hs
    obtain ⟨q', hq', -, hfree⟩ := step_own hs hp
    obtain ⟨hlt, -⟩ := List.getElem?_eq_some_iff.1 hp
    rw [hq', List.getElem?_set_self hlt] at hq
    obtain rfl := Option.some.inj hq
    omega
  · rename_i hs
    rw [step_other hs hp] at hq
    obtain rfl := Option.some.inj hq
    omega

/-- What a push takes in a run it holds at the end or has given back. -/
theorem steps_balance (l : List (Step R)) {d : Dispatcher R} (hp : d.pushes[index]? = some p)
    (hq : (d.steps l).1.pushes[index]? = some q) :
    p.held + taken index d l = q.held + returned index d l := by
  induction l generalizing d p with
  | nil =>
    obtain rfl := Option.some.inj (hp.symm.trans hq)
    rfl
  | cons s l ih =>
    obtain ⟨r, hr, -⟩ := step_move hp s
    obtain ⟨htaken, hreturned⟩ := step_held hp hr
    have := ih hr hq
    rw [taken, returned, htaken, hreturned]
    omega

end Dispatcher

/-! ## What is still to come -/

/-- Whether an event is the beginning of a push or a conversion. -/
def Event.isStart : Event → Bool
  | .entered | .converted => true
  | _ => false

theorem count_entered {events : List Event} (h : ∀ e ∈ events, e.isStart = false) :
    events.count .entered = 0 := by
  rw [List.count_eq_zero]
  intro he
  cases h _ he

theorem count_converted {events : List Event} (h : ∀ e ∈ events, e.isStart = false) :
    events.count .converted = 0 := by
  rw [List.count_eq_zero]
  intro he
  cases h _ he

namespace Stage

/-- How often the notification is still to be converted. -/
def toConvert (job : Job R) : Stage R → Nat
  | .starting => job.conversions
  | _ => 0

/-- How many outcomes may still be reported. -/
def toReport (job : Job R) : Stage R → Nat
  | .starting => max 1 job.devices.length
  | .refusing _ rest | .sending _ rest => rest.length
  | .delivering _ _ rest => rest.length + 1
  | .finished => 0

/-- What a stage does and what is still to come after it come to what was still to come before. -/
structure Accounts (job : Job R) (s : Stage R) (events : List Event) (next : Stage R) : Prop where
  entered : events.count .entered = 0
  converted : events.count .converted + next.toConvert job = s.toConvert job
  reported : (outcomes events).length + next.toReport job ≤ s.toReport job

variable {job : Job R} {s next : Stage R}

theorem accounts_finished (h : s.toConvert job = 0) : Accounts job s [] .finished :=
  ⟨rfl, h.symm, Nat.zero_le _⟩

theorem accounts_report (listening : Bool) (outcome : Outcome) (hs : s.toConvert job = 0)
    (hnext : next.toConvert job = 0) (hreport : next.toReport job < s.toReport job) :
    Accounts job s (report listening outcome next).2 (report listening outcome next).1 := by
  cases listening with
  | false => exact accounts_finished hs
  | true =>
    refine ⟨rfl, (Nat.zero_add _).trans (hnext.trans hs.symm), ?_⟩
    show 1 + next.toReport job ≤ s.toReport job
    omega

theorem accounts_advance (job : Job R) (cancelled listening : Bool) (s : Stage R) :
    Accounts job s (s.advance job cancelled listening).2 (s.advance job cancelled listening).1 := by
  cases s with
  | starting =>
    simp only [advance]
    split
    · rename_i h
      refine accounts_report listening emptyList ?_ rfl ?_
      · exact if_pos h
      · show 0 < max 1 job.devices.length
        omega
    · rename_i h
      have hconverted :
          [Event.converted].count .converted + 0 = (starting : Stage R).toConvert job :=
        (if_neg h).symm
      have hreported : 0 + job.devices.length ≤ max 1 job.devices.length := by omega
      cases job.converted with
      | error error => exact ⟨rfl, hconverted, hreported⟩
      | ok converted =>
        cases converted with
        | ignore => exact ⟨rfl, hconverted, Nat.zero_le _⟩
        | send request => exact ⟨rfl, hconverted, hreported⟩
  | refusing error rest =>
    cases rest with
    | nil => exact accounts_finished rfl
    | cons token rest =>
      simp only [advance]
      split
      · exact accounts_finished rfl
      · exact accounts_report listening _ rfl rfl (Nat.lt_succ_self _)
  | sending request rest =>
    cases rest with
    | nil => exact accounts_finished rfl
    | cons token rest =>
      simp only [advance]
      split
      · exact accounts_finished rfl
      · split
        · exact accounts_report listening _ rfl rfl (Nat.lt_succ_self _)
        · split
          · exact accounts_report listening _ rfl rfl (Nat.lt_succ_self _)
          · exact ⟨rfl, rfl, Nat.le_of_eq (Nat.zero_add _)⟩
  | delivering request token rest => exact ⟨rfl, rfl, Nat.le_of_eq (Nat.zero_add _)⟩
  | finished => exact accounts_finished rfl

theorem isStart_verdictEvents (token : String) (v : Verdict) :
    ∀ e ∈ (verdictEvents token v).1, e.isStart = false := by
  cases v with
  | delivered | crashed => simp [verdictEvents, Event.isStart]
  | failed error =>
    simp only [verdictEvents]
    split <;> simp [Event.isStart]

theorem accounts_answer (job : Job R) (listening : Bool) (v : Verdict) (request : R)
    (token : String) (rest : List String) :
    Accounts job (.delivering request token rest)
      (answer listening v (.delivering request token rest)).2
      (answer listening v (.delivering request token rest)).1 := by
  have hstarts := isStart_verdictEvents token v
  cases listening with
  | true =>
    have hlength := outcomes_verdictEvents_length token v
    simp only [answer, if_true]
    split
    · refine ⟨count_entered hstarts, count_converted hstarts, ?_⟩
      show (outcomes (verdictEvents token v).1).length + rest.length ≤ rest.length + 1
      omega
    · refine ⟨count_entered hstarts, count_converted hstarts, ?_⟩
      show (outcomes (verdictEvents token v).1).length + 0 ≤ rest.length + 1
      omega
  | false =>
    have hfilter : ∀ e ∈ (verdictEvents token v).1.filter fun e => e.outcome?.isNone,
        e.isStart = false := fun e he => hstarts e (List.mem_filter.1 he).1
    simp only [answer, Bool.false_eq_true, if_false]
    refine ⟨count_entered hfilter, count_converted hfilter, ?_⟩
    rw [← outcomes_essential, essential_silent]
    exact Nat.zero_le _

end Stage

namespace Push

/-- How often a push may still begin. -/
def pending (p : Push R) : Nat := if p.isWaiting then 1 else 0

/-- How often the notification of a push that holds a slot is still to be converted. -/
def toConvert (p : Push R) : Nat :=
  match p.phase with
  | .running stage => stage.toConvert p.job
  | _ => 0

/-- How many outcomes a push may still report. -/
def toReport (p : Push R) : Nat :=
  match p.phase with
  | .waiting => p.room
  | .running stage => stage.toReport p.job
  | .ended => 0

/-- What is done for a push and what is still to come after it come to what was still to come
    before. Each beginning brings the conversions of the job. -/
structure Accounts (p : Push R) (events : List Event) (q : Push R) : Prop where
  job : q.job = p.job
  entered : events.count .entered + q.pending ≤ p.pending
  converted : events.count .converted + q.toConvert =
    p.toConvert + events.count .entered * p.job.conversions
  reported : (outcomes events).length + q.toReport ≤ p.toReport

theorem Accounts.of_phase_eq (hjob : q.job = p.job) (hphase : q.phase = p.phase) :
    p.Accounts [] q where
  job := hjob
  entered := by
    rw [pending, pending, isWaiting, isWaiting, hphase]
    exact Nat.le_of_eq (Nat.zero_add _)
  converted := by simp [toConvert, hphase, hjob]
  reported := by simp [toReport, room, hphase, hjob, outcomes]

theorem Accounts.trans {r : Push R} {events more : List Event} (h : p.Accounts events q)
    (h' : q.Accounts more r) : p.Accounts (events ++ more) r where
  job := h'.job.trans h.job
  entered := by
    have := h.entered
    have := h'.entered
    rw [List.count_append]
    omega
  converted := by
    have := h.converted
    have hmore := h'.converted
    rw [h.job] at hmore
    rw [List.count_append, List.count_append, Nat.add_mul]
    omega
  reported := by
    have := h.reported
    have := h'.reported
    rw [outcomes_append, List.length_append]
    omega

theorem pending_of_waiting (h : p.phase = .waiting) : p.pending = 1 := by
  rw [pending, isWaiting, h]
  rfl

theorem pending_of_running {stage : Stage R} (h : p.phase = .running stage) : p.pending = 0 := by
  rw [pending, isWaiting, h]
  rfl

theorem moveTo_pending (p : Push R) (stage : Stage R) (events : List Event) :
    (p.moveTo stage events).1.pending = 0 := by
  cases stage <;> rfl

@[simp] theorem moveTo_toConvert (p : Push R) (stage : Stage R) (events : List Event) :
    (p.moveTo stage events).1.toConvert = stage.toConvert p.job := by
  cases stage <;> rfl

@[simp] theorem moveTo_toReport (p : Push R) (stage : Stage R) (events : List Event) :
    (p.moveTo stage events).1.toReport = stage.toReport p.job := by
  cases stage <;> rfl

theorem isStart_leaving (freed : Nat) (crashed : Bool) :
    ∀ e ∈ leaving freed crashed, e.isStart = false := by
  unfold leaving
  split <;> simp [Event.isStart]

/-- A push whose stage goes on goes on. -/
theorem accounts_moveTo {stage next : Stage R} {events : List Event}
    (hp : p.phase = .running stage) (h : stage.Accounts p.job events next) (freed : Nat)
    (crashed : Bool) :
    p.Accounts (events ++ leaving freed crashed) (p.moveTo next events).1 := by
  have hstarts := isStart_leaving freed crashed
  have hentered : (events ++ leaving freed crashed).count .entered = 0 := by
    rw [List.count_append, h.entered, count_entered hstarts]
  constructor
  case job => exact p.moveTo_job next events
  case entered => rw [hentered, moveTo_pending]; exact Nat.zero_le _
  case converted =>
    rw [hentered, List.count_append, count_converted hstarts, moveTo_toConvert, toConvert, hp,
      Nat.zero_mul]
    exact h.converted
  case reported =>
    rw [outcomes_append, outcomes_leaving, List.append_nil, moveTo_toReport, toReport, hp]
    exact h.reported

end Push

theorem Move.accounts {v : Option Verdict} {events : List Event} (h : Move p v events q) :
    p.Accounts events q := by
  cases h with
  | stay | cancel | abandon => exact .of_phase_eq rfl rfl
  | enter waits =>
    refine ⟨rfl, ?_, ?_, ?_⟩
    · rw [Push.pending_of_waiting waits]
      exact Nat.le_refl 1
    · rw [Push.toConvert, Push.toConvert, waits]
      show 0 + p.job.conversions = 0 + 1 * p.job.conversions
      omega
    · rw [Push.toReport, Push.toReport, waits]
      show 0 + max 1 p.job.devices.length ≤ max 1 p.job.devices.length
      omega
  | withdraw waits | forsake waits =>
    refine ⟨rfl, Nat.zero_le _, ?_, Nat.zero_le _⟩
    rw [Push.toConvert, Push.toConvert, waits]
    simp
  | @advance stage _ _ runs moves goes =>
    have := stage.accounts_advance p.job p.cancelled p.listening
    rw [goes] at this
    exact Push.accounts_moveTo runs this _ _
  | @answer request token rest w _ _ runs goes =>
    have := Stage.accounts_answer p.job p.listening w request token rest
    rw [goes] at this
    exact Push.accounts_moveTo runs this _ _

theorem Moves.accounts {answers : List Verdict} {events : List Event}
    (h : Moves p answers events q) : p.Accounts events q := by
  induction h with
  | refl p => exact .of_phase_eq rfl rfl
  | step first _ ih => exact first.accounts.trans ih

/-! ## Beginning and ending -/

/-- A push begins in the move in which it comes to hold a slot. -/
theorem Move.entered_eq {v : Option Verdict} {events : List Event} (h : Move p v events q) :
    events.count .entered = q.held - p.held := by
  have haccounts := h.accounts.entered
  have hheld := q.held_le_one
  cases h with
  | stay => exact (Nat.sub_self _).symm
  | cancel => exact (Nat.sub_self p.held).symm
  | enter waits => rw [Push.held_of_waiting waits]; rfl
  | withdraw | forsake => exact (Nat.zero_sub _).symm
  | abandon => exact (Nat.sub_self p.held).symm
  | advance runs | answer runs =>
    rw [Push.pending_of_running runs] at haccounts
    rw [Push.held_of_running runs]
    omega

/-- A push that waits has done nothing yet. -/
theorem Move.of_waiting {v : Option Verdict} {events : List Event} (h : Move p v events q)
    (hq : q.phase = .waiting) : p.phase = .waiting ∧ events = [] := by
  have hmove : ∀ (stage : Stage R) (l : List Event), (p.moveTo stage l).1.phase ≠ .waiting := by
    intro stage l
    cases stage <;> nofun
  cases h with
  | stay | cancel | abandon => exact ⟨hq, rfl⟩
  | enter | withdraw | forsake => cases hq
  | advance | answer => exact absurd hq (hmove _ _)

theorem Moves.of_waiting {answers : List Verdict} {events : List Event}
    (h : Moves p answers events q) (hq : q.phase = .waiting) :
    p.phase = .waiting ∧ events = [] := by
  induction h with
  | refl => exact ⟨hq, rfl⟩
  | step first _ ih =>
    obtain ⟨hwaits, rfl⟩ := ih hq
    obtain ⟨hp, rfl⟩ := first.of_waiting hwaits
    exact ⟨hp, rfl⟩

theorem Move.of_queued {v : Option Verdict} {events : List Event} (h : Move p v events q)
    (hp : p.phase = .waiting) (hc : p.cancelled = true) :
    events = [] ∧ (q.phase = .waiting ∨ q.phase = .ended) := by
  cases h with
  | stay | cancel | abandon => exact ⟨rfl, .inl hp⟩
  | enter _ uncancelled => rw [hc] at uncancelled; cases uncancelled
  | withdraw | forsake => exact ⟨rfl, .inr rfl⟩
  | advance runs | answer runs => rw [hp] at runs; cases runs

/-- A push that was cancelled while it waited never does anything. -/
theorem Moves.of_queued {answers : List Verdict} {events : List Event}
    (h : Moves p answers events q) (hp : p.phase = .waiting) (hc : p.cancelled = true) :
    events = [] := by
  induction h with
  | refl => rfl
  | step first others ih =>
    obtain ⟨rfl, hq | hq⟩ := first.of_queued hp hc
    · exact ih hq (first.cancelled_mono hc)
    · exact (others.of_ended hq).2.2

/-! ## Runs -/

namespace Dispatcher

/-- A push takes a slot whenever it begins. -/
theorem taken_eq {index : Nat} (l : List (Step R)) {d : Dispatcher R}
    (hp : d.pushes[index]? = some p) : taken index d l = (history index d l).count .entered := by
  induction l generalizing d p with
  | nil => rfl
  | cons s l ih =>
    obtain ⟨q, hq, hmove⟩ := step_move hp s
    rw [taken, history, List.count_append, (step_held hp hq).1, hmove.entered_eq, ih hq]

theorem steps_append (d : Dispatcher R) (l m : List (Step R)) :
    (d.steps (l ++ m)).1 = ((d.steps l).1.steps m).1 := by
  induction l generalizing d with
  | nil => rfl
  | cons s l ih => exact ih _

/-- How a push of a dispatcher deals with the slots in a run. -/
structure Disciplined (job : Job R) (index : Nat) (d : Dispatcher R) (l : List (Step R)) :
    Prop where
  /-- A slot is taken to begin, and at most once. -/
  taken_eq : taken index d l = (history index d l).count .entered
  taken_le : taken index d l ≤ 1
  /-- What was taken is held or was given back. -/
  balance : ∀ p, (d.steps l).1.pushes[index]? = some p →
    taken index d l = returned index d l + p.held
  /-- At the end everything was given back, and who began was served once. -/
  ended : ∀ p, (d.steps l).1.pushes[index]? = some p → p.phase = .ended →
    returned index d l = taken index d l ∧
      (history index d l).count .converted = taken index d l * job.conversions
  /-- Who is cancelled while waiting never takes a slot, gives none back and does nothing. -/
  queued : ∀ p, (d.steps l).1.pushes[index]? = some p → p.phase = .waiting →
    p.cancelled = true → ∀ more, taken index d (l ++ more) = 0 ∧ returned index d (l ++ more) = 0 ∧
      history index d (l ++ more) = []
  /-- Whatever is reported, there is room for it, even if nobody has read anything. -/
  room : ∀ p s, (d.steps l).1.pushes[index]? = some p →
    p.reported.length + (outcomes ((d.steps l).1.eventsOf index s)).length ≤ p.room
  /-- Who holds a slot waits for the push network, or comes nearer to the end by itself. -/
  proceeds : ∀ p, (d.steps l).1.pushes[index]? = some p → p.isRunning = true →
    p.isDelivering = true ∨ ∃ q, ((d.steps l).1.step (.advance index)).1.pushes[index]? = some q ∧
      q.work < p.work

/-- A push that holds a slot waits for the push network, or comes nearer to its end by itself. -/
theorem running_proceeds {d : Dispatcher R} {index : Nat} (hp : d.pushes[index]? = some p)
    (hwf : p.phase ≠ .running .finished) (hrunning : p.isRunning = true) :
    p.isDelivering = true ∨ ∃ q, (d.step (.advance index)).1.pushes[index]? = some q ∧
      q.work < p.work := by
  obtain ⟨stage, hph⟩ : ∃ stage, p.phase = .running stage := by
    unfold Push.isRunning at hrunning
    split at hrunning
    · exact ⟨_, ‹_›⟩
    · cases hrunning
  rcases rests_or_moves hp hwf .delivered with hended | ⟨hwaits, -⟩ | ⟨s, q, hown | hown, hq, hwork⟩
  · rw [hph] at hended
    cases hended
  · rw [hph] at hwaits
    cases hwaits
  · rw [Push.ownStep?, hph] at hown
    obtain ⟨-, rfl⟩ : stage.moves = true ∧ .advance index = s := by simpa using hown
    exact .inr ⟨q, hq, hwork⟩
  · exact .inl hown.1

/-- A submitted push keeps to the rules, whatever else the dispatcher does and in which order. -/
theorem submit_steps_disciplined (d : Dispatcher R) (job : Job R) (cancelled : Bool)
    (l : List (Step R)) : Disciplined job d.pushes.length (d.submit job cancelled) l := by
  have hnew : (d.submit job cancelled).pushes[d.pushes.length]? =
      some { job := job, cancelled := cancelled } := d.step_submit job cancelled
  obtain ⟨p, hp, hmoves⟩ := d.submit_steps_moves job cancelled l
  have hunique : ∀ q, ((d.submit job cancelled).steps l).1.pushes[d.pushes.length]? = some q →
      q = p := fun q hq => Option.some.inj (hq.symm.trans hp)
  have hbalance : ∀ l q, ((d.submit job cancelled).steps l).1.pushes[d.pushes.length]? = some q →
      taken d.pushes.length (d.submit job cancelled) l =
        q.held + returned d.pushes.length (d.submit job cancelled) l := by
    intro l q hq
    have := steps_balance l hnew hq
    rwa [Push.held_of_waiting rfl, Nat.zero_add] at this
  have htaken := fun l => Dispatcher.taken_eq l hnew
  constructor
  case taken_eq => exact htaken l
  case taken_le =>
    have : _ ≤ 1 := hmoves.accounts.entered
    rw [htaken]
    omega
  case balance =>
    intro q hq
    rw [hbalance l q hq, Nat.add_comm]
  case ended =>
    intro q hq hended
    obtain rfl := hunique q hq
    refine ⟨?_, ?_⟩
    · have := hbalance l q hq
      rw [Push.held_of_ended hended] at this
      omega
    · have hconverted := hmoves.accounts.converted
      rw [show q.toConvert = 0 by rw [Push.toConvert, hended]] at hconverted
      rw [htaken]
      exact hconverted.trans (Nat.zero_add _)
  case queued =>
    intro q hq hwaits hc more
    obtain rfl := hunique q hq
    obtain ⟨r, hr, hmore⟩ := steps_moves more hq
    have hhistory : history d.pushes.length (d.submit job cancelled) (l ++ more) = [] := by
      rw [history_append, (hmoves.of_waiting hwaits).2, hmore.of_queued hwaits hc, List.append_nil]
    have hnone := htaken (l ++ more)
    rw [hhistory, List.count_nil] at hnone
    have := hbalance (l ++ more) r (by rwa [steps_append])
    exact ⟨hnone, by omega, hhistory⟩
  case room =>
    intro q s hq
    obtain rfl := hunique q hq
    obtain ⟨r, hr, hmove⟩ := step_move hq s
    have hafter := hmove.accounts.reported
    have hbefore : _ ≤ max 1 job.devices.length := hmoves.accounts.reported
    have hreported : q.reported = outcomes (history d.pushes.length (d.submit job cancelled) l) :=
      hmoves.reported_eq
    rw [hreported, Push.room, hmoves.job_eq]
    show _ ≤ max 1 job.devices.length
    omega
  case proceeds =>
    intro q hq hrunning
    obtain rfl := hunique q hq
    exact running_proceeds hq (hmoves.not_finished nofun) hrunning

theorem step_length (d : Dispatcher R) (s : Step R) :
    (∃ job cancelled, s = .submit job cancelled ∧
      (d.step s).1.pushes.length = d.pushes.length + 1) ∨
    (d.step s).1.pushes.length = d.pushes.length := by
  cases hs : s.index? with
  | none =>
    cases s with
    | submit job cancelled => exact .inl ⟨job, cancelled, rfl, by simp [step]⟩
    | _ => cases hs
  | some index =>
    cases hp : d.pushes[index]? with
    | none => rw [step_of_none hs hp]; exact .inr rfl
    | some p =>
      obtain ⟨q, hq, -⟩ := step_own hs hp
      rw [hq, List.length_set]
      exact .inr rfl

/-- Every push that a run adds was submitted in it. -/
theorem exists_submit {index : Nat} (l : List (Step R)) {d : Dispatcher R}
    (hge : d.pushes.length ≤ index) (hlt : index < (d.steps l).1.pushes.length) :
    ∃ l₁ job cancelled l₂, l = l₁ ++ .submit job cancelled :: l₂ ∧
      (d.steps l₁).1.pushes.length = index := by
  induction l generalizing d with
  | nil => exact absurd hlt (Nat.not_lt.2 hge)
  | cons s l ih =>
    by_cases hge' : (d.step s).1.pushes.length ≤ index
    · obtain ⟨l₁, job, cancelled, l₂, rfl, hindex⟩ := ih hge' hlt
      exact ⟨s :: l₁, job, cancelled, l₂, rfl, hindex⟩
    · -- The push is the one that this very step adds.
      rcases d.step_length s with ⟨job, cancelled, rfl, hlength⟩ | hlength
      · refine ⟨[], job, cancelled, l, rfl, ?_⟩
        show d.pushes.length = index
        omega
      · omega

/-- In every run from its start, the free slots of a dispatcher and the pushes that hold one come to
    the number of its slots, so no more calls than that are under way, and every push keeps to the
    rules. -/
theorem new_steps_disciplined {limit : Nat} {d : Dispatcher R} (h : new limit = some d)
    (l : List (Step R)) :
    (d.steps l).1.free + (d.steps l).1.running = max 1 limit ∧
      (d.steps l).1.running ≤ max 1 limit ∧ (d.steps l).1.inFlight ≤ (d.steps l).1.running ∧
      ∀ index < (d.steps l).1.pushes.length, ∃ l₁ job cancelled l₂,
        l = l₁ ++ .submit job cancelled :: l₂ ∧ (d.steps l₁).1.pushes.length = index ∧
          Disciplined job index ((d.steps l₁).1.submit job cancelled) l₂ := by
  obtain rfl : d = { free := max 1 limit } := by
    unfold new at h
    split at h
    · cases h
      rfl
    · cases h
  have hslots : _ = max 1 limit := steps_slots { free := max 1 limit } l
  refine ⟨hslots, by omega, inFlight_le_running _, fun index hlt => ?_⟩
  obtain ⟨l₁, job, cancelled, l₂, hl, rfl⟩ := exists_submit l (Nat.zero_le index) hlt
  exact ⟨l₁, job, cancelled, l₂, hl, rfl,
    submit_steps_disciplined _ job cancelled l₂⟩

/-- Three pushes share two slots: one is served, one has no devices, and one gives up while it
    waits. -/
theorem new_steps_disciplined_two :
    let d : Dispatcher Unit := { free := 2 }
    let l : List (Step Unit) := [.submit ⟨["a"], .ok (.send ()), false⟩ false,
      .submit ⟨[], .ok (.send ()), false⟩ false, .submit ⟨["b"], .ok (.send ()), false⟩ false,
      .grant 0, .grant 1, .grant 2, .advance 0, .cancel 2, .advance 0, .withdraw 2, .advance 1,
      .answer 0 .delivered, .advance 0]
    new 2 = some d ∧ (d.steps l).1.free + (d.steps l).1.running = 2 ∧
      ∀ index < 3, ∃ l₁ job cancelled l₂,
        l = l₁ ++ .submit job cancelled :: l₂ ∧ (d.steps l₁).1.pushes.length = index ∧
          Disciplined job index ((d.steps l₁).1.submit job cancelled) l₂ := by
  intro d l
  have hnew : new 2 = some d := by rfl
  obtain ⟨hslots, -, -, hpushes⟩ := new_steps_disciplined hnew l
  exact ⟨hnew, hslots, hpushes⟩

end Dispatcher

end Courier.Dispatch
