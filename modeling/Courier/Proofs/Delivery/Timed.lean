import Courier.Http.Message

/-!
# Networks with a clock

A network is given a clock that counts steps. An exchange takes its time until the head of the reply
is there, and again until the body is read; the caller looks for a cancellation before it starts and
then at each of these points, and the cancellation comes first where both are there. An action that
can be cut short like that has a step at which it is over if nobody cancels. A cancellation up to
that step stops it, and a later one changes nothing.

Results:

* `CutShort.map`, `CutShort.bind`, `CutShort.guard`: how actions that can be cut short are put
  together.
* `Paced.exchange_cutShort`: an exchange can be cut short.
-/

namespace Courier.Http

/-! ## Clocks -/

/-- How many steps an exchange takes: to the head of the reply or to a failure, from there to the
    end of the body, and from there until the caller goes on. -/
structure Pace where
  head : Nat
  body : Nat
  rest : Nat

/-- A network and how fast it is. -/
structure Paced (σ : Type) where
  post : Request → σ → Exchange × σ
  pace : Request → σ → Pace

/-- A network's state, the step that it has come to, and the requests that were started, each with
    its step. -/
structure Timed (σ : Type) where
  inner : σ
  now : Nat := 0
  started : List (Nat × Request) := []

/-- Whether a cancellation, if there is one, has fired at a step. -/
def fired (cancelAt : Option Nat) (step : Nat) : Bool := cancelAt.any (· ≤ step)

theorem fired_some {m step : Nat} : fired (some m) step = true ↔ m ≤ step := by
  simp [fired]

/-- Whether there is a body to read after the head. -/
def Exchange.hasBody : Exchange → Bool
  | .reply _ | .cut _ => true
  | .broken | .silent | .interrupted => false

namespace Paced

variable {σ : Type} (net : Paced σ) (request : Request) (s : Timed σ)

/-- The step at which the head of the reply is there, or the exchange has failed. -/
def headAt : Nat := s.now + (net.pace request s.inner).head

/-- The step at which the reply is read to its end, or the exchange has failed. -/
def endAt : Nat :=
  net.headAt request s +
    if (net.post request s.inner).1.hasBody then (net.pace request s.inner).body else 0

/-- Starts a request, waits for the head of its reply and reads the body, unless the caller cancels
    at some point. -/
def postUntil (cancelAt : Option Nat) : Exchange × Timed σ :=
  let (e, inner) := net.post request s.inner
  let started := s.started ++ [(s.now, request)]
  if fired cancelAt (net.headAt request s) then
    (.interrupted, ⟨inner, net.headAt request s, started⟩)
  else if fired cancelAt (net.endAt request s) then
    (.interrupted, ⟨inner, net.endAt request s, started⟩)
  else (e, ⟨inner, net.endAt request s + (net.pace request s.inner).rest, started⟩)

/-- The network for a caller who cancels at a certain step, or never. -/
def wire (cancelAt : Option Nat) : Wire (Timed σ) where
  cancelled s := fired cancelAt s.now
  post request s := net.postUntil request s cancelAt

/-- The step at which an exchange is over that nobody cancels. What cannot be sent has failed at
    once. -/
def overAt : Nat := if request.sendable then net.endAt request s else s.now

end Paced

/-! ## Cutting short -/

/-- Whether an action ends at a certain step if nobody cancels it: not before it begins, and what
    was started stays. -/
structure Takes {ρ σ : Type} (s : Timed σ) (due : Nat) (full : ρ × Timed σ) : Prop where
  begins : s.now ≤ due
  ends : due ≤ full.2.now
  grows : s.started <+: full.2.started

/-- What a cancellation at step `m` makes of an action. Up to the step at which the action is over
    it stops it, later it changes nothing. In no case is a request started that would not have been,
    or that is not before the cancellation. -/
structure CutShort {ρ σ : Type} (stopped : ρ) (m : Nat) (s : Timed σ) (due : Nat)
    (cut full : ρ × Timed σ) : Prop extends Takes s due full where
  early : m ≤ due → cut.1 = stopped
  late : due < m → cut = full
  started : ∃ new, cut.2.started = s.started ++ new ∧ ∀ e ∈ new, s.now ≤ e.1 ∧ e.1 < m
  fewer : cut.2.started <+: full.2.started

/-- An action without any delay. -/
theorem Takes.at_once {ρ σ : Type} (s : Timed σ) (result : ρ) : Takes s s.now (result, s) :=
  ⟨Nat.le_refl _, Nat.le_refl _, List.prefix_rfl⟩

namespace CutShort

variable {ρ ρ' σ : Type} {stopped : ρ} {m due : Nat} {s : Timed σ} {cut full : ρ × Timed σ}

/-- An action that a cancellation comes too late for. -/
theorem of_late (h : Takes s due full) (hlate : due < m)
    (hnew : ∃ new, full.2.started = s.started ++ new ∧ ∀ e ∈ new, s.now ≤ e.1 ∧ e.1 < m) :
    CutShort stopped m s due full full where
  toTakes := h
  early hm := absurd hlate (Nat.not_lt.2 hm)
  late _ := rfl
  started := hnew
  fewer := List.prefix_rfl

/-- An action without any delay, before the cancellation. -/
theorem at_once (hm : s.now < m) (result : ρ) :
    CutShort stopped m s s.now (result, s) (result, s) :=
  .of_late (.at_once s result) hm ⟨[], (List.append_nil _).symm, nofun⟩

/-- Looking for a cancellation before an action. -/
theorem guard (h : Takes s due full) (hcut : s.now < m → CutShort stopped m s due cut full) :
    CutShort stopped m s due (if fired (some m) s.now then (stopped, s) else cut) full := by
  by_cases hm : m ≤ s.now
  · rw [if_pos (fired_some.2 hm)]
    exact {
      toTakes := h
      early := fun _ => rfl
      late := fun hlate => absurd hlate (Nat.not_lt.2 (Nat.le_trans hm h.begins))
      started := ⟨[], (List.append_nil _).symm, nofun⟩
      fewer := h.grows }
  · rw [if_neg (mt fired_some.1 hm)]
    exact hcut (Nat.lt_of_not_le hm)

variable {stopped' : ρ'} {due' : Nat} {cut' full' : ρ' × Timed σ}

/-- An action that is over with another one, and has something else to say. -/
theorem finish (h : CutShort stopped m s due cut full)
    (hstop : m ≤ due → cut' = (stopped', cut.2)) (hlate : due < m → cut' = full')
    (hnow : full'.2.now = full.2.now) (hstarted : full'.2.started = full.2.started) :
    CutShort stopped' m s due cut' full' := by
  have htakes : Takes s due full' :=
    ⟨h.begins, hnow ▸ h.ends, hstarted ▸ h.grows⟩
  by_cases hm : m ≤ due
  · rw [hstop hm]
    exact {
      toTakes := htakes
      early := fun _ => rfl
      late := fun hdue => absurd hdue (Nat.not_lt.2 hm)
      started := h.started
      fewer := hstarted ▸ h.fewer }
  · have hdue := Nat.lt_of_not_le hm
    rw [hlate hdue]
    refine .of_late htakes hdue ?_
    rw [hstarted, ← h.late hdue]
    exact h.started

/-- An action that goes on with another one after the first is over. -/
theorem append (h : CutShort stopped m s due cut full) (hnext : Takes full.2 due' full')
    (hstop : m ≤ due → cut' = (stopped', cut.2))
    (hgo : due < m → CutShort stopped' m full.2 due' cut' full') :
    CutShort stopped' m s due' cut' full' := by
  have hdue : due ≤ due' := Nat.le_trans h.ends hnext.begins
  have htakes : Takes s due' full' :=
    ⟨Nat.le_trans h.begins hdue, hnext.ends, h.grows.trans hnext.grows⟩
  by_cases hm : m ≤ due
  · -- The first action is stopped, and the second one does not come.
    rw [hstop hm]
    exact {
      toTakes := htakes
      early := fun _ => rfl
      late := fun hlate => absurd hlate (Nat.not_lt.2 (Nat.le_trans hm hdue))
      started := h.started
      fewer := h.fewer.trans hnext.grows }
  · -- The first action comes to its end, and the second one starts as if nobody cancelled.
    have hlate := Nat.lt_of_not_le hm
    have hsecond := hgo hlate
    obtain ⟨new, hnew, hbefore⟩ := h.started
    obtain ⟨new', hnew', hbefore'⟩ := hsecond.started
    rw [h.late hlate] at hnew
    have hnow : s.now ≤ full.2.now := Nat.le_trans h.begins h.ends
    refine { toTakes := htakes, early := hsecond.early, late := hsecond.late, started := ?_,
             fewer := hsecond.fewer }
    refine ⟨new ++ new', by rw [hnew', hnew, List.append_assoc], fun e he => ?_⟩
    rcases List.mem_append.1 he with he | he
    · exact hbefore e he
    · exact ⟨Nat.le_trans hnow (hbefore' e he).1, (hbefore' e he).2⟩

theorem eq_stopped (h : CutShort stopped m s due cut full) (hm : m ≤ due) :
    cut = (stopped, cut.2) := by
  rw [← h.early hm]

/-- What is made of a result without any delay. -/
theorem map (h : CutShort stopped m s due cut full) {f : ρ × Timed σ → ρ' × Timed σ}
    (hstopped : ∀ s, f (stopped, s) = (stopped', s)) (hnow : ∀ x, (f x).2.now = x.2.now)
    (hstarted : ∀ x, (f x).2.started = x.2.started) :
    CutShort stopped' m s due (f cut) (f full) :=
  h.finish (fun hm => by rw [h.eq_stopped hm, hstopped]) (fun hlate => by rw [h.late hlate])
    (hnow full) (hstarted full)

end CutShort

/-! ## One action after another -/

/-- An action that is there only after an answer. -/
def Attempt.andThen {α β σ : Type} (f : α → Timed σ → Attempt β × Timed σ) :
    Attempt α × Timed σ → Attempt β × Timed σ
  | (.answered a, s) => f a s
  | (.failed error, s) => (.failed error, s)
  | (.crashed, s) => (.crashed, s)

/-- The step at which both actions are over if the first one is at step `due`. -/
def Attempt.dueAfter {α σ : Type} (due : Nat) (overAt : α → Timed σ → Nat) :
    Attempt α × Timed σ → Nat
  | (.answered a, s) => overAt a s
  | (.failed _, _) | (.crashed, _) => due

theorem CutShort.bind {α β σ : Type} {m due : Nat} {s : Timed σ} {cut full : Attempt α × Timed σ}
    {f g : α → Timed σ → Attempt β × Timed σ} {overAt : α → Timed σ → Nat}
    (h : CutShort (.failed .cancelled) m s due cut full)
    (hnext : ∀ a s, CutShort (.failed .cancelled) m s (overAt a s) (f a s) (g a s)) :
    CutShort (.failed .cancelled) m s (Attempt.dueAfter due overAt full) (Attempt.andThen f cut)
      (Attempt.andThen g full) := by
  have hstop (hm : m ≤ due) : Attempt.andThen f cut = (.failed .cancelled, cut.2) := by
    rw [h.eq_stopped hm]
    rfl
  obtain ⟨a, s₁⟩ := full
  cases a with
  | answered a =>
    refine h.append (hnext a s₁).toTakes hstop fun hlate => ?_
    rw [h.late hlate]
    exact hnext a s₁
  | failed error =>
    refine h.finish hstop (fun hlate => ?_) rfl rfl
    rw [h.late hlate]
    rfl
  | crashed =>
    refine h.finish hstop (fun hlate => ?_) rfl rfl
    rw [h.late hlate]
    rfl

/-! ## Exchanges -/

namespace Paced

variable {σ : Type} (net : Paced σ) (request : Request) {m : Nat} {s : Timed σ}

theorem postUntil_cutShort (hm : s.now < m) :
    CutShort .interrupted m s (net.endAt request s) (net.postUntil request s (some m))
      (net.postUntil request s none) := by
  have hhead : s.now ≤ net.headAt request s := Nat.le_add_right ..
  have hend : net.headAt request s ≤ net.endAt request s := Nat.le_add_right ..
  have hnew : ∀ e ∈ [(s.now, request)], s.now ≤ e.1 ∧ e.1 < m := by
    intro e he
    rw [List.mem_singleton.1 he]
    exact ⟨Nat.le_refl _, hm⟩
  have hstarted (cancelAt : Option Nat) :
      (net.postUntil request s cancelAt).2.started = s.started ++ [(s.now, request)] := by
    show (if _ then _ else if _ then _ else _ : Exchange × Timed σ).2.started = _
    split
    · rfl
    · split <;> rfl
  exact {
    begins := Nat.le_trans hhead hend
    ends := Nat.le_add_right ..
    grows := by rw [hstarted]; exact List.prefix_append ..
    early := fun hdue => by
      show (if _ then _ else if _ then _ else _ : Exchange × Timed σ).1 = _
      split
      · rfl
      · rw [if_pos (fired_some.2 hdue)]
    late := fun hlate => by
      have hlate' := Nat.lt_of_le_of_lt hend hlate
      show (if _ then _ else if _ then _ else _ : Exchange × Timed σ) = _
      rw [if_neg (mt fired_some.1 (Nat.not_le.2 hlate')),
        if_neg (mt fired_some.1 (Nat.not_le.2 hlate))]
      rfl
    started := ⟨_, hstarted _, hnew⟩
    fewer := by simp only [hstarted, List.prefix_rfl] }

theorem send_cutShort (m : Nat) (s : Timed σ) :
    CutShort .interrupted m s (net.overAt request s) ((net.wire (some m)).send request s)
      ((net.wire none).send request s) := by
  have hwire (cancelAt : Option Nat) : (net.wire cancelAt).send request s =
      if fired cancelAt s.now then (.interrupted, s)
      else if request.sendable then net.postUntil request s cancelAt else (.broken, s) := rfl
  have hfull : (net.wire none).send request s =
      if request.sendable then net.postUntil request s none else (.broken, s) := rfl
  rw [hwire (some m), hfull, overAt]
  cases request.sendable with
  | false =>
    exact .guard (.at_once s _) fun hm => .at_once hm _
  | true =>
    exact .guard (net.postUntil_cutShort request (Nat.lt_succ_self _)).toTakes
      (net.postUntil_cutShort request)

/-- An exchange can be cut short. -/
theorem exchange_cutShort (m : Nat) (s : Timed σ) :
    CutShort (.failed .cancelled) m s (net.overAt request s)
      ((net.wire (some m)).exchange request s) ((net.wire none).exchange request s) :=
  (net.send_cutShort request m s).map (f := fun x => (x.1.attempt, x.2)) (fun _ => rfl)
    (fun _ => rfl) (fun _ => rfl)

end Paced

end Courier.Http
