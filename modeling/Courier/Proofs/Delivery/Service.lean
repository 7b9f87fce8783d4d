import Courier.Proofs.Retry
import Courier.Verdict

/-!
# From replies to verdicts

A push service is given by how its replies are read and how what was read is judged. Reading keeps
the status, so what is retried can be seen from the replies, and the verdict of a send depends on
the last reply alone.

Results:

* `Service.send_verdict`: the verdict of a send is the verdict on the last result that it consumes.
* `Service.verdict_eq_judge`: that verdict, told case by case.
* `Service.verdict_eq_iff`: on which replies a judgement is given.
* `Service.verdict_status`: which status an error carries.
* `Service.Reads.faithful`: a service that reads the bodies of some replies is faithful.
-/

namespace Courier

open Http (Attempt Reply Status)

/-! ## Exchanges -/

theorem Http.Wire.exchange_ne_crashed {σ : Type} (w : Http.Wire σ) (request : Http.Request)
    (s : σ) : (w.exchange request s).1 ≠ .crashed := by
  show (w.send request s).1.attempt ≠ .crashed
  cases (w.send request s).1 <;> nofun

/-! ## The status of an error -/

/-- The status that a send error carries. -/
def SendError.status? : SendError → Option Status
  | .invalidResponse status _ | .unexpectedStatus status => some status
  | _ => none

/-- The status that a delivery error carries. -/
def DeliveryError.status? : DeliveryError → Option Status
  | .rejected status _ => some status
  | .send error => error.status?
  | _ => none

theorem Http.Wire.status_of_exchange_failed {σ : Type} {w : Http.Wire σ} {request : Http.Request}
    {s : σ} {e : SendError} (h : (w.exchange request s).1 = .failed e) : e.status? = none := by
  replace h : (w.send request s).1.attempt = .failed e := h
  cases he : (w.send request s).1 <;> rw [he] at h <;> cases h <;> rfl

/-- Whether a verdict can only come from judging an answer: it is neither a crash nor a failed
    send. -/
def Verdict.isJudgement : Verdict → Bool
  | .crashed | .failed (.send _) => false
  | _ => true

/-! ## Services -/

/-- How the replies of a push service are read and judged. -/
structure Service (α : Type) where
  decode : Reply → Attempt α
  status : α → Status
  classify : α → Except DeliveryError Unit

namespace Service

variable {α σ : Type}

/-- Whether a service reads replies to failures of the server, keeps the status of what it reads,
    and puts it into its errors. -/
structure Faithful (v : Service α) : Prop where
  status_eq : ∀ {reply a}, v.decode reply = .answered a → v.status a = reply.status
  reads : ∀ reply, reply.status = .internalServerError ∨ reply.status = .serviceUnavailable →
    ∃ a, v.decode reply = .answered a
  failed : ∀ {reply e}, v.decode reply = .failed e → e.status? = some reply.status
  survives : ∀ reply, v.decode reply ≠ .crashed
  classified : ∀ {a e}, v.classify a = .error e → ∀ st ∈ e.status?, st = v.status a

/-- The verdict on the last result of a send. -/
def verdict (v : Service α) (last : Attempt Reply) : Verdict :=
  (Retry.settle v.status (last.bind v.decode)).verdict v.classify

variable {v : Service α}

/-! ## Sends -/

/-- Reading does not change what is retried. -/
theorem isRetried_bind (h : v.Faithful) (a : Attempt Reply) :
    Retry.isRetried v.status (a.bind v.decode) = Retry.isRetried Reply.status a := by
  cases a with
  | answered reply =>
    show Retry.isRetried v.status (v.decode reply) = _
    cases hd : v.decode reply with
    | answered a => rw [Retry.isRetried, h.status_eq hd, Retry.isRetried]
    | failed e =>
      have htimeout : e ≠ .timeout := by
        rintro rfl
        cases h.failed hd
      have hstatus : ¬ (reply.status = .internalServerError ∨
          reply.status = .serviceUnavailable) := by
        intro hs
        obtain ⟨a, ha⟩ := h.reads reply hs
        rw [hd] at ha
        cases ha
      rw [not_or] at hstatus
      rw [Retry.isRetried, Retry.isRetried, beq_eq_false_iff_ne.2 htimeout,
        beq_eq_false_iff_ne.2 hstatus.1, beq_eq_false_iff_ne.2 hstatus.2]
      rfl
    | crashed => exact absurd hd (h.survives reply)
  | failed e => rfl
  | crashed => rfl

theorem stateAt_bind (v : Service α) (transport : σ → Attempt Reply × σ) (s : σ) (n : Nat) :
    Retry.stateAt (fun s => ((transport s).1.bind v.decode, (transport s).2)) s n =
      Retry.stateAt transport s n := by
  induction n with
  | zero => rfl
  | succ n ih => rw [Retry.stateAt, ih]; rfl

theorem resultAt_bind (v : Service α) (transport : σ → Attempt Reply × σ) (s : σ) (n : Nat) :
    Retry.resultAt (fun s => ((transport s).1.bind v.decode, (transport s).2)) s n =
      (Retry.resultAt transport s n).bind v.decode := by
  rw [Retry.resultAt, stateAt_bind]
  rfl

/-- Reading does not change which attempt is the last one. -/
theorem last_bind (h : v.Faithful) (maxAttempts : Int) (transport : σ → Attempt Reply × σ)
    (s : σ) :
    Retry.last maxAttempts v.status (fun s => ((transport s).1.bind v.decode, (transport s).2)) s =
      Retry.last maxAttempts Reply.status transport s := by
  simp only [Retry.last, resultAt_bind, isRetried_bind h]

/-- The verdict of a send is the verdict on the last result that it consumes. -/
theorem send_verdict (h : v.Faithful) (maxAttempts : Int) (transport : σ → Attempt Reply × σ)
    (s : σ) :
    (Retry.send maxAttempts v.status
        (fun s => ((transport s).1.bind v.decode, (transport s).2)) s).1.verdict v.classify =
      v.verdict (Retry.resultAt transport s (Retry.last maxAttempts Reply.status transport s)) := by
  rw [Retry.send_eq, last_bind h, resultAt_bind]
  rfl

/-- A send ends in the state after its last attempt. -/
theorem send_state (h : v.Faithful) (maxAttempts : Int) (transport : σ → Attempt Reply × σ)
    (s : σ) :
    (Retry.send maxAttempts v.status
        (fun s => ((transport s).1.bind v.decode, (transport s).2)) s).2 =
      Retry.stateAt transport s (Retry.last maxAttempts Reply.status transport s + 1) := by
  rw [Retry.send_eq, last_bind h, stateAt_bind]

/-! ## Verdicts -/

theorem verdict_internalServerError (h : v.Faithful) {reply : Reply}
    (hs : reply.status = .internalServerError) :
    v.verdict (.answered reply) = .failed (.send .internalServerError) := by
  obtain ⟨a, ha⟩ := h.reads reply (.inl hs)
  have hstatus := (h.status_eq ha).trans hs
  unfold verdict
  rw [show (Attempt.answered reply).bind v.decode = _ from ha, Retry.settle, if_pos hstatus]
  rfl

theorem verdict_serviceUnavailable (h : v.Faithful) {reply : Reply}
    (hs : reply.status = .serviceUnavailable) :
    v.verdict (.answered reply) = .failed (.send .serviceUnavailable) := by
  obtain ⟨a, ha⟩ := h.reads reply (.inr hs)
  have hstatus := (h.status_eq ha).trans hs
  have hne : v.status a ≠ .internalServerError := by
    rw [hstatus]
    decide
  unfold verdict
  rw [show (Attempt.answered reply).bind v.decode = _ from ha, Retry.settle, if_neg hne,
    if_pos hstatus]
  rfl

/-- A failure of the server is a failed send. -/
theorem verdict_server_failure (h : v.Faithful) {reply : Reply}
    (hs : reply.status = .internalServerError ∨ reply.status = .serviceUnavailable) :
    v.verdict (.answered reply) = .failed (.send .internalServerError) ∨
      v.verdict (.answered reply) = .failed (.send .serviceUnavailable) :=
  hs.imp (verdict_internalServerError h) (verdict_serviceUnavailable h)

/-- Any other reply is judged as it is read. -/
theorem verdict_answered (h : v.Faithful) {reply : Reply}
    (hs : ¬ (reply.status = .internalServerError ∨ reply.status = .serviceUnavailable)) :
    v.verdict (.answered reply) = (v.decode reply).verdict v.classify := by
  rw [not_or] at hs
  show (Retry.settle v.status (v.decode reply)).verdict v.classify = _
  cases hd : v.decode reply with
  | answered a =>
    have hstatus := h.status_eq hd
    rw [Retry.settle, hstatus, if_neg hs.1, if_neg hs.2]
  | failed e => rfl
  | crashed => rfl

/-- What the last result of a send means: failures of the server have errors of their own whatever
    the body is, and any other reply is read and judged. -/
def judge (v : Service α) : Attempt Reply → Verdict
  | .answered reply =>
    if reply.status.code = 500 then .failed (.send .internalServerError)
    else if reply.status.code = 503 then .failed (.send .serviceUnavailable)
    else (v.decode reply).verdict v.classify
  | .failed error => .failed (.send error)
  | .crashed => .crashed

theorem verdict_eq_judge (h : v.Faithful) (last : Attempt Reply) :
    v.verdict last = v.judge last := by
  cases last with
  | answered reply =>
    by_cases h500 : reply.status.code = 500
    · rw [verdict_internalServerError h (congrArg Status.mk h500)]
      exact (if_pos h500).symm
    by_cases h503 : reply.status.code = 503
    · rw [verdict_serviceUnavailable h (congrArg Status.mk h503)]
      exact ((if_neg h500).trans (if_pos h503)).symm
    have hs : ¬ (reply.status = .internalServerError ∨ reply.status = .serviceUnavailable) := by
      rintro (hs | hs)
      · exact h500 (congrArg Status.code hs)
      · exact h503 (congrArg Status.code hs)
    rw [verdict_answered h hs]
    exact ((if_neg h500).trans (if_neg h503)).symm
  | failed error => rfl
  | crashed => rfl

theorem ofResult_eq_failed {x : Except DeliveryError Unit} {e : DeliveryError} :
    Verdict.ofResult x = .failed e ↔ x = .error e := by
  cases x <;> simp [Verdict.ofResult]

theorem ofResult_eq_delivered {x : Except DeliveryError Unit} :
    Verdict.ofResult x = .delivered ↔ x = .ok () := by
  cases x <;> simp [Verdict.ofResult]

/-- On which replies a judgement is given. -/
theorem verdict_eq_iff (h : v.Faithful) {w : Verdict} (hw : w.isJudgement = true)
    (last : Attempt Reply) :
    v.verdict last = w ↔ ∃ reply a, last = .answered reply ∧ v.decode reply = .answered a ∧
      ¬ (reply.status = .internalServerError ∨ reply.status = .serviceUnavailable) ∧
      Verdict.ofResult (v.classify a) = w := by
  constructor
  · rintro rfl
    cases last with
    | failed e => cases hw
    | crashed => cases hw
    | answered reply =>
      by_cases hs : reply.status = .internalServerError ∨ reply.status = .serviceUnavailable
      · rcases verdict_server_failure h hs with hv | hv <;> rw [hv] at hw <;> cases hw
      · rw [verdict_answered h hs] at hw ⊢
        cases hd : v.decode reply with
        | answered a => exact ⟨reply, a, rfl, hd, hs, rfl⟩
        | failed e => rw [hd] at hw; cases hw
        | crashed => exact absurd hd (h.survives reply)
  · rintro ⟨reply, a, rfl, hd, hs, hw⟩
    rw [verdict_answered h hs, hd]
    exact hw

/-- What was not delivered ends with an error, unless the last attempt crashed. -/
theorem delivered_or_failed (h : v.Faithful) {last : Attempt Reply} (hlast : last ≠ .crashed) :
    v.verdict last = .delivered ∨ ∃ e, v.verdict last = .failed e := by
  cases last with
  | failed e => exact .inr ⟨_, rfl⟩
  | crashed => exact absurd rfl hlast
  | answered reply =>
    by_cases hs : reply.status = .internalServerError ∨ reply.status = .serviceUnavailable
    · rcases verdict_server_failure h hs with hv | hv
      · exact .inr ⟨_, hv⟩
      · exact .inr ⟨_, hv⟩
    · rw [verdict_answered h hs]
      cases hd : v.decode reply with
      | answered a =>
        show Verdict.ofResult (v.classify a) = _ ∨ ∃ e, Verdict.ofResult (v.classify a) = _
        cases v.classify a with
        | ok => exact .inl rfl
        | error e => exact .inr ⟨e, rfl⟩
      | failed e => exact .inr ⟨_, rfl⟩
      | crashed => exact absurd hd (h.survives reply)

/-- A status in an error is the status of the last reply, unless the error is the very one with
    which the last attempt failed. -/
theorem verdict_status (h : v.Faithful) {last : Attempt Reply} {e : DeliveryError} {st : Status}
    (he : v.verdict last = .failed e) (hst : e.status? = some st) :
    (∃ reply, last = .answered reply ∧ reply.status = st) ∨
      ∃ error, last = .failed error ∧ e = .send error := by
  cases last with
  | failed error => exact .inr ⟨error, rfl, by cases he; rfl⟩
  | crashed => cases he
  | answered reply =>
    refine .inl ⟨reply, rfl, ?_⟩
    by_cases hs : reply.status = .internalServerError ∨ reply.status = .serviceUnavailable
    · rcases verdict_server_failure h hs with hv | hv
      · rw [hv] at he; cases he; cases hst
      · rw [hv] at he; cases he; cases hst
    · rw [verdict_answered h hs] at he
      cases hd : v.decode reply with
      | answered a =>
        rw [hd] at he
        rw [h.classified (ofResult_eq_failed.1 he) st hst, h.status_eq hd]
      | failed error =>
        rw [hd] at he
        cases he
        exact Option.some.inj ((h.failed hd).symm.trans hst)
      | crashed => exact absurd hd (h.survives reply)

/-! ## Services that read the bodies of some replies -/

/-- How a service reads the replies with certain statuses, and knows of the others only their
    status. -/
structure Reads (v : Service α) (statuses : List Nat)
    (read : Status → List UInt8 → Option α) (blank : Status → α) : Prop where
  decode_eq : ∀ reply, v.decode reply =
    if reply.status.code ∈ statuses then
      match read reply.status reply.body with
      | some a => .answered a
      | none => .failed (.invalidResponse reply.status (Http.excerpt reply.body))
    else .answered (blank reply.status)
  status_read : ∀ {status body a}, read status body = some a → v.status a = status
  status_blank : ∀ status, v.status (blank status) = status
  skips : ∀ status ∈ [Status.internalServerError, Status.serviceUnavailable],
    status.code ∉ statuses
  classified : ∀ {a e}, v.classify a = .error e → ∀ st ∈ e.status?, st = v.status a

namespace Reads

variable {statuses : List Nat} {read : Status → List UInt8 → Option α} {blank : Status → α}
  {reply : Reply}

theorem decode_answered_iff (h : v.Reads statuses read blank)
    (hmem : reply.status.code ∈ statuses) {a : α} :
    v.decode reply = .answered a ↔ read reply.status reply.body = some a := by
  rw [h.decode_eq, if_pos hmem]
  cases read reply.status reply.body <;> simp

theorem decode_of_not_mem (h : v.Reads statuses read blank)
    (hmem : reply.status.code ∉ statuses) : v.decode reply = .answered (blank reply.status) := by
  rw [h.decode_eq, if_neg hmem]

theorem not_server_failure (h : v.Reads statuses read blank)
    (hmem : reply.status.code ∈ statuses) :
    ¬ (reply.status = .internalServerError ∨ reply.status = .serviceUnavailable) := by
  intro hs
  refine h.skips reply.status ?_ hmem
  rcases hs with hs | hs <;> rw [hs] <;> decide

/-- Such a service is faithful. -/
theorem faithful (h : v.Reads statuses read blank) : v.Faithful where
  status_eq := by
    intro reply a hd
    by_cases hmem : reply.status.code ∈ statuses
    · exact h.status_read ((h.decode_answered_iff hmem).1 hd)
    · rw [h.decode_of_not_mem hmem] at hd
      cases hd
      exact h.status_blank _
  reads := by
    intro reply hs
    exact ⟨_, h.decode_of_not_mem fun hmem => h.not_server_failure hmem hs⟩
  failed := by
    intro reply e hd
    rw [h.decode_eq] at hd
    split at hd
    · split at hd
      · cases hd
      · cases hd
        rfl
    · cases hd
  survives := by
    intro reply hd
    rw [h.decode_eq] at hd
    split at hd
    · split at hd <;> cases hd
    · cases hd
  classified := h.classified

/-- If nothing but a body can bring about a judgement, it is given on replies whose body was
    read. -/
theorem verdict_eq_iff (h : v.Reads statuses read blank) {w : Verdict} (hw : w.isJudgement = true)
    (hblank : ∀ status, status.code ∉ statuses → Verdict.ofResult (v.classify (blank status)) ≠ w)
    (last : Attempt Reply) :
    v.verdict last = w ↔ ∃ reply a, last = .answered reply ∧ reply.status.code ∈ statuses ∧
      read reply.status reply.body = some a ∧ Verdict.ofResult (v.classify a) = w := by
  rw [Service.verdict_eq_iff h.faithful hw]
  constructor
  · rintro ⟨reply, a, hlast, hd, -, hw⟩
    by_cases hmem : reply.status.code ∈ statuses
    · exact ⟨reply, a, hlast, hmem, (h.decode_answered_iff hmem).1 hd, hw⟩
    · rw [h.decode_of_not_mem hmem] at hd
      cases hd
      exact absurd hw (hblank _ hmem)
  · rintro ⟨reply, a, hlast, hmem, ha, hw⟩
    exact ⟨reply, a, hlast, (h.decode_answered_iff hmem).2 ha, h.not_server_failure hmem, hw⟩

end Reads

end Service

end Courier
