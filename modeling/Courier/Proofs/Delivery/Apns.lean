import Courier.Apns.Client
import Courier.Proofs.Delivery.Service

/-!
# Deliveries by Apple's service

Results:

* `Apns.Client.deliver_verdict`: a delivery ends with the verdict on the last result of its
  attempts.
* `Apns.verdict_invalidToken_iff`, `Apns.verdict_delivered_iff`: which replies mean a dead token,
  and which a success.
-/

namespace Courier.Apns

open Http (Attempt Reply Status Wire)

variable {σ : Type}

/-- How replies of the service are read and judged. -/
def service : Service Response := ⟨decode, Response.status, classify⟩

/-! ## Reading -/

theorem status_of_decode {reply : Reply} {a : Response} (h : decode reply = .answered a) :
    a.status = reply.status := by
  unfold decode at h
  split at h
  · cases h; rfl
  · split at h
    · split at h
      · cases h; rfl
      · cases h
    · split at h
      · cases h; rfl
      · cases h

theorem decode_of_server_failure {reply : Reply}
    (h : reply.status = .internalServerError ∨ reply.status = .serviceUnavailable) :
    ∃ a, decode reply = .answered a := by
  unfold decode
  rcases h with h | h <;> rw [h] <;> exact ⟨_, rfl⟩

theorem status_of_decode_failed {reply : Reply} {e : SendError} (h : decode reply = .failed e) :
    e.status? = some reply.status := by
  unfold decode at h
  split at h
  · cases h
  · split at h
    · split at h
      · cases h
      · cases h; rfl
    · split at h
      · cases h
      · cases h; rfl

theorem decode_ne_crashed (reply : Reply) : decode reply ≠ .crashed := by
  intro h
  unfold decode at h
  split at h
  · cases h
  · split at h
    · split at h <;> cases h
    · split at h <;> cases h

theorem status_of_classify {a : Response} {e : DeliveryError} (h : classify a = .error e)
    {st : Status} (hst : e.status? = some st) : st = a.status := by
  unfold classify at h
  split at h
  · cases h
  · split at h
    · cases h; cases hst
    · cases h; exact (Option.some.inj hst).symm

theorem service_faithful : service.Faithful where
  status_eq := status_of_decode
  reads := fun _ => decode_of_server_failure
  failed := status_of_decode_failed
  survives := decode_ne_crashed
  classified := fun h _ => status_of_classify h

theorem decode_badRequest {reply : Reply} (h : reply.status = .badRequest) :
    decode reply = match Failure.ofBytes? reply.body with
      | some f => .answered ⟨reply.status, apnsId? reply, f.reason, f.timestamp⟩
      | none => .failed (.invalidResponse reply.status (Http.excerpt reply.body)) := by
  unfold decode
  rw [h]
  rfl

theorem decode_ok {reply : Reply} (h : reply.status = .ok) :
    ∃ a, decode reply = .answered a := by
  unfold decode
  rw [if_pos h]
  exact ⟨_, rfl⟩

/-! ## Verdicts -/

/-- Whether a reply says that the token is dead. -/
def IsDead (reply : Reply) : Prop :=
  reply.status.code = 400 ∧
    ∃ failure, Failure.ofBytes? reply.body = some failure ∧ failure.reason = "BadDeviceToken"

/-- Which replies mean a dead token. -/
theorem verdict_invalidToken_iff (last : Attempt Reply) :
    (∃ reason, service.verdict last = .failed (.invalidToken reason)) ↔
      ∃ reply, last = .answered reply ∧ IsDead reply := by
  constructor
  · rintro ⟨reason, hw⟩
    obtain ⟨reply, a, hlast, hd, -, hdead⟩ :=
      (Service.verdict_eq_iff service_faithful rfl last).1 hw
    obtain ⟨hstatus, hreason⟩ := (classify_invalidToken_iff a).1
      ⟨reason, Service.ofResult_eq_failed.1 hdead⟩
    have hbad : reply.status = .badRequest := (status_of_decode hd).symm.trans hstatus
    refine ⟨reply, hlast, congrArg Status.code hbad, ?_⟩
    replace hd : decode reply = .answered a := hd
    rw [decode_badRequest hbad] at hd
    cases hf : Failure.ofBytes? reply.body with
    | none => rw [hf] at hd; cases hd
    | some f => rw [hf] at hd; cases hd; exact ⟨f, rfl, hreason⟩
  · rintro ⟨reply, hlast, hcode, f, hf, hreason⟩
    have hbad : reply.status = .badRequest := congrArg Status.mk hcode
    have hd := decode_badRequest hbad
    rw [hf] at hd
    obtain ⟨reason, hdead⟩ := (classify_invalidToken_iff
      ⟨reply.status, apnsId? reply, f.reason, f.timestamp⟩).2 ⟨hbad, hreason⟩
    refine ⟨reason, (Service.verdict_eq_iff service_faithful rfl last).2
      ⟨reply, _, hlast, hd, ?_, Service.ofResult_eq_failed.2 hdead⟩⟩
    rw [hbad]
    decide

theorem classify_ok_iff (a : Response) : classify a = .ok () ↔ a.status = .ok := by
  unfold classify
  split
  · simp_all
  · split <;> simp_all

/-- Which replies mean a success. -/
theorem verdict_delivered_iff (last : Attempt Reply) :
    service.verdict last = .delivered ↔
      ∃ reply, last = .answered reply ∧ reply.status.code = 200 := by
  rw [Service.verdict_eq_iff service_faithful rfl]
  constructor
  · rintro ⟨reply, a, hlast, hd, -, hok⟩
    have hstatus := (classify_ok_iff a).1 (Service.ofResult_eq_delivered.1 hok)
    exact ⟨reply, hlast, congrArg Status.code ((status_of_decode hd).symm.trans hstatus)⟩
  · rintro ⟨reply, hlast, hcode⟩
    have hok : reply.status = .ok := congrArg Status.mk hcode
    obtain ⟨a, hd⟩ := decode_ok hok
    refine ⟨reply, a, hlast, hd, ?_, ?_⟩
    · rw [hok]
      decide
    · exact Service.ofResult_eq_delivered.2
        ((classify_ok_iff a).2 ((status_of_decode hd).trans hok))

/-! ## Deliveries -/

/-- What one attempt comes to before its reply is read. -/
def Client.transport (c : Client) (w : Wire σ) (r : Request) (token : String) :
    σ → Attempt Reply × σ :=
  w.exchange (c.request r token)

/-- A delivery ends with the verdict on the last result of its attempts. -/
theorem Client.deliver_verdict (c : Client) (w : Wire σ) (r : Request) (token : String) (s : σ) :
    (c.deliver w r token s).1 = service.verdict (Retry.resultAt (c.transport w r token) s
      (Retry.last c.retries Reply.status (c.transport w r token) s)) :=
  Service.send_verdict service_faithful c.retries (c.transport w r token) s

/-- A delivery ends in the state after the last of its attempts. -/
theorem Client.deliver_state (c : Client) (w : Wire σ) (r : Request) (token : String) (s : σ) :
    (c.deliver w r token s).2 = Retry.stateAt (c.transport w r token) s
      (Retry.last c.retries Reply.status (c.transport w r token) s + 1) :=
  Service.send_state service_faithful c.retries (c.transport w r token) s

end Courier.Apns
