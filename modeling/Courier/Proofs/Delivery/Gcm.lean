import Courier.Gcm.Client
import Courier.Proofs.Delivery.Service

/-!
# Deliveries by the legacy Google service

Results:

* `Gcm.Client.deliver_verdict`: a delivery ends with the verdict on the last result of its attempts.
* `Gcm.verdict_invalidToken_iff`, `Gcm.verdict_delivered_iff`: which replies mean a dead token, and
  which a success.
-/

namespace Courier.Gcm

open Http (Attempt Reply Status Wire)

variable {σ : Type}

/-- How replies of the service are read and judged. -/
def service : Service Response := ⟨decode, Response.status, classify⟩

/-! ## Reading -/

theorem status_of_ofBytes? {status : Status} {body : List UInt8} {a : Response}
    (h : Response.ofBytes? status body = some a) : a.status = status := by
  obtain ⟨d, -, h⟩ := Option.bind_eq_some_iff.1 h
  simp only [Response.ofDocument?, Option.bind_eq_bind, Option.bind_eq_some_iff,
    Option.some.injEq] at h
  obtain ⟨_, -, _, -, _, -, _, -, _, -, rfl⟩ := h
  rfl

theorem status_of_classify {a : Response} {e : DeliveryError} (h : classify a = .error e)
    {st : Status} (hst : e.status? = some st) : st = a.status := by
  unfold classify at h
  split at h
  · cases h
  · split at h
    · cases h; cases hst
    · split at h
      · cases h; exact (Option.some.inj hst).symm
      · cases h; exact (Option.some.inj hst).symm

theorem service_reads :
    service.Reads readStatuses Response.ofBytes? fun status => { status := status } where
  decode_eq := by
    intro reply
    show decode reply = _
    unfold decode
    cases Response.ofBytes? reply.status reply.body <;> rfl
  status_read := status_of_ofBytes?
  status_blank := fun _ => rfl
  skips := by decide
  classified := fun h _ => status_of_classify h

/-! ## Verdicts -/

theorem isAccepted_iff (a : Response) :
    a.isAccepted = true ↔ a.status = .ok ∧ 0 < a.success := by
  unfold Response.isAccepted
  simp

theorem firstError_mem_iff (a : Response) :
    a.firstError ∈ deadErrors ↔ ∃ result rest, a.results = result :: rest ∧
      (result.error = some "InvalidRegistration" ∨ result.error = some "MissingRegistration") := by
  unfold Response.firstError
  cases a.results with
  | nil => simp [deadErrors]
  | cons result rest => cases he : result.error <;> simp [deadErrors, he]

/-- Whether a reply says that the token is dead. -/
def IsDead (reply : Reply) : Prop :=
  reply.status.code ∈ [200, 400] ∧
    ∃ answer, Response.ofBytes? reply.status reply.body = some answer ∧
      ¬ (reply.status.code = 200 ∧ 0 < answer.success) ∧
      ∃ result rest, answer.results = result :: rest ∧
        (result.error = some "InvalidRegistration" ∨ result.error = some "MissingRegistration")

/-- Whether a reply says that the push was accepted. -/
def IsAccepted (reply : Reply) : Prop :=
  reply.status.code = 200 ∧
    ∃ answer, Response.ofBytes? reply.status reply.body = some answer ∧ 0 < answer.success

theorem isAccepted_of_ofBytes? {reply : Reply} {a : Response}
    (h : Response.ofBytes? reply.status reply.body = some a) :
    a.isAccepted = true ↔ reply.status.code = 200 ∧ 0 < a.success := by
  rw [isAccepted_iff, status_of_ofBytes? h]
  have hcode : reply.status = .ok ↔ reply.status.code = 200 :=
    ⟨congrArg Status.code, congrArg Status.mk⟩
  rw [hcode]

/-- Which replies mean a dead token. -/
theorem verdict_invalidToken_iff (last : Attempt Reply) :
    (∃ reason, service.verdict last = .failed (.invalidToken reason)) ↔
      ∃ reply, last = .answered reply ∧ IsDead reply := by
  have hblank : ∀ (reason : String) (status : Status), status.code ∉ readStatuses →
      Verdict.ofResult (classify { status := status }) ≠ .failed (.invalidToken reason) := by
    intro reason status _ h
    obtain ⟨-, hmem⟩ := (classify_invalidToken_iff _).1 ⟨reason, Service.ofResult_eq_failed.1 h⟩
    obtain ⟨result, rest, hresults, -⟩ := (firstError_mem_iff _).1 hmem
    cases hresults
  constructor
  · rintro ⟨reason, hw⟩
    obtain ⟨reply, a, hlast, hmem, ha, hdead⟩ :=
      (service_reads.verdict_eq_iff rfl (hblank reason) last).1 hw
    obtain ⟨haccepted, herror⟩ := (classify_invalidToken_iff a).1
      ⟨reason, Service.ofResult_eq_failed.1 hdead⟩
    refine ⟨reply, hlast, hmem, a, ha, ?_, (firstError_mem_iff a).1 herror⟩
    rw [← isAccepted_of_ofBytes? ha, haccepted]
    exact Bool.false_ne_true
  · rintro ⟨reply, hlast, hmem, a, ha, haccepted, herror⟩
    rw [← isAccepted_of_ofBytes? ha, Bool.not_eq_true] at haccepted
    obtain ⟨reason, hdead⟩ := (classify_invalidToken_iff a).2
      ⟨haccepted, (firstError_mem_iff a).2 herror⟩
    exact ⟨reason, (service_reads.verdict_eq_iff rfl (hblank reason) last).2
      ⟨reply, a, hlast, hmem, ha, Service.ofResult_eq_failed.2 hdead⟩⟩

theorem classify_ok_iff (a : Response) : classify a = .ok () ↔ a.isAccepted = true := by
  unfold classify
  split
  · simp_all
  · split
    · simp_all
    · split <;> simp_all

/-- Which replies mean a success. -/
theorem verdict_delivered_iff (last : Attempt Reply) :
    service.verdict last = .delivered ↔ ∃ reply, last = .answered reply ∧ IsAccepted reply := by
  have hblank : ∀ status : Status, status.code ∉ readStatuses →
      Verdict.ofResult (classify { status := status }) ≠ .delivered := by
    intro status _ h
    have := (classify_ok_iff _).1 (Service.ofResult_eq_delivered.1 h)
    cases ((isAccepted_iff _).1 this).2
  rw [service_reads.verdict_eq_iff rfl hblank]
  constructor
  · rintro ⟨reply, a, hlast, -, ha, hok⟩
    have haccepted := (classify_ok_iff a).1 (Service.ofResult_eq_delivered.1 hok)
    obtain ⟨hcode, hsuccess⟩ := (isAccepted_of_ofBytes? ha).1 haccepted
    exact ⟨reply, hlast, hcode, a, ha, hsuccess⟩
  · rintro ⟨reply, hlast, hcode, a, ha, hsuccess⟩
    have haccepted := (isAccepted_of_ofBytes? ha).2 ⟨hcode, hsuccess⟩
    refine ⟨reply, a, hlast, ?_, ha, ?_⟩
    · rw [hcode]
      decide
    · exact Service.ofResult_eq_delivered.2 ((classify_ok_iff a).2 haccepted)

/-! ## Deliveries -/

/-- What one attempt comes to before its reply is read. -/
def Client.transport (c : Client) (w : Wire σ) (r : Request) (token : String) :
    σ → Attempt Reply × σ :=
  w.exchange (c.request { r with recipient := token, dryRun := r.dryRun || c.dryRun })

/-- A delivery ends with the verdict on the last result of its attempts. -/
theorem Client.deliver_verdict (c : Client) (w : Wire σ) (r : Request) (token : String) (s : σ) :
    (c.deliver w r token s).1 = service.verdict (Retry.resultAt (c.transport w r token) s
      (Retry.last c.retries Reply.status (c.transport w r token) s)) :=
  Service.send_verdict service_reads.faithful c.retries (c.transport w r token) s

/-- A delivery ends in the state after the last of its attempts. -/
theorem Client.deliver_state (c : Client) (w : Wire σ) (r : Request) (token : String) (s : σ) :
    (c.deliver w r token s).2 = Retry.stateAt (c.transport w r token) s
      (Retry.last c.retries Reply.status (c.transport w r token) s + 1) :=
  Service.send_state service_reads.faithful c.retries (c.transport w r token) s

end Courier.Gcm
