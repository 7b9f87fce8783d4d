import Courier.Fcm.Client
import Courier.OAuth.ServiceAccount
import Courier.Proofs.Delivery.Service

/-!
# Deliveries by Firebase

Each attempt first gets a bearer token, and fails if there is none.

Results:

* `Fcm.Client.deliver_verdict`: a delivery ends with the verdict on the last result of its attempts.
* `Fcm.verdict_invalidToken_iff`, `Fcm.verdict_delivered_iff`: which replies mean a dead token, and
  which a success.
-/

namespace Courier.Fcm

open Http (Attempt Reply Status Wire)
open Json (Value)
open OAuth (Grant ServiceAccount Tokens)

variable {σ : Type}

/-- How replies of the service are read and judged. -/
def service : Service Response := ⟨decode, Response.status, classify⟩

/-! ## Reading -/

theorem status_of_ofBytes? {status : Status} {body : List UInt8} {a : Response}
    (h : Response.ofBytes? status body = some a) : a.status = status := by
  obtain ⟨d, -, h⟩ := Option.bind_eq_some_iff.1 h
  simp only [Response.ofDocument?, Option.bind_eq_bind, Option.bind_eq_some_iff,
    Option.some.injEq] at h
  obtain ⟨_, -, _, -, _, -, rfl⟩ := h
  rfl

theorem status_of_classify {a : Response} {e : DeliveryError} (h : classify a = .error e)
    {st : Status} (hst : e.status? = some st) : st = a.status := by
  unfold classify at h
  split at h
  · split at h
    · cases h; cases hst
    · cases h; exact (Option.some.inj hst).symm
  · split at h
    · split at h
      · cases h; exact (Option.some.inj hst).symm
      · cases h
    · cases h; exact (Option.some.inj hst).symm

theorem service_reads :
    service.Reads readStatuses Response.ofBytes? fun status => { status := status } where
  decode_eq := by
    intro reply
    show decode reply = _
    unfold decode
    cases Response.ofBytes? reply.status reply.body <;> rfl
  status_read := status_of_ofBytes?
  status_blank := fun _ => rfl
  skips := by decide
  classified := fun h _ => status_of_classify h

/-! ## Verdicts -/

/-- Whether an error points at the token of the message. -/
def PointsAtToken (fault : Fault) : Prop :=
  fault.code = 400 ∧ fault.status = "INVALID_ARGUMENT" ∧
    ∃ detail ∈ fault.details, ∃ violations,
      detail.field? "fieldViolations" = some (.arr violations) ∧
      ∃ violation ∈ violations, violation.field? "field" = some (.str "message.token")

theorem isTokenViolation_iff (violation : Value) :
    isTokenViolation violation = true ↔
      violation.field? "field" = some (.str "message.token") := by
  unfold isTokenViolation tokenField
  cases violation.field? "field" with
  | none => simp
  | some value => cases value <;> simp [Value.text?]

theorem isTokenDetail_iff (detail : Value) :
    isTokenDetail detail = true ↔
      ∃ violations, detail.field? "fieldViolations" = some (.arr violations) ∧
        ∃ violation ∈ violations, violation.field? "field" = some (.str "message.token") := by
  unfold isTokenDetail
  cases detail.field? "fieldViolations" with
  | none => simp
  | some value => cases value <;> simp [Value.items?, isTokenViolation_iff]

theorem isInvalidToken_iff (fault : Fault) : fault.isInvalidToken = true ↔ PointsAtToken fault := by
  unfold Fault.isInvalidToken PointsAtToken
  simp only [Bool.and_eq_true, beq_iff_eq, List.any_eq_true, isTokenDetail_iff, and_assoc]

/-- Whether a reply says that the token is dead. -/
def IsDead (reply : Reply) : Prop :=
  reply.status.code ∈ [200, 400, 401, 403, 404, 429] ∧
    ∃ answer fault, Response.ofBytes? reply.status reply.body = some answer ∧
      answer.error = some fault ∧ PointsAtToken fault

/-- Whether a reply says that the push was accepted. -/
def IsAccepted (reply : Reply) : Prop :=
  reply.status.code = 200 ∧
    ∃ answer, Response.ofBytes? reply.status reply.body = some answer ∧ answer.error = none ∧
      answer.name ≠ ""

/-- Which replies mean a dead token. -/
theorem verdict_invalidToken_iff (last : Attempt Reply) :
    (∃ reason, service.verdict last = .failed (.invalidToken reason)) ↔
      ∃ reply, last = .answered reply ∧ IsDead reply := by
  have hblank : ∀ (reason : String) (status : Status), status.code ∉ readStatuses →
      Verdict.ofResult (classify { status := status }) ≠ .failed (.invalidToken reason) := by
    intro reason status _ h
    obtain ⟨fault, hfault, -⟩ := (classify_invalidToken_iff _).1
      ⟨reason, Service.ofResult_eq_failed.1 h⟩
    cases hfault
  constructor
  · rintro ⟨reason, hw⟩
    obtain ⟨reply, a, hlast, hmem, ha, hdead⟩ :=
      (service_reads.verdict_eq_iff rfl (hblank reason) last).1 hw
    obtain ⟨fault, hfault, hinvalid⟩ := (classify_invalidToken_iff a).1
      ⟨reason, Service.ofResult_eq_failed.1 hdead⟩
    exact ⟨reply, hlast, hmem, a, fault, ha, hfault, (isInvalidToken_iff fault).1 hinvalid⟩
  · rintro ⟨reply, hlast, hmem, a, fault, ha, hfault, hpoints⟩
    obtain ⟨reason, hdead⟩ := (classify_invalidToken_iff a).2
      ⟨fault, hfault, (isInvalidToken_iff fault).2 hpoints⟩
    exact ⟨reason, (service_reads.verdict_eq_iff rfl (hblank reason) last).2
      ⟨reply, a, hlast, hmem, ha, Service.ofResult_eq_failed.2 hdead⟩⟩

theorem classify_ok_iff (a : Response) :
    classify a = .ok () ↔ a.status = .ok ∧ a.error = none ∧ a.name ≠ "" := by
  unfold classify
  cases a.error with
  | some fault => simp only; split <;> simp
  | none =>
    by_cases hs : a.status = .ok
    · by_cases hn : a.name = "" <;> simp [hs, hn]
    · simp [hs]

/-- Which replies mean a success. -/
theorem verdict_delivered_iff (last : Attempt Reply) :
    service.verdict last = .delivered ↔ ∃ reply, last = .answered reply ∧ IsAccepted reply := by
  have hblank : ∀ status : Status, status.code ∉ readStatuses →
      Verdict.ofResult (classify { status := status }) ≠ .delivered := by
    intro status hmem h
    obtain ⟨hstatus, -⟩ := (classify_ok_iff _).1 (Service.ofResult_eq_delivered.1 h)
    rw [show status = .ok from hstatus] at hmem
    exact hmem (by decide)
  rw [service_reads.verdict_eq_iff rfl hblank]
  constructor
  · rintro ⟨reply, a, hlast, -, ha, hok⟩
    obtain ⟨hstatus, herror, hname⟩ := (classify_ok_iff a).1 (Service.ofResult_eq_delivered.1 hok)
    exact ⟨reply, hlast, congrArg Status.code ((status_of_ofBytes? ha).symm.trans hstatus), a, ha,
      herror, hname⟩
  · rintro ⟨reply, hlast, hcode, a, ha, herror, hname⟩
    have hstatus : a.status = .ok :=
      (status_of_ofBytes? ha).trans (congrArg Status.mk hcode)
    refine ⟨reply, a, hlast, ?_, ha, ?_⟩
    · rw [hcode]
      decide
    · exact Service.ofResult_eq_delivered.2 ((classify_ok_iff a).2 ⟨hstatus, herror, hname⟩)

/-! ## Deliveries -/

/-- What one attempt comes to before its reply is read: it gets a bearer token and sends the message
    with it. -/
def Client.transport (c : Client) (w : Wire σ) (t : Tokens σ) (m : Message) (s : σ) :
    Attempt Reply × σ :=
  match bearer w t s with
  | (.answered token, s) => w.exchange (c.request m token) s
  | (.failed error, s) => (.failed error, s)
  | (.crashed, s) => (.crashed, s)

theorem Client.post_eq (c : Client) (w : Wire σ) (t : Tokens σ) (m : Message) :
    c.post w t m = fun s => ((c.transport w t m s).1.bind decode, (c.transport w t m s).2) := by
  funext s
  unfold post transport
  obtain ⟨a, s⟩ := bearer w t s
  cases a <;> rfl

/-- A delivery ends with the verdict on the last result of its attempts. -/
theorem Client.deliver_verdict (c : Client) (w : Wire σ) (t : Tokens σ) (m : Message)
    (token : String) (s : σ) :
    (c.deliver w t m token s).1 =
      service.verdict (Retry.resultAt (c.transport w t { m with token := token }) s
        (Retry.last c.retries Reply.status (c.transport w t { m with token := token }) s)) := by
  show ((c.send w t { m with token := token } s).1.verdict classify) = _
  rw [Client.send, Client.post_eq]
  exact Service.send_verdict service_reads.faithful c.retries
    (c.transport w t { m with token := token }) s

/-- A delivery ends in the state after the last of its attempts. -/
theorem Client.deliver_state (c : Client) (w : Wire σ) (t : Tokens σ) (m : Message)
    (token : String) (s : σ) :
    (c.deliver w t m token s).2 = Retry.stateAt (c.transport w t { m with token := token }) s
      (Retry.last c.retries Reply.status (c.transport w t { m with token := token }) s + 1) := by
  show (c.send w t { m with token := token } s).2 = _
  rw [Client.send, Client.post_eq]
  exact Service.send_state service_reads.faithful c.retries
    (c.transport w t { m with token := token }) s

/-! ## Failed token exchanges -/

/-- The same clock and slot, with a service account that the tokens come from. -/
def accountTokens (account : ServiceAccount) (w : Wire σ) (t : Tokens σ) : Tokens σ :=
  { t with fetch := account.fetch w t.now }

/-- What is fetched is what is got. -/
theorem refresh_fst (t : Tokens σ) (s : σ) : (t.refresh s).1 = (t.fetch s).1 := by
  unfold Tokens.refresh
  obtain ⟨a, s'⟩ := t.fetch s
  cases a <;> rfl

/-- Getting a token fails exactly if there is no fresh one and a fetch fails. -/
theorem get_failed_iff {t : Tokens σ} {s : σ} {e : SendError} :
    (t.get s).1 = .failed e ↔
      (∀ token, t.load s = some token → token.isFresh? (t.now s) = some false) ∧
        (t.fetch s).1 = .failed e := by
  unfold Tokens.get
  cases t.load s with
  | none => simp [refresh_fst]
  | some token =>
    cases hfresh : token.isFresh? (t.now s) with
    | none => simp [hfresh]
    | some fresh => cases fresh <;> simp [hfresh, refresh_fst]

/-- An error with which an attempt fails carries no status, unless the source of tokens gave it. -/
theorem Client.transport_failed {c : Client} {w : Wire σ} {t : Tokens σ} {m : Message} {s : σ}
    {e : SendError} (h : (c.transport w t m s).1 = .failed e) :
    e.status? = none ∨ (t.fetch s).1 = .failed e := by
  unfold transport at h
  split at h
  · exact .inl (Http.Wire.status_of_exchange_failed h)
  · rename_i error s' hb
    cases h
    unfold bearer at hb
    split at hb
    · cases hb
      exact .inl rfl
    · exact .inr (get_failed_iff.1 (congrArg Prod.fst hb)).2
  · cases h

/-- An answer is a grant, or it does not authorize. -/
theorem ofAnswer_answered_or_failed (status : Status) (body : Option (List UInt8)) :
    (∃ g, Grant.ofAnswer status body = .answered g) ∨
      ∃ text, Grant.ofAnswer status body = .failed (.auth text) := by
  unfold Grant.ofAnswer
  split
  · split
    · exact .inl ⟨_, rfl⟩
    · exact .inr ⟨_, rfl⟩
  · exact .inr ⟨_, rfl⟩

theorem ofAnswer_ne_timeout (status : Status) (body : Option (List UInt8)) :
    Grant.ofAnswer status body ≠ .failed .timeout := by
  rcases ofAnswer_answered_or_failed status body with ⟨g, h⟩ | ⟨text, h⟩ <;> rw [h] <;> nofun

theorem token_ne_failed (g : Grant) (requestedAt : Moment) (e : SendError) :
    g.token requestedAt ≠ .failed e := by
  unfold Grant.token
  split <;> nofun

theorem token_of_exchange_timeout_iff (x : Http.Exchange) (requestedAt : Moment) :
    (Grant.ofExchange x).bind (·.token requestedAt) = .failed .timeout ↔ x = .silent := by
  have hanswer : ∀ status body,
      (Grant.ofAnswer status body).bind (·.token requestedAt) ≠ .failed .timeout := by
    intro status body
    cases hg : Grant.ofAnswer status body with
    | answered g => exact token_ne_failed g requestedAt .timeout
    | failed e =>
      rintro ⟨⟩
      exact ofAnswer_ne_timeout status body hg
    | crashed => nofun
  cases x with
  | reply r => exact iff_of_false (hanswer r.status (some r.body)) nofun
  | cut status => exact iff_of_false (hanswer status none) nofun
  | silent => exact iff_of_true rfl rfl
  | broken | interrupted => exact iff_of_false nofun nofun

/-- Why there is no request for a token carries no status, and is no timeout. -/
theorem tokenRequest_error {account : ServiceAccount} {e : SendError}
    (h : account.tokenRequest = .error e) : e.status? = none ∧ e ≠ .timeout ∧ e ≠ .cancelled := by
  unfold ServiceAccount.tokenRequest at h
  split at h
  · cases h
    exact ⟨rfl, nofun, nofun⟩
  · split at h
    · cases h
    · cases h
      exact ⟨rfl, nofun, nofun⟩

/-- An exchange for a token times out exactly if there is no reply in time. -/
theorem fetch_timeout_iff {account : ServiceAccount} {w : Wire σ} {now : σ → Moment} {s : σ} :
    (account.fetch w now s).1 = .failed .timeout ↔
      ∃ request, account.tokenRequest = .ok request ∧ (w.send request s).1 = .silent := by
  unfold ServiceAccount.fetch
  cases hrequest : account.tokenRequest with
  | ok request => simp [token_of_exchange_timeout_iff]
  | error e =>
    refine iff_of_false ?_ nofun
    rintro ⟨⟩
    exact (tokenRequest_error hrequest).2.1 rfl

theorem status_of_ofAnswer_failed {status : Status} {body : Option (List UInt8)} {e : SendError}
    (h : Grant.ofAnswer status body = .failed e) : e.status? = none := by
  rcases ofAnswer_answered_or_failed status body with ⟨g, hg⟩ | ⟨text, htext⟩
  · cases hg.symm.trans h
  · cases htext.symm.trans h
    rfl

theorem status_of_ofExchange_failed {x : Http.Exchange} {e : SendError}
    (h : Grant.ofExchange x = .failed e) : e.status? = none := by
  cases x with
  | reply r => exact status_of_ofAnswer_failed h
  | cut status => exact status_of_ofAnswer_failed h
  | broken | silent | interrupted => cases h; rfl

/-- A service account never fails with an error that carries a status. -/
theorem status_of_fetch_failed {account : ServiceAccount} {w : Wire σ} {now : σ → Moment} {s : σ}
    {e : SendError} (h : (account.fetch w now s).1 = .failed e) : e.status? = none := by
  unfold ServiceAccount.fetch at h
  split at h
  · rename_i request _
    replace h : (Grant.ofExchange (w.send request s).1).bind (·.token (now s)) = .failed e := h
    cases hg : Grant.ofExchange (w.send request s).1 with
    | answered g =>
      rw [hg] at h
      exact absurd h (token_ne_failed g (now s) e)
    | failed error =>
      rw [hg] at h
      cases h
      exact status_of_ofExchange_failed hg
    | crashed =>
      rw [hg] at h
      cases h
  · rename_i error hrequest
    cases h
    exact (tokenRequest_error hrequest).1

end Courier.Fcm
