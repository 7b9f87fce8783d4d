import Courier.Proofs.Delivery.Apns
import Courier.Proofs.Delivery.Attempts
import Courier.Proofs.Delivery.Fcm
import Courier.Proofs.Delivery.Gcm

/-!
# The requests of a delivery

On a scripted network, the requests that a delivery sends and the verdict that it ends with follow
from the script. As many attempts are made as it takes to get a final result, though no more than
are allowed; they all send the same request, but for its bearer token; and the last result decides.

Results:

* `Fcm.Client.runs`: the attempts of a delivery whose bearer tokens have a state of their own.
* `Delivery.deliver_requests`: the requests and the verdict of a delivery, for each push service.
-/

namespace Courier

open Http (Attempt Exchange Reply Request Script Stops Wire)
open OAuth (AccessToken ServiceAccount Tokens)
open Retry (last resultAt stateAt)

variable {τ : Type}

/-! ## Requests -/

namespace Http

/-- Whether two requests are the same, but for the values of one header. -/
def Request.SameBut (header : String) (a b : Request) : Prop :=
  a.url = b.url ∧ a.body = b.body ∧
    a.headers.map Prod.fst = b.headers.map Prod.fst ∧
    a.headers.filter (·.1 ≠ header) = b.headers.filter (·.1 ≠ header)

/-- A request that is ready to be sent, or the failure of one that cannot be. -/
def Request.outgoing (r : Request) : Attempt Request :=
  if r.sendable then .answered r else .failed .transport

theorem Request.outgoing_of_sendable {r : Request} (h : r.sendable = true) :
    r.outgoing = .answered r := if_pos h

theorem Wire.exchange_eq {σ : Type} {w : Wire σ} {s : σ} (h : w.cancelled s = false)
    (request : Request) :
    w.exchange request s =
      if request.sendable then ((w.post request s).1.attempt, (w.post request s).2)
      else (.failed .transport, s) := by
  unfold exchange send
  rw [h]
  cases request.sendable <;> rfl

/-! ## Scripted networks -/

namespace Script

theorem exchange_wire {s : Script} (h : s.cancelled = false) (request : Request) :
    wire.exchange request s = s.attempt request.outgoing := by
  rw [Wire.exchange_eq h, Request.outgoing]
  split <;> rfl

/-- A scripted network beside a state that it does not know of. -/
def wireBeside : Wire (Script × τ) where
  cancelled s := s.1.cancelled
  post request s := ((s.1.post request).1, (s.1.post request).2, s.2)

theorem exchange_wireBeside {s : Script} (h : s.cancelled = false) (request : Request) (q : τ) :
    wireBeside.exchange request (s, q) =
      ((s.attempt request.outgoing).1, (s.attempt request.outgoing).2, q) := by
  rw [Wire.exchange_eq h, Request.outgoing]
  split <;> rfl

end Script

end Http

/-- Bearer tokens beside a network that they do not know of. -/
def OAuth.Tokens.beside (t : Tokens τ) : Tokens (Script × τ) where
  now s := t.now s.2
  load s := t.load s.2
  store token s := (s.1, t.store token s.2)
  fetch s := ((t.fetch s.2).1, s.1, (t.fetch s.2).2)

theorem OAuth.Tokens.refresh_beside (t : Tokens τ) (s : Script) (q : τ) :
    t.beside.refresh (s, q) = ((t.refresh q).1, s, (t.refresh q).2) := by
  unfold refresh beside
  cases h : t.fetch q with
  | mk a q' => cases a <;> simp [h]

theorem OAuth.Tokens.get_beside (t : Tokens τ) (s : Script) (q : τ) :
    t.beside.get (s, q) = ((t.get q).1, s, (t.get q).2) := by
  have hload : t.beside.load (s, q) = t.load q := rfl
  have hnow : t.beside.now (s, q) = t.now q := rfl
  unfold get
  rw [hload, hnow, refresh_beside]
  split
  · rfl
  · split <;> rfl

/-! ## Attempts -/

theorem runs_wire (request : Request) (s : Script) :
    Runs (fun _ => request.outgoing) (Script.wire.exchange request) id s :=
  fun _ h => Script.exchange_wire h request

namespace Fcm

variable (c : Client) (t : Tokens τ) (m : Message)

/-- The request of each attempt, with the bearer token that the attempt gets, unless it gets
    none. -/
def Client.plan (q : τ) (n : Nat) : Attempt Request :=
  (resultAt t.get q n).bind fun bearer => (c.request m bearer).outgoing

variable {s : Script}

theorem Client.transport_beside (h : s.cancelled = false) (q : τ) :
    c.transport Script.wireBeside t.beside m (s, q) =
      ((s.attempt (c.plan t m q 0)).1, (s.attempt (c.plan t m q 0)).2, (t.get q).2) := by
  have hbearer : bearer Script.wireBeside t.beside (s, q) = ((t.get q).1, s, (t.get q).2) := by
    rw [← OAuth.Tokens.get_beside]
    exact if_neg (by rw [show Script.wireBeside.cancelled (s, q) = false from h]; nofun)
  unfold transport plan resultAt stateAt
  rw [hbearer]
  cases (t.get q).1 with
  | answered bearer => exact Script.exchange_wireBeside h _ _
  | failed error => rfl
  | crashed => rfl

theorem Client.transport_of_cancelled (h : s.cancelled = true) (q : τ) :
    (c.transport Script.wireBeside t.beside m (s, q)).2 = (s, q) := by
  have hbearer : bearer Script.wireBeside t.beside (s, q) = (.failed .cancelled, s, q) := if_pos h
  unfold transport
  rw [hbearer]

/-- Nothing but the attempts themselves moves the state of the bearer tokens. -/
theorem Client.stateAt_snd (q : τ) {n : Nat}
    (h : (stateAt (c.transport Script.wireBeside t.beside m) (s, q) n).1.cancelled = false) :
    (stateAt (c.transport Script.wireBeside t.beside m) (s, q) n).2 = stateAt t.get q n := by
  induction n with
  | zero => rfl
  | succ n ih =>
    rw [stateAt] at h ⊢
    cases hc : (stateAt (c.transport Script.wireBeside t.beside m) (s, q) n).1.cancelled with
    | true =>
      rw [c.transport_of_cancelled t m hc] at h
      cases hc.symm.trans h
    | false => rw [c.transport_beside t m hc, ih hc, stateAt]

/-- The attempts of a delivery do what is planned for them. -/
theorem Client.runs (s : Script) (q : τ) :
    Runs (c.plan t m q) (c.transport Script.wireBeside t.beside m) Prod.fst (s, q) := by
  intro n h
  have hsnd := c.stateAt_snd t m q h
  have hstep := c.transport_beside t m h
    (stateAt (c.transport Script.wireBeside t.beside m) (s, q) n).2
  rw [resultAt, stateAt, hstep, hsnd]
  rfl

end Fcm

/-- The request for a device. -/
def Gcm.Client.requestTo (c : Gcm.Client) (r : Gcm.Request) (token : String) : Http.Request :=
  c.request { r with recipient := token, dryRun := r.dryRun || c.dryRun }

/-! ## Deliveries -/

namespace Delivery

variable {α σ : Type}

/-- How a delivery goes: it makes as few attempts as it may, sends their requests and nothing else,
    and judges the last result. The attempts come to `result`, and `requests` are those of the first
    `n` of them. -/
structure Sends (v : Service α) (maxAttempts : Int) (result : Nat → Attempt Reply)
    (requests : Nat → List Request) (before after : List Request) (verdict : Verdict) (n : Nat) :
    Prop where
  least : IsLeast (Stops maxAttempts result) n
  sent : after = before ++ requests n
  judged : verdict = v.judge (result (n - 1))

theorem sends_of_runs {v : Service α} (hv : v.Faithful) {plan : Nat → Attempt Request}
    {attempt : σ → Attempt Reply × σ} {script : σ → Script} {start : σ}
    (h : Runs plan attempt script start) (hstart : (script start).cancelled = false)
    (maxAttempts : Int) :
    Sends v maxAttempts (plannedResult plan (script start)) (planned plan) (script start).requests
      (script (stateAt attempt start (last maxAttempts Reply.status attempt start + 1))).requests
      (v.verdict (resultAt attempt start (last maxAttempts Reply.status attempt start)))
      (last maxAttempts Reply.status attempt start + 1) where
  least := h.isLeast_last maxAttempts hstart
  sent := h.requests_last maxAttempts hstart
  judged := by
    rw [Service.verdict_eq_judge hv, h.resultAt_last maxAttempts hstart, Nat.add_sub_cancel]

/-- If every attempt has a request, the attempts come to what comes of their requests. -/
theorem Sends.of_answered {v : Service α} {maxAttempts : Int} {request : Nat → Request}
    {s : Script} {after : List Request} {verdict : Verdict} {n : Nat}
    {plan : Nat → Attempt Request} (hplan : ∀ k, plan k = .answered (request k))
    (h : Sends v maxAttempts (plannedResult plan s) (planned plan) s.requests after verdict n) :
    Sends v maxAttempts s.resultAt (fun n => (List.range n).map request) s.requests after verdict
      n := by
  obtain rfl : plan = fun k => .answered (request k) := funext hplan
  simpa only [funext (plannedResult_answered request s), funext (planned_answered request)] using h

/-- If every attempt has the same request, that is sent over and over. -/
theorem Sends.of_sendable {v : Service α} {maxAttempts : Int} {request : Request} {s : Script}
    {after : List Request} {verdict : Verdict} {n : Nat} (hr : request.sendable = true)
    (h : Sends v maxAttempts (plannedResult (fun _ => request.outgoing) s)
      (planned fun _ => request.outgoing) s.requests after verdict n) :
    Sends v maxAttempts s.resultAt (List.replicate · request) s.requests after verdict n := by
  have hsends := h.of_answered fun _ => Request.outgoing_of_sendable hr
  simpa only [List.map_const', List.length_range] using hsends

variable {s : Script}

theorem apns_sends (hs : s.cancelled = false) (c : Apns.Client) (r : Apns.Request) (token : String)
    (hr : (c.request r token).sendable = true) :
    ∃ n, Sends Apns.service c.retries s.resultAt (List.replicate · (c.request r token)) s.requests
      (c.deliver Script.wire r token s).2.requests (c.deliver Script.wire r token s).1 n := by
  rw [c.deliver_verdict, c.deliver_state]
  exact ⟨_, (sends_of_runs Apns.service_faithful (runs_wire _ s) hs c.retries).of_sendable hr⟩

theorem gcm_sends (hs : s.cancelled = false) (c : Gcm.Client) (r : Gcm.Request) (token : String)
    (hr : (c.requestTo r token).sendable = true) :
    ∃ n, Sends Gcm.service c.retries s.resultAt (List.replicate · (c.requestTo r token)) s.requests
      (c.deliver Script.wire r token s).2.requests (c.deliver Script.wire r token s).1 n := by
  rw [c.deliver_verdict, c.deliver_state]
  exact ⟨_, (sends_of_runs Gcm.service_reads.faithful (runs_wire _ s) hs c.retries).of_sendable hr⟩

theorem fcm_sends (hs : s.cancelled = false) (c : Fcm.Client) (t : Tokens τ) (m : Fcm.Message)
    (token : String) (q : τ) :
    ∃ n, Sends Fcm.service c.retries (plannedResult (c.plan t { m with token := token } q) s)
      (planned (c.plan t { m with token := token } q)) s.requests
      (c.deliver Script.wireBeside t.beside m token (s, q)).2.1.requests
      (c.deliver Script.wireBeside t.beside m token (s, q)).1 n := by
  rw [c.deliver_verdict, c.deliver_state]
  exact ⟨_, sends_of_runs Fcm.service_reads.faithful (c.runs t { m with token := token } s q) hs
    c.retries⟩

theorem fcm_sends_with (hs : s.cancelled = false) (c : Fcm.Client) (t : Tokens τ)
    (m : Fcm.Message) (token : String) (q : τ) {bearer : Nat → AccessToken}
    (hbearer : ∀ k, resultAt t.get q k = .answered (bearer k))
    (hr : ∀ k, (c.request { m with token := token } (bearer k)).sendable = true) :
    ∃ n, Sends Fcm.service c.retries s.resultAt
      (fun n => (List.range n).map fun k => c.request { m with token := token } (bearer k))
      s.requests (c.deliver Script.wireBeside t.beside m token (s, q)).2.1.requests
      (c.deliver Script.wireBeside t.beside m token (s, q)).1 n := by
  obtain ⟨n, hn⟩ := fcm_sends hs c t m token q
  refine ⟨n, hn.of_answered fun k => ?_⟩
  rw [Fcm.Client.plan, hbearer]
  exact Request.outgoing_of_sendable (hr k)

theorem plannedResult_of_failed {plan : Nat → Attempt Request} {k : Nat} {e : SendError}
    (h : plan k = .failed e) (s : Script) :
    plannedResult plan s k = .failed e ∧ ((plannedResult plan s k).IsFinal ↔ e ≠ .timeout) := by
  have hresult : plannedResult plan s k = .failed e := by
    rw [plannedResult, h]
    rfl
  exact ⟨hresult, by rw [hresult]; rfl⟩

theorem fcm_sameBut (c : Fcm.Client) (m : Fcm.Message) (a b : AccessToken) :
    (c.request m a).SameBut "authorization" (c.request m b) :=
  ⟨rfl, rfl, rfl, by simp [Fcm.Client.request]⟩

/-- On a scripted network, a delivery makes the least number of attempts after which it may stop,
    sends as many requests, and is judged by its last result. All its requests are the same, but for
    the bearer token of Firebase. There an attempt may fail before it has a request, because it gets
    no bearer token, and it is retried if that was a timeout. -/
theorem deliver_requests (hs : s.cancelled = false) (token : String) :
    (∀ (c : Apns.Client) (r : Apns.Request), (c.request r token).sendable = true →
      ∃ n, Sends Apns.service c.retries s.resultAt (List.replicate · (c.request r token)) s.requests
        (c.deliver Script.wire r token s).2.requests (c.deliver Script.wire r token s).1 n) ∧
    (∀ (c : Gcm.Client) (r : Gcm.Request), (c.requestTo r token).sendable = true →
      ∃ n, Sends Gcm.service c.retries s.resultAt (List.replicate · (c.requestTo r token))
        s.requests (c.deliver Script.wire r token s).2.requests
        (c.deliver Script.wire r token s).1 n) ∧
    (∀ (c : Fcm.Client) (t : Tokens τ) (m : Fcm.Message) (q : τ) (bearer : Nat → AccessToken),
      (∀ k, resultAt t.get q k = .answered (bearer k)) →
      (∀ k, (c.request { m with token := token } (bearer k)).sendable = true) →
      (∃ n, Sends Fcm.service c.retries s.resultAt
        (fun n => (List.range n).map fun k => c.request { m with token := token } (bearer k))
        s.requests (c.deliver Script.wireBeside t.beside m token (s, q)).2.1.requests
        (c.deliver Script.wireBeside t.beside m token (s, q)).1 n) ∧
      ∀ i j, (c.request { m with token := token } (bearer i)).SameBut "authorization"
        (c.request { m with token := token } (bearer j))) ∧
    (∀ (c : Fcm.Client) (t : Tokens τ) (m : Fcm.Message) (q : τ),
      (∃ n, Sends Fcm.service c.retries (plannedResult (c.plan t { m with token := token } q) s)
        (planned (c.plan t { m with token := token } q)) s.requests
        (c.deliver Script.wireBeside t.beside m token (s, q)).2.1.requests
        (c.deliver Script.wireBeside t.beside m token (s, q)).1 n) ∧
      ∀ k e, resultAt t.get q k = .failed e →
        plannedResult (c.plan t { m with token := token } q) s k = .failed e ∧
        ((plannedResult (c.plan t { m with token := token } q) s k).IsFinal ↔ e ≠ .timeout)) ∧
    (∀ (account : ServiceAccount) (w : Wire τ) (t : Tokens τ) (q : τ),
      ((Fcm.accountTokens account w t).get q).1 = .failed .timeout ↔
        (∀ found, t.load q = some found → found.isFresh? (t.now q) = some false) ∧
          ∃ request, account.tokenRequest = .ok request ∧ (w.send request q).1 = .silent) := by
  refine ⟨fun c r => apns_sends hs c r token, fun c r => gcm_sends hs c r token,
    fun c t m q bearer hbearer hr => ⟨fcm_sends_with hs c t m token q hbearer hr, ?_⟩,
    fun c t m q => ⟨fcm_sends hs c t m token q, fun k e he => ?_⟩, fun account w t q => ?_⟩
  · exact fun i j => fcm_sameBut c _ (bearer i) (bearer j)
  · apply plannedResult_of_failed
    rw [Fcm.Client.plan, he]
    rfl
  · exact Fcm.get_failed_iff.trans (and_congr_right fun _ => Fcm.fetch_timeout_iff)

/-- An unavailable server and a timeout, each retried, and then an answer: three requests, whose
    bearer tokens take turns. -/
theorem deliver_requests_three :
    let s : Script := { exchanges :=
      [.reply { status := .serviceUnavailable, body := [0xFF] }, .silent,
        .reply { status := .ok }] }
    let endpoint : Url := ⟨true, "", "push.example", none, [""], none, none⟩
    let apns : Apns.Client := ⟨endpoint, 4, {}⟩
    let gcm : Gcm.Client := ⟨endpoint, 4, false, "key"⟩
    let fcm : Fcm.Client := ⟨endpoint, "project", 4, false⟩
    let push : Apns.Request := ⟨.alert, 10, 0, none, none, .obj []⟩
    let now : Moment := ⟨0, 0, by decide⟩
    let bearer : Bool → AccessToken := fun q => ⟨if q then "even" else "odd", "Bearer", now⟩
    let t : Tokens Bool :=
      ⟨fun _ => now, fun _ => none, fun _ q => q, fun q => (.answered (bearer q), !q)⟩
    (∃ n, Sends Apns.service 4 s.resultAt (List.replicate · (apns.request push "device")) []
      (apns.deliver Script.wire push "device" s).2.requests
      (apns.deliver Script.wire push "device" s).1 n) ∧
    (∃ n, Sends Gcm.service 4 s.resultAt (List.replicate · (gcm.requestTo {} "device")) []
      (gcm.deliver Script.wire {} "device" s).2.requests
      (gcm.deliver Script.wire {} "device" s).1 n) ∧
    (∃ n, Sends Fcm.service 4 s.resultAt
      (fun n => (List.range n).map fun k =>
        fcm.request { token := "device" } (bearer (stateAt t.get true k))) []
      (fcm.deliver Script.wireBeside t.beside {} "device" (s, true)).2.1.requests
      (fcm.deliver Script.wireBeside t.beside {} "device" (s, true)).1 n) ∧
    (fcm.deliver Script.wireBeside t.beside {} "device" (s, true)).2.1.requests.length = 3 := by
  intro s endpoint apns gcm fcm push now bearer t
  have h := deliver_requests (τ := Bool) (s := s) rfl "device"
  refine ⟨h.1 apns push (by decide +kernel), h.2.1 gcm {} (by decide +kernel),
    (h.2.2.1 fcm t {} true (fun k => bearer (stateAt t.get true k)) (fun _ => rfl) ?_).1,
    by decide +kernel⟩
  intro k
  cases stateAt t.get true k <;> decide +kernel

end Delivery

end Courier
