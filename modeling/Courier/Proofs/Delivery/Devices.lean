import Courier.Dispatch.Run
import Courier.Project.Client
import Courier.Proofs.Delivery.Requests
import Courier.Proofs.Fallible

/-!
# The devices of one push

A push for many devices goes from one to the next with one converted request. The requests that it
sends for a device follow from that request, from the token and from the replies that are left when
its turn comes; the devices before it and after it do not matter.

Results:

* `Dispatch.ending_append_of_arrival`, `Dispatch.ending_append_of_ended`: a push whose devices are
  taken in two parts.
* `Delivery.Plans.exists_isolated`: what a push sends for one device, as a push for it alone would.
* `Delivery.push_isolates`: that, with the requests themselves, for each push service.
-/

namespace Courier

open Http (Attempt Request Script Stops)
open OAuth (Tokens)
open Retry (resultAt)

/-! ## From device to device -/

namespace Dispatch

variable {R σ : Type} {cancelled : σ → Bool} {deliver : R → String → σ → Verdict × σ}
  {nopMode : Bool} {request : R} {s s₁ : σ}

/-- The state after one device, and whether the push goes on. -/
def pass (deliver : R → String → σ → Verdict × σ) (nopMode : Bool) (request : R) (token : String)
    (s : σ) : σ × Bool :=
  if token = "" ∨ nopMode then (s, true)
  else ((deliver request token s).2, (verdictEvents token (deliver request token s).1).2)

/-- The state in which a push comes to what follows some devices, unless it ends before. -/
def arrival (cancelled : σ → Bool) (deliver : R → String → σ → Verdict × σ) (nopMode : Bool)
    (request : R) : List String → σ → Option σ
  | [], s => if cancelled s then none else some s
  | token :: rest, s =>
    if cancelled s then none
    else if (pass deliver nopMode request token s).2 then
      arrival cancelled deliver nopMode request rest (pass deliver nopMode request token s).1
    else none

/-- The state in which a push ends. -/
def ending (cancelled : σ → Bool) (deliver : R → String → σ → Verdict × σ) (nopMode : Bool)
    (request : R) (devices : List String) (s : σ) : σ :=
  (sendAll cancelled deliver nopMode request devices s).2.2

theorem ending_of_cancelled (h : cancelled s = true) (devices : List String) :
    ending cancelled deliver nopMode request devices s = s := by
  cases devices with
  | nil => rfl
  | cons token rest => simp [ending, sendAll, h]

theorem ending_cons (h : ¬ cancelled s = true) (token : String) (rest : List String) :
    ending cancelled deliver nopMode request (token :: rest) s =
      if (pass deliver nopMode request token s).2 then
        ending cancelled deliver nopMode request rest (pass deliver nopMode request token s).1
      else (pass deliver nopMode request token s).1 := by
  unfold ending
  rw [sendAll, if_neg h]
  by_cases htoken : token = ""
  · have hpass : pass deliver nopMode request token s = (s, true) := if_pos (.inl htoken)
    rw [if_pos htoken, hpass]
    rfl
  by_cases hnop : nopMode = true
  · have hpass : pass deliver nopMode request token s = (s, true) := if_pos (.inr hnop)
    rw [if_neg htoken, if_pos hnop, hpass]
    rfl
  rw [if_neg htoken, if_neg hnop, pass, if_neg (not_or.2 ⟨htoken, hnop⟩)]
  cases hgoes : (verdictEvents token (deliver request token s).1).2 <;> simp [hgoes]

theorem ending_singleton (h : ¬ cancelled s = true) (token : String) :
    ending cancelled deliver nopMode request [token] s =
      (pass deliver nopMode request token s).1 := by
  rw [ending_cons h]
  split <;> rfl

theorem not_cancelled_of_arrival {devices : List String}
    (h : arrival cancelled deliver nopMode request devices s = some s₁) :
    ¬ cancelled s₁ = true := by
  induction devices generalizing s with
  | nil =>
    rw [arrival] at h
    split at h <;> cases h
    assumption
  | cons token rest ih =>
    rw [arrival] at h
    split at h
    · cases h
    · split at h
      · exact ih h
      · cases h

/-- A push that comes to its other devices goes on with them. -/
theorem ending_append_of_arrival {devices : List String}
    (h : arrival cancelled deliver nopMode request devices s = some s₁) (others : List String) :
    ending cancelled deliver nopMode request (devices ++ others) s =
      ending cancelled deliver nopMode request others s₁ := by
  induction devices generalizing s with
  | nil =>
    rw [arrival] at h
    split at h <;> cases h
    rfl
  | cons token rest ih =>
    rw [arrival] at h
    split at h
    · cases h
    · rw [List.cons_append, ending_cons ‹_›]
      split at h
      · rw [if_pos ‹_›, ih h]
      · cases h

/-- A push that ends before it comes to its other devices ends as without them. -/
theorem ending_append_of_ended {devices : List String}
    (h : arrival cancelled deliver nopMode request devices s = none) (others : List String) :
    ending cancelled deliver nopMode request (devices ++ others) s =
      ending cancelled deliver nopMode request devices s := by
  induction devices generalizing s with
  | nil =>
    rw [arrival] at h
    split at h
    · rw [ending_of_cancelled ‹_›, ending_of_cancelled ‹_›]
    · cases h
  | cons token rest ih =>
    rw [arrival] at h
    split at h
    · rw [ending_of_cancelled ‹_›, ending_of_cancelled ‹_›]
    · rw [List.cons_append, ending_cons ‹_›, ending_cons ‹_›]
      split at h
      · rw [if_pos ‹_›, if_pos ‹_›, ih h]
      · rw [if_neg ‹_›, if_neg ‹_›]

/-- A push that comes to the end of its devices ends there. -/
theorem ending_of_arrival {devices : List String}
    (h : arrival cancelled deliver nopMode request devices s = some s₁) :
    ending cancelled deliver nopMode request devices s = s₁ := by
  have hnil := ending_append_of_arrival h []
  rwa [List.append_nil] at hnil

/-- Where a push ends whose request is there. -/
theorem serve_ending {job : Job R} (h : job.converted = .ok (.send request)) :
    (serve cancelled deliver job s).2 =
      ending cancelled deliver job.nopMode request job.devices s := by
  unfold serve
  split
  · rw [ending_of_cancelled ‹_›]
  · unfold run
    split
    · rw [‹job.devices = []›]
      rfl
    · rw [h]
      rfl

end Dispatch

/-! ## Answers -/

namespace Http

theorem Attempt.answer?_eq_some {α : Type} {a : Attempt α} {b : α} :
    a.answer? = some b ↔ a = .answered b := by
  cases a <;> simp [answer?]

theorem Attempt.exists_of_bind_answered {α β : Type} {a : Attempt α} {f : α → Attempt β} {b : β}
    (h : a.bind f = .answered b) : ∃ c, a = .answered c ∧ f c = .answered b := by
  cases a with
  | answered c => exact ⟨c, rfl, h⟩
  | failed error => cases h
  | crashed => cases h

theorem Request.eq_of_outgoing {r q : Request} (h : r.outgoing = .answered q) : q = r := by
  unfold outgoing at h
  split at h <;> cases h
  rfl

end Http

/-! ## Conversion -/

theorem Gcm.dryRun_of_addPayload {payload : Payload} {policy : Policy} {r r' : Gcm.Request}
    (h : Gcm.addPayload payload policy r = .ok r') : r'.dryRun = r.dryRun := by
  cases payload with
  | voip p =>
    cases h
    rfl
  | encrypted p =>
    rw [Gcm.addPayload, Gcm.addEncrypted] at h
    split at h
    · cases h
    · cases h
      cases p.publicAlerting with
      | none => rfl
      | some alerting => cases policy.allowAlerts <;> rfl
  | alerting p =>
    rw [Gcm.addPayload] at h
    split at h <;> cases h <;> rfl
  | silent =>
    cases h
    rfl

/-- The flag for a dry run is not a matter of conversion. -/
theorem Gcm.dryRun_of_convert {n : Notification} {policy : Policy} {r : Gcm.Request}
    (h : Gcm.convert n policy = .ok (.send r)) : r.dryRun = false := by
  obtain ⟨payload, -, h⟩ := bind_eq_ok_iff.1 h
  obtain ⟨r', hadd, h⟩ := bind_eq_ok_iff.1 h
  cases h
  exact Gcm.dryRun_of_addPayload hadd

/-! ## The sandbox -/

theorem ClientOptions.sandbox_of_new {policy : Policy} {endpoint : Option String}
    {o : ClientOptions} (h : ClientOptions.new policy endpoint = .ok o) :
    o.sandbox = policy.sandbox := by
  obtain ⟨url, -, h⟩ := bind_eq_ok_iff.1 h
  cases h
  rfl

theorem Gcm.Client.dryRun_of_ofKey {key : String} {o : ClientOptions} {c : Gcm.Client}
    (h : Gcm.Client.ofKey key o = .ok c) : c.dryRun = o.sandbox := by
  unfold Gcm.Client.ofKey at h
  split at h
  · obtain ⟨url, -, h⟩ := bind_eq_ok_iff.1 h
    cases h
    rfl
  · cases h

theorem Fcm.Client.validateOnly_of_ofProject {project : String} {o : ClientOptions}
    {c : Fcm.Client} (h : Fcm.Client.ofProject project o = .ok c) :
    c.validateOnly = o.sandbox := by
  obtain ⟨url, -, h⟩ := bind_eq_ok_iff.1 h
  cases h
  rfl

namespace Delivery

variable {R σ τ : Type}

/-! ## Requests for one device -/

/-- Whether a delivery makes as few attempts as it may, and sends what is planned for them. -/
def Plans (script : σ → Script) (maxAttempts : Int) (plan : String → σ → Nat → Attempt Request)
    (deliver : String → σ → Verdict × σ) : Prop :=
  ∀ token s, (script s).cancelled = false →
    ∃ n, IsLeast (Stops maxAttempts (plannedResult (plan token s) (script s))) n ∧
      (script (deliver token s).2).requests = (script s).requests ++ planned (plan token s) n

/-- What is sent for one device: nothing without a token and in the mode without calls, and else
    what is planned for as few attempts as there may be. -/
def SentFor (nopMode : Bool) (token : String) (maxAttempts : Int) (plan : Nat → Attempt Request)
    (s : Script) (sent : List Request) : Prop :=
  if token = "" ∨ nopMode then sent = []
  else ∃ n, IsLeast (Stops maxAttempts (plannedResult plan s)) n ∧ sent = planned plan n

/-- Whether two scripted networks have the same to say from now on. -/
def SameReplies (s s' : Script) : Prop :=
  s.cancelled = s'.cancelled ∧ ∀ k, s.exchangeAt k = s'.exchangeAt k

theorem plannedResult_congr {s s' : Script} (h : SameReplies s s') (plan : Nat → Attempt Request) :
    plannedResult plan s = plannedResult plan s' := by
  funext n
  simp only [plannedResult, Script.resultAt, h.2]

/-- What is sent for a device depends on its plan and on the replies alone. -/
theorem SentFor.unique {nopMode : Bool} {token : String} {maxAttempts : Int}
    {plan : Nat → Attempt Request} {s s' : Script} {sent sent' : List Request}
    (h : SentFor nopMode token maxAttempts plan s sent)
    (h' : SentFor nopMode token maxAttempts plan s' sent') (hsame : SameReplies s s') :
    sent = sent' := by
  unfold SentFor at h h'
  split at h
  · rw [if_pos ‹_›] at h'
    rw [h, h']
  · rw [if_neg ‹_›] at h'
    obtain ⟨n, hn, rfl⟩ := h
    obtain ⟨n', hn', rfl⟩ := h'
    rw [plannedResult_congr hsame] at hn
    rw [Nat.le_antisymm (hn.2 hn'.1) (hn'.2 hn.1)]

theorem SentFor.exists_plan {nopMode : Bool} {token : String} {maxAttempts : Int}
    {plan : Nat → Attempt Request} {s : Script} {sent : List Request}
    (h : SentFor nopMode token maxAttempts plan s sent) {q : Request} (hq : q ∈ sent) :
    ∃ k, plan k = .answered q := by
  unfold SentFor at h
  split at h
  · rw [h] at hq
    cases hq
  · obtain ⟨n, -, rfl⟩ := h
    obtain ⟨k, -, hk⟩ := List.mem_filterMap.1 hq
    exact ⟨k, Attempt.answer?_eq_some.1 hk⟩

section Push

variable {script : σ → Script} {cancelled : σ → Bool} {maxAttempts : Int}
  {plan : String → σ → Nat → Attempt Request} {deliver : R → String → σ → Verdict × σ}
  {nopMode : Bool} {request : R} {s : σ}

theorem Plans.exists_sent (h : Plans script maxAttempts plan (deliver request))
    (hs : (script s).cancelled = false) (token : String) (nopMode : Bool) :
    ∃ sent, SentFor nopMode token maxAttempts (plan token s) (script s) sent ∧
      (script (Dispatch.pass deliver nopMode request token s).1).requests =
        (script s).requests ++ sent := by
  unfold SentFor Dispatch.pass
  split
  · exact ⟨[], rfl, (List.append_nil _).symm⟩
  · obtain ⟨n, hn, hsent⟩ := h token s hs
    exact ⟨_, ⟨n, hn, rfl⟩, hsent⟩

/-- A push only adds to what was sent. -/
theorem Plans.isPrefix_ending (h : Plans script maxAttempts plan (deliver request))
    (hc : ∀ s, cancelled s = (script s).cancelled) (devices : List String) (s : σ) :
    (script s).requests <+:
      (script (Dispatch.ending cancelled deliver nopMode request devices s)).requests := by
  induction devices generalizing s with
  | nil => exact List.prefix_rfl
  | cons token rest ih =>
    by_cases hs : cancelled s = true
    · simp only [Dispatch.ending_of_cancelled hs, List.prefix_rfl]
    · obtain ⟨sent, -, hsent⟩ :=
        h.exists_sent (by rw [← hc]; simpa using hs) token nopMode
      have hpass := hsent ▸ List.prefix_append (script s).requests sent
      rw [Dispatch.ending_cons hs]
      split
      · exact hpass.trans (ih _)
      · exact hpass

/-- What a push sends for a device between others. `arrival` is where it comes to that device, and
    `push` are the requests that were sent when it ends. -/
structure Isolated (before after : List String) (token : String) (arrival : Option σ)
    (push : List String → List Request) (alone : σ → List Request → Prop)
    (addressed : Request → Prop) (sent : List Request) : Prop where
  /-- They are sent after those for the devices before it. -/
  own : push (before ++ [token]) = push before ++ sent
  /-- Nothing else is sent before those for the devices after it. -/
  among : push before ++ sent <+: push (before ++ token :: after)
  /-- There are none if the push ends before. -/
  unreached : arrival = none → sent = []
  /-- A push for that device alone sends the same. -/
  alone : ∀ s₁, arrival = some s₁ → alone s₁ sent
  /-- They are what is to be sent for that device. -/
  addressed : ∀ q ∈ sent, addressed q

/-- What a push sends for one device is what a push for that device alone would send. -/
theorem Plans.exists_isolated (h : Plans script maxAttempts plan (deliver request))
    (hc : ∀ s, cancelled s = (script s).cancelled) {alone : σ → List Request → Prop}
    {addressed : Request → Prop} (before after : List String) (token : String) (s : σ)
    (halone : ∀ s₁ sent, (script s₁).cancelled = false →
      SentFor nopMode token maxAttempts (plan token s₁) (script s₁) sent → alone s₁ sent)
    (haddressed : ∀ s₁ k q, plan token s₁ k = .answered q → addressed q) :
    ∃ sent, Isolated before after token
      (Dispatch.arrival cancelled deliver nopMode request before s)
      (fun devices =>
        (script (Dispatch.ending cancelled deliver nopMode request devices s)).requests)
      alone addressed sent := by
  cases harrival : Dispatch.arrival cancelled deliver nopMode request before s with
  | none =>
    have hended := Dispatch.ending_append_of_ended harrival
    refine ⟨[], ⟨?_, ?_, fun _ => rfl, nofun, nofun⟩⟩
    · rw [hended, List.append_nil]
    · simp only [hended, List.append_nil, List.prefix_rfl]
  | some s₁ =>
    have hs₁ := Dispatch.not_cancelled_of_arrival harrival
    have hscript : (script s₁).cancelled = false := by
      rw [← hc]
      simpa using hs₁
    obtain ⟨sent, hfor, hsent⟩ := h.exists_sent hscript token nopMode
    have happend := Dispatch.ending_append_of_arrival harrival
    have hbefore := Dispatch.ending_of_arrival harrival
    refine ⟨sent, ⟨?_, ?_, nofun, ?_, ?_⟩⟩
    · rw [happend, hbefore, Dispatch.ending_singleton hs₁, hsent]
    · rw [happend, hbefore, Dispatch.ending_cons hs₁, ← hsent]
      split
      · exact h.isPrefix_ending hc after _
      · exact List.prefix_rfl
    · rintro _ ⟨⟩
      exact halone s₁ sent hscript hfor
    · intro q hq
      obtain ⟨k, hk⟩ := hfor.exists_plan hq
      exact haddressed s₁ k q hk

/-- A push for one device alone sends the same on another network with the same replies. -/
theorem Plans.requests_ending (h : Plans script maxAttempts plan (deliver request))
    (hc : ∀ s, cancelled s = (script s).cancelled) {token : String} {sent : List Request}
    {start : Script} (hstart : start.cancelled = false) (hsame : SameReplies start (script s))
    (hsent : SentFor nopMode token maxAttempts (plan token s) start sent) :
    (script (Dispatch.ending cancelled deliver nopMode request [token] s)).requests =
      (script s).requests ++ sent := by
  have hs : (script s).cancelled = false := hsame.1 ▸ hstart
  obtain ⟨sent', hfor, hsent'⟩ := h.exists_sent hs token nopMode
  rw [Dispatch.ending_singleton (by rw [hc, hs]; nofun), hsent', hsent.unique hfor hsame]

end Push

/-! ## Pushes -/

theorem gcm_plans (c : Gcm.Client) (r : Gcm.Request) :
    Plans id c.retries (fun token _ _ => (c.requestTo r token).outgoing)
      (c.deliver Script.wire r) := by
  intro token s hs
  have hsends := sends_of_runs Gcm.service_reads.faithful (runs_wire (c.requestTo r token) s) hs
    c.retries
  rw [c.deliver_state]
  exact ⟨_, hsends.least, hsends.sent⟩

theorem apns_plans (c : Apns.Client) (r : Apns.Request) :
    Plans id c.retries (fun token _ _ => (c.request r token).outgoing)
      (c.deliver Script.wire r) := by
  intro token s hs
  have hsends := sends_of_runs Apns.service_faithful (runs_wire (c.request r token) s) hs c.retries
  rw [c.deliver_state]
  exact ⟨_, hsends.least, hsends.sent⟩

theorem fcm_plans (c : Fcm.Client) (t : Tokens τ) (m : Fcm.Message) :
    Plans Prod.fst c.retries (fun token s => c.plan t { m with token := token } s.2)
      (c.deliver Script.wireBeside t.beside m) := by
  intro token s hs
  have hsends := sends_of_runs Fcm.service_reads.faithful
    (c.runs t { m with token := token } s.1 s.2) hs c.retries
  rw [c.deliver_state]
  exact ⟨_, hsends.least, hsends.sent⟩

/-- The requests that were sent when a push for some devices ends. -/
def pushed (cancelled : σ → Bool) (deliver : R → String → σ → Verdict × σ) (script : σ → Script)
    (converted : Except ConversionError (Converted R)) (nopMode : Bool) (s : σ)
    (devices : List String) : List Request :=
  (script (Dispatch.serve cancelled deliver ⟨devices, converted, nopMode⟩ s).2).requests

theorem pushed_eq {cancelled : σ → Bool} {deliver : R → String → σ → Verdict × σ}
    {script : σ → Script} {converted : Except ConversionError (Converted R)} {request : R}
    (h : converted = .ok (.send request)) (nopMode : Bool) (s : σ) :
    pushed cancelled deliver script converted nopMode s = fun devices =>
      (script (Dispatch.ending cancelled deliver nopMode request devices s)).requests := by
  funext devices
  rw [pushed, Dispatch.serve_ending h]

/-- What a push through Apple's service sends for one of its devices: the converted payload, with
    the token in the path only. -/
def ApnsIsolated (c : Apns.Client)
    (converted : Except ConversionError (Converted Apns.Request)) (r : Apns.Request)
    (nopMode : Bool) (before after : List String) (token : String) (s : Script) : Prop :=
  let deliver := c.deliver Script.wire
  let push := pushed Script.wire.cancelled deliver id converted nopMode
  ∃ sent, Isolated before after token
    (Dispatch.arrival Script.wire.cancelled deliver nopMode r before s) (push s)
    (fun s₁ sent => ∀ s', SameReplies s₁ s' → push s' [token] = s'.requests ++ sent)
    (fun q => q.url = c.url token ∧ q.headers = r.headers ∧ q.body = .json r.payload) sent

/-- What a push through the legacy Google service sends for one of its devices: the converted
    envelope, with the token for its recipient and the flag of the client. -/
def GcmIsolated (c : Gcm.Client) (converted : Except ConversionError (Converted Gcm.Request))
    (r : Gcm.Request) (nopMode : Bool) (before after : List String) (token : String) (s : Script) :
    Prop :=
  let deliver := c.deliver Script.wire
  let push := pushed Script.wire.cancelled deliver id converted nopMode
  ∃ sent, Isolated before after token
    (Dispatch.arrival Script.wire.cancelled deliver nopMode r before s) (push s)
    (fun s₁ sent => ∀ s', SameReplies s₁ s' → push s' [token] = s'.requests ++ sent)
    (fun q => q.url = c.url ∧
      q.body = .json { r with recipient := token, dryRun := c.dryRun }.toJson) sent

/-- What a push through Firebase sends for one of its devices: the converted message with the token,
    and the flag of the client. The push for that device alone may get its bearer tokens from
    elsewhere, if only each attempt gets the same. -/
def FcmIsolated (c : Fcm.Client) (t : Tokens τ)
    (converted : Except ConversionError (Converted Fcm.Message)) (m : Fcm.Message)
    (nopMode : Bool) (before after : List String) (token : String) (s : Script × τ) : Prop :=
  let push {τ : Type} (t : Tokens τ) := pushed Script.wireBeside.cancelled
    (c.deliver Script.wireBeside t.beside) Prod.fst converted nopMode
  ∃ sent, Isolated before after token
    (Dispatch.arrival Script.wireBeside.cancelled (c.deliver Script.wireBeside t.beside) nopMode m
      before s) (push t s)
    (fun s₁ sent => ∀ (τ' : Type) (t' : Tokens τ') (s' : Script × τ'), SameReplies s₁.1 s'.1 →
      (∀ k, resultAt t.get s₁.2 k = resultAt t'.get s'.2 k) →
      push t' s' [token] = s'.1.requests ++ sent)
    (fun q => q.url = c.url ∧ q.body = .json (.obj ((if c.validateOnly
      then [("validate_only", .bool true)] else []) ++
        [("message", Fcm.Message.toJson { m with token := token })]))) sent

variable (nopMode : Bool) (before after : List String) (token : String)

theorem apns_isolated {converted : Except ConversionError (Converted Apns.Request)}
    {r : Apns.Request} (hr : converted = .ok (.send r)) (c : Apns.Client) (s : Script) :
    ApnsIsolated c converted r nopMode before after token s := by
  have hplans := apns_plans c r
  simp only [ApnsIsolated, pushed_eq hr]
  refine hplans.exists_isolated (fun _ => rfl) before after token s ?_ ?_
  · intro s₁ sent hs₁ hsent s' hsame
    exact hplans.requests_ending (fun _ => rfl) hs₁ hsame hsent
  · intro s₁ k q hq
    rw [Http.Request.eq_of_outgoing hq]
    exact ⟨rfl, rfl, rfl⟩

theorem gcm_isolated {n : Notification} {policy : Policy} {r : Gcm.Request}
    (hr : Gcm.convert n policy = .ok (.send r)) (c : Gcm.Client) (s : Script) :
    GcmIsolated c (Gcm.convert n policy) r nopMode before after token s := by
  have hplans := gcm_plans c r
  simp only [GcmIsolated, pushed_eq hr]
  refine hplans.exists_isolated (fun _ => rfl) before after token s ?_ ?_
  · intro s₁ sent hs₁ hsent s' hsame
    exact hplans.requests_ending (fun _ => rfl) hs₁ hsame hsent
  · intro s₁ k q hq
    rw [Http.Request.eq_of_outgoing hq, Gcm.Client.requestTo, Gcm.dryRun_of_convert hr]
    exact ⟨rfl, rfl⟩

theorem fcm_isolated {converted : Except ConversionError (Converted Fcm.Message)}
    {m : Fcm.Message} (hm : converted = .ok (.send m)) (c : Fcm.Client) (t : Tokens τ)
    (s : Script × τ) : FcmIsolated c t converted m nopMode before after token s := by
  simp only [FcmIsolated, pushed_eq hm]
  refine (fcm_plans c t m).exists_isolated (fun _ => rfl) before after token s ?_ ?_
  · intro s₁ sent hs₁ hsent τ' t' s' hsame hbearer
    have hplan : c.plan t { m with token := token } s₁.2 =
        c.plan t' { m with token := token } s'.2 := by
      funext k
      rw [Fcm.Client.plan, hbearer, Fcm.Client.plan]
    rw [hplan] at hsent
    exact (fcm_plans c t' m).requests_ending (fun _ => rfl) hs₁ hsame hsent
  · intro s₁ k q hq
    obtain ⟨bearer, -, hq⟩ := Attempt.exists_of_bind_answered hq
    rw [Http.Request.eq_of_outgoing hq]
    exact ⟨rfl, rfl⟩

/-- The devices of a push do not influence each other's requests. For each of them the push sends
    what a push for it alone would send where the same replies are left, and every request carries
    what came of the conversion, with nothing but the token and the flag of the client filled in.
    That flag is set exactly in the sandbox. -/
theorem push_isolates (n : Notification) (policy : Policy) :
    (∀ (c : Apns.Client) (now : Moment) (r : Apns.Request),
      Apns.convert n policy c.capabilities now = .ok (.send r) → ∀ s,
      ApnsIsolated c (Apns.convert n policy c.capabilities now) r nopMode before after token s) ∧
    (∀ (c : Gcm.Client) (r : Gcm.Request), Gcm.convert n policy = .ok (.send r) →
      ∀ s, GcmIsolated c (Gcm.convert n policy) r nopMode before after token s) ∧
    (∀ (τ : Type) (c : Fcm.Client) (t : Tokens τ) (m : Fcm.Message),
      Fcm.convert n policy = .ok (.send m) →
      ∀ s, FcmIsolated c t (Fcm.convert n policy) m nopMode before after token s) ∧
    (∀ endpoint o, ClientOptions.new policy endpoint = .ok o → o.sandbox = policy.sandbox) ∧
    (∀ (o : ClientOptions) key c, Gcm.Client.ofKey key o = .ok c → c.dryRun = o.sandbox) ∧
    (∀ (o : ClientOptions) project c, Fcm.Client.ofProject project o = .ok c →
      c.validateOnly = o.sandbox) :=
  ⟨fun c _ _ hr s => apns_isolated nopMode before after token hr c s,
    fun c _ hr s => gcm_isolated nopMode before after token hr c s,
    fun _ c t _ hm s => fcm_isolated nopMode before after token hm c t s,
    fun _ _ h => ClientOptions.sandbox_of_new h, fun _ _ _ h => Gcm.Client.dryRun_of_ofKey h,
    fun _ _ _ h => Fcm.Client.validateOnly_of_ofProject h⟩

/-- A push for three devices, the second of which is attempted twice, in the sandbox. -/
theorem push_isolates_three :
    let n : Notification := { payload := some (.alerting { title := "news" }), sequence := 7 }
    let policy : Policy := { allowAlerts := true, sandbox := true }
    let endpoint : Url := ⟨true, "", "push.example", none, [""], none, none⟩
    let s : Script := { exchanges := [.reply { status := .ok }, .silent] }
    let now : Moment := ⟨0, 0, by decide⟩
    let o : ClientOptions := ⟨true, 2, some endpoint⟩
    let apns : Apns.Client := ⟨endpoint, 2, {}⟩
    let gcm : Gcm.Client := ⟨endpoint, 2, true, "key"⟩
    let fcm : Fcm.Client := ⟨endpoint, "project", 2, true⟩
    let t : Tokens Unit :=
      ⟨fun _ => now, fun _ => none, fun _ q => q, fun q => (.answered ⟨"v", "Bearer", now⟩, q)⟩
    (∃ r, Apns.convert n policy apns.capabilities now = .ok (.send r) ∧
      ApnsIsolated apns (Apns.convert n policy apns.capabilities now) r false ["a"] ["c"] "b" s) ∧
    (∃ r, Gcm.convert n policy = .ok (.send r) ∧
      GcmIsolated gcm (Gcm.convert n policy) r false ["a"] ["c"] "b" s) ∧
    (∃ m, Fcm.convert n policy = .ok (.send m) ∧
      FcmIsolated fcm t (Fcm.convert n policy) m false ["a"] ["c"] "b" (s, ())) ∧
    (pushed Script.wire.cancelled (gcm.deliver Script.wire) id (Gcm.convert n policy) false s
      ["a", "b", "c"]).length = 4 ∧
    (∃ o, ClientOptions.new policy none = .ok o ∧ o.sandbox = policy.sandbox) ∧
    Gcm.Client.ofKey "key" o = .ok gcm ∧ gcm.dryRun = o.sandbox ∧
    Fcm.Client.ofProject "project" o = .ok fcm ∧ fcm.validateOnly = o.sandbox := by
  intro n policy endpoint s now o apns gcm fcm t
  have h := push_isolates false ["a"] ["c"] "b" n policy
  have hkey : Gcm.Client.ofKey "key" o = .ok gcm := by
    rw [Gcm.Client.ofKey, if_pos (by decide +kernel)]
    rfl
  have hproject : Fcm.Client.ofProject "project" o = .ok fcm := rfl
  exact ⟨⟨_, rfl, h.1 apns now _ rfl s⟩, ⟨_, rfl, h.2.1 gcm _ rfl s⟩,
    ⟨_, rfl, h.2.2.1 Unit fcm t _ rfl (s, ())⟩, by decide +kernel,
    ⟨_, rfl, h.2.2.2.1 none _ rfl⟩, hkey, h.2.2.2.2.1 _ _ _ hkey, hproject,
    h.2.2.2.2.2 _ _ _ hproject⟩

end Delivery

end Courier
