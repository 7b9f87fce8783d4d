import Courier.Proofs.Delivery.Fcm
import Courier.Proofs.Dispatch.Crashed

/-!
# Clocks that run over

A bearer token is kept with the time at which it ends, and it is fresh if that is more than a minute
away. Both times are added up without a look at what a clock can show. So a token endpoint that
grants a token for long enough crashes the delivery that asked for it, and with it the push: the
device and all devices after it get no outcome.

Results:

* `OAuth.fetch_granted_or_failed`: a fetch is as good as the grant that it gets.
* `OAuth.fetch_crashed_iff`: which grants crash a fetch.
* `Fcm.get_crashed_iff`: when getting a token crashes.
* `Fcm.Client.deliver_crashed_iff`: when a delivery crashes.
* `Fcm.Client.deliver_ne_cutOff`: a network that nobody disturbs cuts no delivery off.
* `Fcm.push_crashes`: what a clock that runs over does to tokens, deliveries and pushes.
* `Fcm.not_push_survives`: a token endpoint can make a clock run over.
-/

namespace Courier

open Http (Attempt Exchange Reply Request Wire)
open OAuth (AccessToken Grant ServiceAccount Tokens expiryMargin)

variable {σ : Type}

/-! ## Clocks -/

/-- Whether no clock can show the time so many seconds later. -/
def Moment.RunsOver (t : Moment) (seconds : Nat) : Prop := lastSecond < t.seconds + seconds

theorem Moment.later?_eq_none_iff (t : Moment) (n : Nat) : t.later? n = none ↔ t.RunsOver n := by
  rw [← Option.not_isSome_iff_eq_none, later?_isSome_iff, RunsOver, Int.not_le]

theorem Moment.later?_of_not_runsOver {t : Moment} {n : Nat} (h : ¬ t.RunsOver n) :
    t.later? n = some (t.later n) :=
  if_pos (Int.not_lt.1 h)

/-! ## Verdicts -/

namespace Service

variable {α : Type} {v : Service α} {last : Attempt Reply}

theorem verdict_crashed_iff (h : v.Faithful) : v.verdict last = .crashed ↔ last = .crashed := by
  constructor
  · intro hv
    refine Classical.byContradiction fun hlast => ?_
    rcases delivered_or_failed h hlast with hd | ⟨e, he⟩
    · cases hv.symm.trans hd
    · cases hv.symm.trans he
  · rintro rfl
    rfl

/-- No reply cuts a send off. -/
theorem verdict_cutOff (h : v.Faithful) (hjudge : ∀ a, v.classify a ≠ .error (.send .cancelled))
    (hcut : v.verdict last = .cutOff) : last = .failed .cancelled := by
  rw [verdict_eq_judge h] at hcut
  cases last with
  | failed e =>
    cases hcut
    rfl
  | crashed => cases hcut
  | answered reply =>
    rw [judge] at hcut
    split at hcut
    · cases hcut
    · split at hcut
      · cases hcut
      · cases hd : v.decode reply with
        | answered a =>
          rw [hd] at hcut
          exact absurd (ofResult_eq_failed.1 hcut) (hjudge a)
        | failed e =>
          rw [hd] at hcut
          cases hcut
          cases h.failed hd
        | crashed => exact absurd hd (h.survives reply)

end Service

/-! ## Networks that nobody disturbs -/

/-- Whether nobody cancels, neither before a request nor while its reply is awaited. -/
structure Http.Wire.IsUndisturbed (w : Wire σ) : Prop where
  cancelled : ∀ s, w.cancelled s = false
  post : ∀ request s, (w.post request s).1 ≠ .interrupted

theorem Http.Wire.IsUndisturbed.send_ne {w : Wire σ} (h : w.IsUndisturbed) (request : Request)
    (s : σ) : (w.send request s).1 ≠ .interrupted := by
  rw [Wire.send, h.cancelled s, if_neg Bool.false_ne_true]
  cases request.sendable with
  | true => exact h.post request s
  | false =>
    intro hbroken
    cases hbroken

theorem Http.Wire.IsUndisturbed.send_of_sendable {w : Wire σ} (h : w.IsUndisturbed)
    {request : Request} (hsendable : request.sendable = true) (s : σ) :
    w.send request s = w.post request s := by
  rw [Wire.send, h.cancelled s, if_neg Bool.false_ne_true, if_pos hsendable]

theorem Http.Wire.IsUndisturbed.exchange_ne {w : Wire σ} (h : w.IsUndisturbed) (request : Request)
    (s : σ) : (w.exchange request s).1 ≠ .failed .cancelled := by
  show (w.send request s).1.attempt ≠ _
  cases hx : (w.send request s).1 with
  | interrupted => exact absurd hx (h.send_ne request s)
  | reply _ | cut _ | broken | silent => nofun

/-! ## Tokens -/

namespace OAuth

/-- Whether a token endpoint answers the request of an account with a grant. -/
def ServiceAccount.Granted (a : ServiceAccount) (w : Wire σ) (s : σ) (g : Grant) : Prop :=
  ∃ request, a.tokenRequest = .ok request ∧
    Grant.ofExchange (w.send request s).1 = .answered g

theorem ServiceAccount.sendable_request (a : ServiceAccount) (url : Url) :
    (a.request url).sendable = true := by
  have hform : Http.isSendable "application/x-www-form-urlencoded" = true := by decide +kernel
  simp only [Request.sendable, request, List.all_cons, List.all_nil, Http.HeaderValue.sendable,
    hform, Bool.and_true]

theorem ServiceAccount.tokenRequest_of_signed (a : ServiceAccount) {url : Url}
    (hsigned : a.signingFault? = none) (hurl : Url.parse a.tokenUri = .ok (some url)) :
    a.tokenRequest = .ok (a.request url) := by
  rw [tokenRequest, hsigned, hurl]

theorem ofExchange_of_read {r : Reply} {g : Grant} (hstatus : r.status.isSuccess = true)
    (hread : (Json.Document.parse? r.body).bind Grant.ofDocument? = some g) :
    Grant.ofExchange (.reply r) = .answered g := by
  show Grant.ofAnswer r.status (some r.body) = _
  rw [Grant.ofAnswer, if_pos hstatus, Option.bind_some, hread]

/-- Asking a token endpoint never crashes, and is only cancelled by an interruption. -/
theorem Grant.ofExchange_answered_or_failed (x : Exchange) :
    (∃ g, Grant.ofExchange x = .answered g) ∨
      ∃ e, Grant.ofExchange x = .failed e ∧ (e = .cancelled → x = .interrupted) := by
  have hanswer : ∀ status body, (∃ g, Grant.ofAnswer status body = .answered g) ∨
      ∃ e, Grant.ofAnswer status body = .failed e ∧ (e = .cancelled → x = .interrupted) := by
    intro status body
    refine (Fcm.ofAnswer_answered_or_failed status body).imp_right ?_
    rintro ⟨text, htext⟩
    exact ⟨_, htext, nofun⟩
  cases x with
  | reply r => exact hanswer r.status (some r.body)
  | cut status => exact hanswer status none
  | broken | silent => exact .inr ⟨_, rfl, nofun⟩
  | interrupted => exact .inr ⟨_, rfl, fun _ => rfl⟩

variable {a : ServiceAccount} {w : Wire σ} {now : σ → Moment} {s : σ}

theorem ServiceAccount.Granted.unique {g h : Grant} (hg : a.Granted w s g) (hh : a.Granted w s h) :
    g = h := by
  obtain ⟨request, hrequest, hg⟩ := hg
  obtain ⟨request', hrequest', hh⟩ := hh
  cases hrequest.symm.trans hrequest'
  cases hg.symm.trans hh
  rfl

/-- A fetch is as good as the grant that it gets, and fails if it gets none. -/
theorem fetch_granted_or_failed (a : ServiceAccount) (w : Wire σ) (now : σ → Moment) (s : σ) :
    (∃ g, a.Granted w s g ∧ (a.fetch w now s).1 = g.token (now s)) ∨
      (∀ g, ¬ a.Granted w s g) ∧
        ∃ e, (a.fetch w now s).1 = .failed e ∧ (w.IsUndisturbed → e ≠ .cancelled) := by
  unfold ServiceAccount.fetch
  split
  · rename_i request hrequest
    show (∃ g, a.Granted w s g ∧
        (Grant.ofExchange (w.send request s).1).bind (·.token (now s)) = _) ∨ _ ∧
      ∃ e, (Grant.ofExchange (w.send request s).1).bind (·.token (now s)) = _ ∧ _
    rcases Grant.ofExchange_answered_or_failed (w.send request s).1 with
      ⟨g, hg⟩ | ⟨e, he, hcancelled⟩
    · rw [hg]
      exact .inl ⟨g, ⟨request, hrequest, hg⟩, rfl⟩
    · rw [he]
      refine .inr ⟨?_, e, rfl, fun hw h => hw.send_ne _ s (hcancelled h)⟩
      rintro g ⟨request', hrequest', hg⟩
      cases hrequest.symm.trans hrequest'
      cases he.symm.trans hg
  · rename_i error hrequest
    refine .inr ⟨?_, error, rfl, fun _ => (Fcm.tokenRequest_error hrequest).2.2⟩
    rintro g ⟨request, hsome, -⟩
    cases hrequest.symm.trans hsome

/-- A grant becomes a token, if a clock can show its end. -/
theorem fetch_of_granted {g : Grant} (h : a.Granted w s g) :
    (a.fetch w now s).1 = g.token (now s) := by
  rcases fetch_granted_or_failed a w now s with ⟨g', hg', hfetch⟩ | ⟨hnone, -⟩
  · rw [hfetch, h.unique hg']
  · exact absurd h (hnone g)

theorem Grant.token_crashed_iff (g : Grant) (requestedAt : Moment) :
    g.token requestedAt = .crashed ↔ requestedAt.RunsOver g.expiresIn := by
  rw [← Moment.later?_eq_none_iff, Grant.token]
  cases requestedAt.later? g.expiresIn <;> simp

/-- A fetch crashes exactly on a grant whose end no clock can show. -/
theorem fetch_crashed_iff :
    (a.fetch w now s).1 = .crashed ↔ ∃ g, a.Granted w s g ∧ (now s).RunsOver g.expiresIn := by
  constructor
  · intro hcrash
    rcases fetch_granted_or_failed a w now s with ⟨g, hg, hfetch⟩ | ⟨-, e, he, -⟩
    · exact ⟨g, hg, (g.token_crashed_iff _).1 (hfetch.symm.trans hcrash)⟩
    · cases hcrash.symm.trans he
  · rintro ⟨g, hg, hover⟩
    rw [fetch_of_granted hg, g.token_crashed_iff]
    exact hover

theorem fetch_ne_cancelled (hw : w.IsUndisturbed) : (a.fetch w now s).1 ≠ .failed .cancelled := by
  intro hfail
  rcases fetch_granted_or_failed a w now s with ⟨g, -, hfetch⟩ | ⟨-, e, he, hcancelled⟩
  · exact Fcm.token_ne_failed g (now s) .cancelled (hfetch.symm.trans hfail)
  · cases hfail.symm.trans he
    exact hcancelled hw rfl

theorem AccessToken.isFresh?_eq_none_iff (token : AccessToken) (t : Moment) :
    token.isFresh? t = none ↔ t.RunsOver expiryMargin := by
  rw [isFresh?, Option.map_eq_none_iff, Moment.later?_eq_none_iff]

end OAuth

namespace Fcm

/-- Getting a token crashes exactly if no clock can tell whether the one in the slot is fresh, or if
    that is stale and a fetch crashes. -/
theorem get_crashed_iff {t : Tokens σ} {s : σ} :
    (t.get s).1 = .crashed ↔
      ((∃ token, t.load s = some token) ∧ (t.now s).RunsOver expiryMargin) ∨
      (∀ token, t.load s = some token → token.isFresh? (t.now s) = some false) ∧
        (t.fetch s).1 = .crashed := by
  unfold Tokens.get
  cases t.load s with
  | none => simp [refresh_fst]
  | some token =>
    have hnone := token.isFresh?_eq_none_iff (t.now s)
    cases hfresh : token.isFresh? (t.now s) with
    | none => simp_all
    | some fresh => cases fresh <;> simp_all [refresh_fst]

/-! ## Deliveries -/

theorem Client.transport_crashed_iff {c : Client} {w : Wire σ} {t : Tokens σ} {m : Message}
    {s : σ} :
    (c.transport w t m s).1 = .crashed ↔ w.cancelled s = false ∧ (t.get s).1 = .crashed := by
  unfold transport bearer
  cases hcancelled : w.cancelled s with
  | true => simp
  | false =>
    simp only [Bool.false_eq_true, if_false, true_and]
    obtain ⟨a, s'⟩ := t.get s
    cases a with
    | answered token => simp [w.exchange_ne_crashed]
    | failed e => simp
    | crashed => simp

/-- A delivery crashes exactly if the last of its attempts crashes as it gets a token. -/
theorem Client.deliver_crashed_iff (c : Client) (w : Wire σ) (t : Tokens σ) (m : Message)
    (token : String) (s : σ) :
    ∃ k, Retry.IsLast c.retries Reply.status (c.transport w t { m with token := token }) s k ∧
      ((c.deliver w t m token s).1 = .crashed ↔
        w.cancelled (Retry.stateAt (c.transport w t { m with token := token }) s k) = false ∧
          (t.get (Retry.stateAt (c.transport w t { m with token := token }) s k)).1 =
            .crashed) := by
  refine ⟨_, Retry.isLast_last .., ?_⟩
  rw [c.deliver_verdict, Service.verdict_crashed_iff service_reads.faithful]
  exact transport_crashed_iff

theorem classify_ne_cancelled (a : Response) : classify a ≠ .error (.send .cancelled) := by
  unfold classify
  split
  · split <;> nofun
  · split
    · split <;> nofun
    · nofun

/-- A network that nobody disturbs cuts no transport off. -/
theorem Client.transport_ne_cancelled {c : Client} {account : ServiceAccount} {w : Wire σ}
    (hw : w.IsUndisturbed) (t : Tokens σ) (m : Message) (s : σ) :
    (c.transport w (accountTokens account w t) m s).1 ≠ .failed .cancelled := by
  intro hfail
  unfold transport at hfail
  split at hfail
  · exact hw.exchange_ne _ _ hfail
  · rename_i e s' hb
    cases hfail
    rw [bearer, hw.cancelled s, if_neg Bool.false_ne_true] at hb
    exact OAuth.fetch_ne_cancelled hw (get_failed_iff.1 (congrArg Prod.fst hb)).2
  · cases hfail

/-- A network that nobody disturbs cuts no delivery off. -/
theorem Client.deliver_ne_cutOff {c : Client} {account : ServiceAccount} {w : Wire σ}
    (hw : w.IsUndisturbed) (t : Tokens σ) (m : Message) (token : String) (s : σ) :
    (c.deliver w (accountTokens account w t) m token s).1 ≠ .cutOff := by
  intro hcut
  rw [c.deliver_verdict] at hcut
  exact Client.transport_ne_cancelled hw t _ _
    (Service.verdict_cutOff service_reads.faithful classify_ne_cancelled hcut)

/-! ## An endless grant -/

/-- The reply with a grant for as long as a grant can say. -/
def endlessReply : Reply where
  status := .ok
  body := Utf8.encode "\x7b\"access_token\":\"a\",\"expires_in\":18446744073709551615\x7d"

/-- A network on which every request gets that reply. -/
def endlessWire : Wire Unit where
  cancelled _ := false
  post _ s := (.reply endlessReply, s)

/-- An account with a token endpoint on its own machine. -/
def localAccount : ServiceAccount where
  projectId := "demo"
  clientEmail := "push@demo.iam"
  privateKey := ""
  tokenUri := "http://[::1]/oauth"

/-- A clock that stands at the epoch, and a slot that is always empty. -/
def emptySlot : Tokens Unit := ⟨fun _ => default, fun _ => none, fun _ => id, default⟩

theorem exists_url_of_isSome {parsed : Except Url.ParseError (Option Url)}
    (h : parsed.toOption.join.isSome = true) : ∃ url, parsed = .ok (some url) := by
  rcases parsed with e | (_ | url)
  · cases h
  · cases h
  · exact ⟨url, rfl⟩

theorem isUndisturbed_endlessWire : endlessWire.IsUndisturbed := ⟨fun _ => rfl, nofun⟩

theorem granted_endlessWire :
    localAccount.Granted endlessWire () ⟨"a", "Bearer", 18446744073709551615⟩ := by
  have hparsed : (Url.parse localAccount.tokenUri).toOption.join.isSome = true := by
    decide +kernel
  obtain ⟨url, hurl⟩ := exists_url_of_isSome hparsed
  have hgrant : (Json.Document.parse? endlessReply.body).bind Grant.ofDocument? =
      some ⟨"a", "Bearer", 18446744073709551615⟩ := by
    decide +kernel
  have hsent : (endlessWire.send (localAccount.request url) ()).1 = .reply endlessReply := by
    rw [isUndisturbed_endlessWire.send_of_sendable (localAccount.sendable_request url) ()]
    rfl
  refine ⟨_, localAccount.tokenRequest_of_signed rfl hurl, ?_⟩
  rw [hsent]
  exact OAuth.ofExchange_of_read rfl hgrant

/-! ## Pushes -/

/-- Whether a clock runs over when an account gets a token. -/
def Overruns (account : ServiceAccount) (w : Wire σ) (t : Tokens σ) (s : σ) : Prop :=
  ((∃ token, t.load s = some token) ∧ (t.now s).RunsOver expiryMargin) ∨
  (∀ token, t.load s = some token → token.isFresh? (t.now s) = some false) ∧
    ∃ g, account.Granted w s g ∧ (t.now s).RunsOver g.expiresIn

theorem accountTokens_crashed_iff {account : ServiceAccount} {w : Wire σ} {t : Tokens σ} {s : σ} :
    ((accountTokens account w t).get s).1 = .crashed ↔ Overruns account w t s := by
  rw [get_crashed_iff, accountTokens, OAuth.fetch_crashed_iff]
  rfl

/-- What a clock that runs over does to the tokens of an account, to deliveries and to pushes. -/
structure Crashes (c : Client) (account : ServiceAccount) (w : Wire σ) (t : Tokens σ) : Prop where
  /-- A grant whose end a clock can show becomes a token that ends then. -/
  granted : ∀ s g, account.Granted w s g → ¬ (t.now s).RunsOver g.expiresIn →
    (account.fetch w t.now s).1 =
      .answered ⟨g.accessToken, g.tokenType, (t.now s).later g.expiresIn⟩
  /-- Any other grant crashes the fetch. -/
  overrun : ∀ s g, account.Granted w s g → (t.now s).RunsOver g.expiresIn →
    (account.fetch w t.now s).1 = .crashed
  /-- Without a grant the fetch fails. -/
  refused : ∀ s, (∀ g, ¬ account.Granted w s g) → ∃ e, (account.fetch w t.now s).1 = .failed e
  /-- Whether a token is fresh can be told unless a clock runs over in the next minute. -/
  fresh : ∀ (token : AccessToken) s,
    token.isFresh? (t.now s) = none ↔ (t.now s).RunsOver expiryMargin
  /-- A delivery crashes exactly if the clock runs over in the last of its attempts. -/
  deliver : ∀ m token s,
    let attempt := c.transport w (accountTokens account w t) { m with token := token }
    ∃ k, Retry.IsLast c.retries Reply.status attempt s k ∧
      ((c.deliver w (accountTokens account w t) m token s).1 = .crashed ↔
        w.cancelled (Retry.stateAt attempt s k) = false ∧
          Overruns account w t (Retry.stateAt attempt s k))
  /-- If the clock never runs over, no delivery of a push crashes. -/
  survives : (∀ s, ¬ Overruns account w t s) →
    ∀ job s, Dispatch.Job.crash? job (c.deliver w (accountTokens account w t)) s = none
  /-- If no delivery of a push crashes, every device gets its outcome. -/
  complete : w.IsUndisturbed → ∀ job s,
    let deliver := c.deliver w (accountTokens account w t)
    job.crash? deliver s = none →
      Dispatch.outcomes (Dispatch.serve w.cancelled deliver job s).1 =
        job.outcomes (job.verdicts deliver s)
  /-- If one crashes, only the devices before it get theirs. -/
  crashed : w.IsUndisturbed → ∀ job s i,
    let deliver := c.deliver w (accountTokens account w t)
    job.crash? deliver s = some i →
      i < job.devices.length ∧
      (job.outcomes (job.verdicts deliver s)).length = job.devices.length ∧
      Dispatch.outcomes (Dispatch.serve w.cancelled deliver job s).1 =
        (job.outcomes (job.verdicts deliver s)).take i

/-- A clock that runs over crashes a fetch, the delivery that needs it and the push that it belongs
    to, and nothing else in getting a token does. -/
theorem push_crashes (c : Client) (account : ServiceAccount) (w : Wire σ) (t : Tokens σ) :
    Crashes c account w t where
  granted := by
    intro s g hg hover
    rw [OAuth.fetch_of_granted hg, Grant.token, Moment.later?_of_not_runsOver hover]
  overrun := fun s g hg hover => OAuth.fetch_crashed_iff.2 ⟨g, hg, hover⟩
  refused := by
    intro s hnone
    rcases OAuth.fetch_granted_or_failed account w t.now s with ⟨g, hg, -⟩ | ⟨-, e, he, -⟩
    · exact absurd hg (hnone g)
    · exact ⟨e, he⟩
  fresh := fun token s => token.isFresh?_eq_none_iff (t.now s)
  deliver := by
    intro m token s
    obtain ⟨k, hlast, hk⟩ := c.deliver_crashed_iff w (accountTokens account w t) m token s
    rw [accountTokens_crashed_iff] at hk
    exact ⟨k, hlast, hk⟩
  survives := by
    intro hnever job s
    rw [job.crash?_eq_none_iff]
    refine job.not_mem_answers (fun m token s hcrash => ?_) s
    obtain ⟨k, -, hk⟩ := c.deliver_crashed_iff w (accountTokens account w t) m token s
    exact hnever _ (accountTokens_crashed_iff.1 (hk.1 hcrash).2)
  complete := by
    intro hw job s deliver hcrash
    have hcut : .cutOff ∉ job.answers deliver s :=
      job.not_mem_answers (fun m token s => Client.deliver_ne_cutOff hw t m token s) s
    rw [funext hw.cancelled]
    exact Dispatch.serve_outcomes hcut hcrash
  crashed := by
    intro hw job s i deliver hcrash
    have hcut : .cutOff ∉ job.answers deliver s :=
      job.not_mem_answers (fun m token s => Client.deliver_ne_cutOff hw t m token s) s
    obtain ⟨hlt, hlength⟩ := Dispatch.Job.length_outcomes_of_crash hcrash (job.verdicts deliver s)
    rw [funext hw.cancelled]
    exact ⟨hlt, hlength, Dispatch.serve_outcomes_crashed hcut hcrash⟩

/-- A token endpoint can grant a token for so long that nobody gets it: the fetch and the delivery
    crash, and no device of a push gets its outcome. -/
theorem not_push_survives :
    endlessWire.IsUndisturbed ∧
    localAccount.Granted endlessWire () ⟨"a", "Bearer", 18446744073709551615⟩ ∧
    (localAccount.fetch endlessWire emptySlot.now ()).1 = .crashed ∧
    let deliver := (default : Client).deliver endlessWire
      (accountTokens localAccount endlessWire emptySlot)
    (deliver {} "a" ()).1 = .crashed ∧
      Dispatch.outcomes (Dispatch.serve endlessWire.cancelled deliver
        ⟨["a", "b"], .ok (.send {}), false⟩ ()).1 = [] := by
  have hw := isUndisturbed_endlessWire
  have hover : Moment.RunsOver (emptySlot.now ()) 18446744073709551615 := by
    show (2 : Int) ^ 63 - 1 < 0 + 18446744073709551615
    decide
  have hgrant := granted_endlessWire
  refine ⟨hw, hgrant, OAuth.fetch_crashed_iff.2 ⟨_, hgrant, hover⟩, ?_⟩
  intro deliver
  have hdeliver : (deliver {} "a" ()).1 = .crashed := by
    obtain ⟨k, -, hk⟩ := Client.deliver_crashed_iff default endlessWire
      (accountTokens localAccount endlessWire emptySlot) {} "a" ()
    exact hk.2 ⟨rfl, accountTokens_crashed_iff.2 (.inr ⟨nofun, _, hgrant, hover⟩)⟩
  have hcut : ∀ job : Dispatch.Job Message, .cutOff ∉ job.answers deliver () := fun job =>
    job.not_mem_answers (fun m token s => Client.deliver_ne_cutOff hw emptySlot m token s) ()
  have hcrash : Dispatch.Job.crash? ⟨["a", "b"], .ok (.send {}), false⟩ deliver () = some 0 := by
    show Dispatch.crashAmong deliver {} ["a", "b"] () = some 0
    rw [Dispatch.crashAmong, if_neg (by decide), if_pos hdeliver]
  exact ⟨hdeliver, Dispatch.serve_outcomes_crashed (hcut _) hcrash⟩

end Fcm

end Courier
