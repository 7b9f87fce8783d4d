import Courier.Proofs.Delivery.Fcm
import Courier.Proofs.Delivery.Timed
import Courier.Apns.Client
import Courier.Gcm.Client

/-!
# Cancelling a send

A caller may cancel a send at any step: before an attempt, while a bearer token is fetched, while a
request is under way, while a body is read. The send is over with the last attempt that it would
have made. Until then a cancellation stops it, and nothing is started any more; after that nothing
changes.

Results:

* `Retry.send_cutShort`: a send can be cut short if its attempts can.
* `Fcm.Client.post_cutShort`: an attempt that gets a bearer token first can be cut short.
* `Delivery.send_cancelled`: what a cancellation makes of a send, for each push service.
-/

namespace Courier

open Http (Attempt CutShort Paced Request Status Takes Timed Wire fired fired_some)
open OAuth (AccessToken Grant ServiceAccount Tokens)
open Retry (isRetried last lastIndex resultAt settle stateAt)

variable {α σ : Type}

/-! ## Retries -/

namespace Retry

variable {attempt : Option Nat → Timed σ → Attempt α × Timed σ} {overAt : Timed σ → Nat}

theorem run_cutShort (status : α → Status)
    (h : ∀ m s, CutShort (.failed .cancelled) m s (overAt s) (attempt (some m) s) (attempt none s))
    (more m : Nat) (s : Timed σ) :
    CutShort (.failed .cancelled) m s
      (overAt (stateAt (attempt none) s
        (lastIndex (fun n => isRetried status (resultAt (attempt none) s n)) more)))
      (run status (attempt (some m)) more s) (run status (attempt none) more s) := by
  have hstop (more : Nat) {s : Timed σ} (hm : m ≤ overAt s) :
      run status (attempt (some m)) more s = (.failed .cancelled, (attempt (some m) s).2) := by
    have hcut := (h m s).early hm
    rw [run_of_not_retried (by rw [hcut]; rfl), hcut]
    rfl
  induction more generalizing s with
  | zero =>
    exact (h m s).map (f := fun x => (settle status x.1, x.2)) (fun _ => rfl) (fun _ => rfl)
      fun _ => rfl
  | succ more ih =>
    cases hretried : isRetried status (resultAt (attempt none) s 0) with
    | false =>
      have hfull : run status (attempt none) (more + 1) s =
          (settle status (attempt none s).1, (attempt none s).2) := run_of_not_retried hretried _
      rw [lastIndex_of_not_retried hretried]
      refine (h m s).finish (hstop (more + 1)) (fun hlate => ?_) (by rw [hfull]) (by rw [hfull])
      have hsame := (h m s).late hlate
      rw [hfull, run_of_not_retried (by rw [hsame]; exact hretried), hsame]
    | true =>
      have hrun {k : Option Nat} (hk : attempt k s = attempt none s) :
          run status (attempt k) (more + 1) s = run status (attempt k) more (attempt none s).2 := by
        rw [← hk]
        exact if_pos (by rw [hk]; exact hretried)
      rw [lastIndex_of_retried hretried, stateAt_succ, hrun rfl]
      simp only [resultAt_succ]
      have hnext := ih (attempt none s).2
      refine (h m s).append hnext.toTakes (hstop (more + 1)) fun hlate => ?_
      rw [hrun ((h m s).late hlate)]
      exact hnext

/-- A send can be cut short if its attempts can. It is over with the last attempt that it makes if
    nobody cancels. -/
theorem send_cutShort (maxAttempts : Int) (status : α → Status)
    (h : ∀ m s, CutShort (.failed .cancelled) m s (overAt s) (attempt (some m) s) (attempt none s))
    (m : Nat) (s : Timed σ) :
    CutShort (.failed .cancelled) m s
      (overAt (stateAt (attempt none) s (last maxAttempts status (attempt none) s)))
      (send maxAttempts status (attempt (some m)) s) (send maxAttempts status (attempt none) s) :=
  run_cutShort status h (further maxAttempts) m s

end Retry

/-! ## Bearer tokens -/

/-- Bearer tokens on a network with a clock, which are fetched in a certain way. -/
def OAuth.Tokens.timed (t : Tokens σ) (fetch : Timed σ → Attempt AccessToken × Timed σ) :
    Tokens (Timed σ) where
  now s := t.now s.inner
  load s := t.load s.inner
  store token s := { s with inner := t.store token s.inner }
  fetch := fetch

/-- Fetching takes so many steps, unless the caller cancels before. -/
def OAuth.Tokens.fetchUntil (t : Tokens σ) (delay : σ → Nat) (cancelAt : Option Nat)
    (s : Timed σ) : Attempt AccessToken × Timed σ :=
  let (a, inner) := t.fetch s.inner
  let due := s.now + delay s.inner
  if fired cancelAt due then (.failed .cancelled, ⟨inner, due, s.started⟩)
  else (a, ⟨inner, due, s.started⟩)

/-- Whether a token must be fetched. -/
def OAuth.Tokens.isStale (t : Tokens σ) (s : σ) : Bool :=
  (t.load s).all fun token => token.isFresh? (t.now s) == some false

/-- The token in the slot, unless the clock breaks down. -/
def OAuth.Tokens.held (t : Tokens σ) (s : σ) : Attempt AccessToken :=
  match t.load s with
  | some token => if (token.isFresh? (t.now s)).isSome then .answered token else .crashed
  | none => .crashed

theorem OAuth.Tokens.get_eq (t : Tokens σ) (s : σ) :
    t.get s = if t.isStale s then t.refresh s else (t.held s, s) := by
  unfold get isStale held
  cases t.load s with
  | none => rfl
  | some token =>
    cases hfresh : token.isFresh? (t.now s) with
    | none => simp [hfresh]
    | some fresh => cases fresh <;> simp [hfresh]

/-- The step at which getting a token is over: with the fetch if there must be one. -/
def OAuth.Tokens.getOver (t : Tokens σ) (fetchOver : Timed σ → Nat) (s : Timed σ) : Nat :=
  if t.isStale s.inner then fetchOver s else s.now

/-- The step at which the exchange for a token is over; without a request it has failed at once. -/
def OAuth.ServiceAccount.fetchOver (account : ServiceAccount) (net : Paced σ) (s : Timed σ) : Nat :=
  match account.tokenRequest with
  | .ok request => net.overAt request s
  | .error _ => s.now

/-- Whether a way to fetch tokens can be cut short once it is under way. -/
def OAuth.Yields (fetch : Option Nat → Timed σ → Attempt AccessToken × Timed σ)
    (fetchOver : Timed σ → Nat) : Prop :=
  ∀ m s, s.now < m →
    CutShort (.failed .cancelled) m s (fetchOver s) (fetch (some m) s) (fetch none s)

theorem OAuth.Tokens.fetchUntil_yields (t : Tokens σ) (delay : σ → Nat) :
    OAuth.Yields (t.fetchUntil delay) fun s => s.now + delay s.inner := by
  intro m s hm
  have hstarted (k : Option Nat) : (t.fetchUntil delay k s).2.started = s.started := by
    show (if _ then _ else _ : Attempt AccessToken × Timed σ).2.started = _
    split <;> rfl
  exact {
    begins := Nat.le_add_right ..
    ends := Nat.le_refl _
    grows := by simp only [hstarted, List.prefix_rfl]
    early := fun hdue => congrArg Prod.fst (if_pos (fired_some.2 hdue))
    late := fun hlate => if_neg (mt fired_some.1 (Nat.not_le.2 hlate))
    started := ⟨[], by rw [hstarted, List.append_nil], nofun⟩
    fewer := by simp only [hstarted, List.prefix_rfl] }

theorem OAuth.ServiceAccount.fetch_yields (account : ServiceAccount) (net : Paced σ)
    (now : Timed σ → Moment) :
    OAuth.Yields (fun k => account.fetch (net.wire k) now) (account.fetchOver net) := by
  intro m s hm
  unfold ServiceAccount.fetch ServiceAccount.fetchOver
  cases account.tokenRequest with
  | error error => exact .at_once hm _
  | ok request =>
    exact (net.send_cutShort request m s).map
      (f := fun x => ((Grant.ofExchange x.1).bind (·.token (now s)), x.2)) (fun _ => rfl)
      (fun _ => rfl) fun _ => rfl

/-- Puts a token that was fetched into the slot. -/
def OAuth.Tokens.keep (t : Tokens σ) :
    Attempt AccessToken × Timed σ → Attempt AccessToken × Timed σ
  | (.answered token, s) => (.answered token, { s with inner := t.store token s.inner })
  | (.failed error, s) => (.failed error, s)
  | (.crashed, s) => (.crashed, s)

theorem OAuth.Tokens.refresh_timed (t : Tokens σ)
    (fetch : Timed σ → Attempt AccessToken × Timed σ) (s : Timed σ) :
    (t.timed fetch).refresh s = t.keep (fetch s) := by
  rw [refresh, show (t.timed fetch).fetch s = fetch s from rfl]
  rcases fetch s with ⟨a, s⟩
  cases a <;> rfl

section Get

variable {t : Tokens σ} {fetch : Option Nat → Timed σ → Attempt AccessToken × Timed σ}
  {fetchOver : Timed σ → Nat} {m : Nat} {s : Timed σ}

theorem OAuth.Tokens.get_cutShort (h : OAuth.Yields fetch fetchOver) (hm : s.now < m) :
    CutShort (.failed .cancelled) m s (t.getOver fetchOver s)
      ((t.timed (fetch (some m))).get s) ((t.timed (fetch none)).get s) := by
  rw [Tokens.get_eq, Tokens.get_eq, Tokens.getOver]
  show CutShort _ m s _ (if t.isStale s.inner then _ else (_, s))
    (if t.isStale s.inner then _ else (_, s))
  split
  · rw [t.refresh_timed, t.refresh_timed]
    refine (h m s hm).map (fun _ => rfl) ?_ ?_
    · rintro ⟨a, s⟩
      cases a <;> rfl
    · rintro ⟨a, s⟩
      cases a <;> rfl
  · exact .at_once hm _

theorem Fcm.bearer_cutShort (h : OAuth.Yields fetch fetchOver) (net : Paced σ) (m : Nat)
    (s : Timed σ) :
    CutShort (.failed .cancelled) m s (t.getOver fetchOver s)
      (Fcm.bearer (net.wire (some m)) (t.timed (fetch (some m))) s)
      (Fcm.bearer (net.wire none) (t.timed (fetch none)) s) :=
  .guard (OAuth.Tokens.get_cutShort h (Nat.lt_succ_self _)).toTakes (OAuth.Tokens.get_cutShort h)

end Get

/-! ## Attempts -/

section Attempts

variable (net : Paced σ) (m : Nat) (s : Timed σ)

theorem Apns.Client.post_cutShort (c : Apns.Client) (r : Apns.Request) (token : String) :
    CutShort (.failed .cancelled) m s (net.overAt (c.request r token) s)
      (c.post (net.wire (some m)) r token s) (c.post (net.wire none) r token s) :=
  (net.exchange_cutShort (c.request r token) m s).map (f := fun x => (x.1.bind Apns.decode, x.2))
    (fun _ => rfl) (fun _ => rfl) fun _ => rfl

theorem Gcm.Client.post_cutShort (c : Gcm.Client) (r : Gcm.Request) :
    CutShort (.failed .cancelled) m s (net.overAt (c.request r) s)
      (c.post (net.wire (some m)) r s) (c.post (net.wire none) r s) :=
  (net.exchange_cutShort (c.request r) m s).map (f := fun x => (x.1.bind Gcm.decode, x.2))
    (fun _ => rfl) (fun _ => rfl) fun _ => rfl

variable {t : Tokens σ} {fetch : Option Nat → Timed σ → Attempt AccessToken × Timed σ}
  {fetchOver : Timed σ → Nat}

/-- The step at which an attempt is over: with the exchange if there is a bearer token, and without
    one when that is known. -/
def Fcm.Client.overAt (c : Fcm.Client) (net : Paced σ) (t : Tokens σ)
    (fetch : Option Nat → Timed σ → Attempt AccessToken × Timed σ) (fetchOver : Timed σ → Nat)
    (msg : Fcm.Message) (s : Timed σ) : Nat :=
  Attempt.dueAfter (t.getOver fetchOver s) (fun token s => net.overAt (c.request msg token) s)
    ((t.timed (fetch none)).get s)

theorem Fcm.Client.transport_eq (c : Fcm.Client) {τ : Type} (w : Wire (Timed τ))
    (t : Tokens (Timed τ)) (msg : Fcm.Message) (s : Timed τ) :
    c.transport w t msg s =
      Attempt.andThen (fun token s => w.exchange (c.request msg token) s) (Fcm.bearer w t s) := by
  unfold Fcm.Client.transport
  rcases Fcm.bearer w t s with ⟨a, s⟩
  cases a <;> rfl

/-- An attempt that gets a bearer token first can be cut short. -/
theorem Fcm.Client.post_cutShort (h : OAuth.Yields fetch fetchOver) (c : Fcm.Client)
    (msg : Fcm.Message) :
    CutShort (.failed .cancelled) m s (c.overAt net t fetch fetchOver msg s)
      (c.post (net.wire (some m)) (t.timed (fetch (some m))) msg s)
      (c.post (net.wire none) (t.timed (fetch none)) msg s) := by
  have hbind := (Fcm.bearer_cutShort (t := t) h net m s).bind fun token s =>
    net.exchange_cutShort (c.request msg token) m s
  rw [← c.transport_eq, ← c.transport_eq] at hbind
  rw [Fcm.Client.post_eq, Fcm.Client.post_eq]
  exact hbind.map (f := fun x => (x.1.bind Fcm.decode, x.2)) (fun _ => rfl) (fun _ => rfl)
    fun _ => rfl

end Attempts

/-! ## Sends -/

namespace Delivery

/-- What a cancellation at step `m` makes of a send whose attempts are over at certain steps. `send`
    and `attempt` are given for a caller who cancels at a certain step, or never. -/
structure Cancels (maxAttempts : Int) (status : α → Status)
    (attempt : Option Nat → Timed σ → Attempt α × Timed σ) (overAt : Timed σ → Nat)
    (send : Option Nat → Attempt α × Timed σ) (m : Nat) (s : Timed σ) : Prop where
  /-- Up to the step at which the last attempt of the send would be over, it is stopped. -/
  early : m ≤ overAt (stateAt (attempt none) s (last maxAttempts status (attempt none) s)) →
    (send (some m)).1 = .failed .cancelled
  /-- After that step nothing is changed. -/
  late : overAt (stateAt (attempt none) s (last maxAttempts status (attempt none) s)) < m →
    send (some m) = send none
  /-- What is started is started before the cancellation. -/
  started : ∃ new, (send (some m)).2.started = s.started ++ new ∧
    ∀ e ∈ new, s.now ≤ e.1 ∧ e.1 < m
  /-- Nothing is started that would not have been without the cancellation, at the same step. -/
  fewer : (send (some m)).2.started <+: (send none).2.started
  /-- No attempt follows a cancelled one. -/
  final : ∀ k < last maxAttempts status (attempt (some m)) s,
    resultAt (attempt (some m)) s k ≠ .failed .cancelled

theorem cancels_of_cutShort {attempt : Option Nat → Timed σ → Attempt α × Timed σ}
    {overAt : Timed σ → Nat}
    (h : ∀ m s, CutShort (.failed .cancelled) m s (overAt s) (attempt (some m) s) (attempt none s))
    (maxAttempts : Int) (status : α → Status) (m : Nat) (s : Timed σ) :
    Cancels maxAttempts status attempt overAt
      (fun k => Retry.send maxAttempts status (attempt k) s) m
      s := by
  have hsend := Retry.send_cutShort maxAttempts status h m s
  refine { early := hsend.early, late := hsend.late, started := hsend.started,
           fewer := hsend.fewer, final := fun k hk heq => ?_ }
  have hretried := (Retry.isLast_last maxAttempts status (attempt (some m)) s).before k hk
  rw [heq] at hretried
  cases hretried

/-- A send can be cancelled at any step of a network with a clock, whatever that answers and however
    fast it is. Until its last attempt would be over, the send is stopped, and no exchange for a
    bearer token and no request is started after the cancellation. -/
theorem send_cancelled (net : Paced σ) (m : Nat) (s : Timed σ) :
    (∀ (c : Apns.Client) (r : Apns.Request) (token : String),
      Cancels c.retries Apns.Response.status (fun k => c.post (net.wire k) r token)
        (net.overAt (c.request r token)) (fun k => c.send (net.wire k) r token s) m s) ∧
    (∀ (c : Gcm.Client) (r : Gcm.Request),
      Cancels c.retries Gcm.Response.status
        (fun k => c.post (net.wire k) { r with dryRun := r.dryRun || c.dryRun })
        (net.overAt (c.request { r with dryRun := r.dryRun || c.dryRun }))
        (fun k => c.send (net.wire k) r s) m s) ∧
    (∀ (c : Fcm.Client) (account : ServiceAccount) (t : Tokens σ) (msg : Fcm.Message),
      let fetch k := account.fetch (net.wire k) fun s => t.now s.inner
      Cancels c.retries Fcm.Response.status (fun k => c.post (net.wire k) (t.timed (fetch k)) msg)
        (c.overAt net t fetch (account.fetchOver net) msg)
        (fun k => c.send (net.wire k) (t.timed (fetch k)) msg s) m s) ∧
    (∀ (c : Fcm.Client) (t : Tokens σ) (delay : σ → Nat) (msg : Fcm.Message),
      Cancels c.retries Fcm.Response.status
        (fun k => c.post (net.wire k) (t.timed (t.fetchUntil delay k)) msg)
        (c.overAt net t (t.fetchUntil delay) (fun s => s.now + delay s.inner) msg)
        (fun k => c.send (net.wire k) (t.timed (t.fetchUntil delay k)) msg s) m s) :=
  ⟨fun c r token => cancels_of_cutShort (fun m s => c.post_cutShort net m s r token) _ _ m s,
    fun c _ => cancels_of_cutShort (fun m s => c.post_cutShort net m s _) _ _ m s,
    fun c account t msg => cancels_of_cutShort
      (fun m s => c.post_cutShort net m s (account.fetch_yields net fun s => t.now s.inner) msg)
      _ _ m s,
    fun c t delay msg => cancels_of_cutShort
      (fun m s => c.post_cutShort net m s (t.fetchUntil_yields delay) msg) _ _ m s⟩

/-- The first reply is there at step 2 and read at step 5, the second request starts at step 9, and
    its reply is read at step 14. -/
example :
    let net : Paced Nat := ⟨fun _ n => (.reply { status := if n = 0 then ⟨503⟩ else ⟨404⟩ }, n + 1),
      fun _ _ => ⟨2, 3, 4⟩⟩
    let c : Gcm.Client := ⟨⟨true, "", "push.example", none, [""], none, none⟩, 2, false, "key"⟩
    [0, 1, 5, 6, 9, 10, 14, 15].map (fun m =>
        let r := c.send (net.wire (some m)) {} ⟨0, 0, []⟩
        (r.1.verdict fun _ => .ok (), r.2.started.map Prod.fst)) =
      let cancelled : Verdict := .failed (.send .cancelled)
      [(cancelled, []), (cancelled, [0]), (cancelled, [0]), (cancelled, [0]), (cancelled, [0]),
        (cancelled, [0, 9]), (cancelled, [0, 9]), (.delivered, [0, 9])] := by
  decide +kernel

end Delivery

end Courier
