import Courier.Http.Script
import Courier.Proofs.Retry
import Mathlib.Order.Bounds.Defs

/-!
# Attempts on a scripted network

A network is scripted: what comes of each request is given, one after the other. Each attempt of a
send has a request, or fails before it gets that far. This plan and the script determine what every
attempt comes to, and with that how many attempts are made, and which requests are sent.

Results:

* `Runs.isLeast_last`: a send makes as few attempts as it may.
* `Runs.requests_last`, `Runs.resultAt_last`: the requests that it sends, and its last result.
-/

namespace Courier

open Http (Attempt Exchange Reply Request Script Status)
open Retry (further isLast_last last resultAt stateAt)

/-! ## Final results -/

namespace Http

/-- The answer to an attempt, if there is one. -/
def Attempt.answer? {α : Type} : Attempt α → Option α
  | .answered value => some value
  | .failed _ | .crashed => none

/-- Whether a result ends a send: it is neither a timeout nor a reply with status 500 or 503. -/
def Attempt.IsFinal : Attempt Reply → Prop
  | .answered reply => reply.status.code ≠ 500 ∧ reply.status.code ≠ 503
  | .failed error => error ≠ .timeout
  | .crashed => True

theorem Attempt.isFinal_iff (a : Attempt Reply) :
    a.IsFinal ↔ Retry.isRetried Reply.status a = false := by
  cases a with
  | answered reply =>
    obtain ⟨⟨code⟩, headers, body⟩ := reply
    simp [IsFinal, Retry.isRetried, Status.internalServerError, Status.serviceUnavailable]
  | failed error => simp [IsFinal, Retry.isRetried]
  | crashed => simp [IsFinal, Retry.isRetried]

/-- The numbers of attempts after which a send may stop: the last of them was final, or no other is
    allowed. A send makes the least number of attempts that is positive and among them. -/
def Stops (maxAttempts : Int) (result : Nat → Attempt Reply) : Set Nat :=
  {n | 0 < n ∧ ((n : Int) = max 1 maxAttempts ∨ (result (n - 1)).IsFinal)}

/-! ## Scripts -/

namespace Script

/-- What comes of request number `n`. -/
def exchangeAt (s : Script) (n : Nat) : Exchange := s.exchanges[n]?.getD s.otherwise

/-- What attempt number `n` comes to if every attempt sends a request. -/
def resultAt (s : Script) (n : Nat) : Attempt Reply := (s.exchangeAt n).attempt

theorem post_fst (s : Script) (request : Request) : (s.post request).1 = s.exchangeAt 0 := by
  obtain ⟨exchanges, _, _, _⟩ := s
  cases exchanges <;> rfl

theorem post_snd {s : Script} (h : s.exchangeAt 0 ≠ .interrupted) (request : Request) :
    (s.post request).2 = { s with
      exchanges := s.exchanges.drop 1
      requests := s.requests ++ [request] } := by
  have hpost : (s.post request).2 = { s with
      exchanges := s.exchanges.drop 1
      requests := s.requests ++ [request]
      cancelled := s.cancelled || (s.post request).1 == .interrupted } := rfl
  rw [hpost, post_fst, beq_eq_false_iff_ne.2 h, Bool.or_false]

/-- An attempt that has a request to send, or that fails before it gets that far. -/
def attempt (s : Script) : Attempt Request → Attempt Reply × Script
  | .answered request => ((s.post request).1.attempt, (s.post request).2)
  | .failed error => (.failed error, s)
  | .crashed => (.crashed, s)

end Script

end Http

open Http (Stops)

/-! ## Plans -/

/-- The requests of the first `n` attempts, where each attempt has a request to send or fails before
    it. -/
def planned (plan : Nat → Attempt Request) (n : Nat) : List Request :=
  (List.range n).filterMap fun k => (plan k).answer?

theorem planned_succ (plan : Nat → Attempt Request) (n : Nat) :
    planned plan (n + 1) = planned plan n ++ (plan n).answer?.toList := by
  rw [planned, List.range_succ, List.filterMap_append]
  cases h : (plan n).answer? <;> simp [planned, h]

theorem planned_answered (request : Nat → Request) (n : Nat) :
    planned (fun k => .answered (request k)) n = (List.range n).map request := by
  show (List.range n).filterMap (some ∘ request) = _
  rw [List.filterMap_eq_map]

/-- What attempt number `n` comes to: what comes of its request, or the failure before it. -/
def plannedResult (plan : Nat → Attempt Request) (s : Script) (n : Nat) : Attempt Reply :=
  (plan n).bind fun _ => s.resultAt (planned plan n).length

theorem plannedResult_answered (request : Nat → Request) (s : Script) (n : Nat) :
    plannedResult (fun k => .answered (request k)) s n = s.resultAt n := by
  show s.resultAt (planned _ n).length = _
  rw [planned_answered, List.length_map, List.length_range]

/-- A script after the first `n` attempts. -/
def afterPlanned (plan : Nat → Attempt Request) (s : Script) (n : Nat) : Script :=
  { s with
    exchanges := s.exchanges.drop (planned plan n).length
    requests := s.requests ++ planned plan n }

theorem exchangeAt_afterPlanned (plan : Nat → Attempt Request) (s : Script) (n : Nat) :
    (afterPlanned plan s n).exchangeAt 0 = s.exchangeAt (planned plan n).length := by
  simp [afterPlanned, Script.exchangeAt]

/-- An attempt comes to what is planned. -/
theorem attempt_afterPlanned (plan : Nat → Attempt Request) (s : Script) (n : Nat) :
    ((afterPlanned plan s n).attempt (plan n)).1 = plannedResult plan s n := by
  rw [plannedResult]
  cases plan n with
  | answered request =>
    show ((afterPlanned plan s n).post request).1.attempt = _
    rw [Script.post_fst, exchangeAt_afterPlanned]
    rfl
  | failed error => rfl
  | crashed => rfl

/-- An attempt that is not final leaves the network as it is planned. -/
theorem attempt_afterPlanned_succ {plan : Nat → Attempt Request} {s : Script} {n : Nat}
    (hfinal : ¬ (plannedResult plan s n).IsFinal) :
    ((afterPlanned plan s n).attempt (plan n)).2 = afterPlanned plan s (n + 1) := by
  cases hplan : plan n with
  | answered request =>
    -- An interrupted exchange would be final, so this one does not cancel the network.
    have hinterrupted : s.exchangeAt (planned plan n).length ≠ .interrupted := by
      intro h
      rw [plannedResult, hplan, Attempt.bind, Script.resultAt, h] at hfinal
      exact hfinal nofun
    show ((afterPlanned plan s n).post request).2 = _
    rw [Script.post_snd (by rwa [exchangeAt_afterPlanned])]
    simp [afterPlanned, planned_succ, hplan, Attempt.answer?]
  | failed error =>
    show afterPlanned plan s n = _
    simp [afterPlanned, planned_succ, hplan, Attempt.answer?]
  | crashed =>
    show afterPlanned plan s n = _
    simp [afterPlanned, planned_succ, hplan, Attempt.answer?]

theorem requests_attempt_afterPlanned (plan : Nat → Attempt Request) (s : Script) (n : Nat) :
    ((afterPlanned plan s n).attempt (plan n)).2.requests = s.requests ++ planned plan (n + 1) := by
  rw [planned_succ]
  cases plan n with
  | answered request => exact List.append_assoc ..
  | failed error | crashed => exact (congrArg _ (List.append_nil _)).symm

/-! ## Sends -/

/-- Whether attempts do what is planned on a scripted network, which is a part of their state. -/
def Runs {σ : Type} (plan : Nat → Attempt Request) (attempt : σ → Attempt Reply × σ)
    (script : σ → Script) (start : σ) : Prop :=
  ∀ n, (script (stateAt attempt start n)).cancelled = false →
    (resultAt attempt start n, script (stateAt attempt start (n + 1))) =
      (script (stateAt attempt start n)).attempt (plan n)

namespace Runs

variable {σ : Type} {plan : Nat → Attempt Request} {attempt : σ → Attempt Reply × σ}
  {script : σ → Script} {start : σ}

/-- As long as no attempt is final, the network is as it is planned. -/
theorem script_stateAt (h : Runs plan attempt script start)
    (hstart : (script start).cancelled = false) {n : Nat}
    (hbefore : ∀ k < n, ¬ (plannedResult plan (script start) k).IsFinal) :
    script (stateAt attempt start n) = afterPlanned plan (script start) n := by
  induction n with
  | zero => simp [stateAt, afterPlanned, planned]
  | succ n ih =>
    have hn := ih fun k hk => hbefore k (Nat.lt_succ_of_lt hk)
    have hstep := congrArg Prod.snd (h n (by rw [hn]; exact hstart))
    rw [← attempt_afterPlanned_succ (hbefore n (Nat.lt_succ_self n)), ← hn]
    exact hstep

theorem resultAt_eq (h : Runs plan attempt script start)
    (hstart : (script start).cancelled = false) {n : Nat}
    (hbefore : ∀ k < n, ¬ (plannedResult plan (script start) k).IsFinal) :
    resultAt attempt start n = plannedResult plan (script start) n := by
  have hn := h.script_stateAt hstart hbefore
  have hstep := congrArg Prod.fst (h n (by rw [hn]; exact hstart))
  rw [← attempt_afterPlanned, ← hn]
  exact hstep

variable (maxAttempts : Int)

/-- No attempt before the last one is final. -/
theorem not_isFinal_of_lt (h : Runs plan attempt script start)
    (hstart : (script start).cancelled = false) {n : Nat}
    (hn : n ≤ last maxAttempts Reply.status attempt start) :
    ∀ k < n, ¬ (plannedResult plan (script start) k).IsFinal := by
  induction n with
  | zero => exact nofun
  | succ n ih =>
    have hbefore := ih (Nat.le_of_succ_le hn)
    intro k hk
    rcases Nat.lt_succ_iff_lt_or_eq.1 hk with hk | rfl
    · exact hbefore k hk
    · have hretried := (isLast_last maxAttempts Reply.status attempt start).before k hn
      rw [Attempt.isFinal_iff, ← h.resultAt_eq hstart hbefore, hretried]
      nofun

/-- The last result of a send is the one that is planned. -/
theorem resultAt_last (h : Runs plan attempt script start)
    (hstart : (script start).cancelled = false) :
    resultAt attempt start (last maxAttempts Reply.status attempt start) =
      plannedResult plan (script start) (last maxAttempts Reply.status attempt start) :=
  h.resultAt_eq hstart (h.not_isFinal_of_lt maxAttempts hstart (Nat.le_refl _))

/-- A send makes as few attempts as it may. -/
theorem isLeast_last (h : Runs plan attempt script start)
    (hstart : (script start).cancelled = false) :
    IsLeast (Stops maxAttempts (plannedResult plan (script start)))
      (last maxAttempts Reply.status attempt start + 1) := by
  have hlast := isLast_last maxAttempts Reply.status attempt start
  have hfurther : ((further maxAttempts + 1 : Nat) : Int) = max 1 maxAttempts := by
    unfold further
    omega
  refine ⟨⟨Nat.succ_pos _, ?_⟩, ?_⟩
  · rcases hlast.final with hall | hfinal
    · left
      rw [← hfurther, ← hall]
    · right
      rw [Nat.add_sub_cancel, ← h.resultAt_last maxAttempts hstart, Attempt.isFinal_iff]
      exact hfinal
  · rintro n ⟨hpos, hall | hfinal⟩
    · have := hlast.allowed
      omega
    · apply Nat.le_of_not_lt
      intro hlt
      exact h.not_isFinal_of_lt maxAttempts hstart (Nat.le_refl _) (n - 1) (by omega) hfinal

/-- A send sends the requests that are planned for its attempts. -/
theorem requests_last (h : Runs plan attempt script start)
    (hstart : (script start).cancelled = false) :
    (script (stateAt attempt start (last maxAttempts Reply.status attempt start + 1))).requests =
      (script start).requests ++
        planned plan (last maxAttempts Reply.status attempt start + 1) := by
  have hstate := h.script_stateAt hstart
    (h.not_isFinal_of_lt maxAttempts hstart (Nat.le_refl _))
  rw [← requests_attempt_afterPlanned, ← hstate]
  exact congrArg (Script.requests ∘ Prod.snd) (h _ (by rw [hstate]; exact hstart))

end Runs

end Courier
