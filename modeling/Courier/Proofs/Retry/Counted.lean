import Courier.Proofs.Retry
import Mathlib.Order.Bounds.Basic

/-!
# Counted attempts

A send counts its attempts in 32 bits, up to a number of the same width that may be negative or the
greatest there is. The count never runs over, and the send ends with the least attempt that is final
or the last one allowed.

Results:

* `counted_eq_send`: counting in 32 bits is counting.
* `isLeast_last`, `send_of_isLeast`: which attempt a send ends with, and what it makes of it.
* `send_ends`: how a send goes whose attempts come to given results.
-/

namespace Courier.Retry

open Http (Attempt Status)

variable {α σ : Type}

/-! ## A count in 32 bits -/

/-- A number in 32 bits with a sign; `none` if it runs over. -/
def int32? (n : Int) : Option Int32 :=
  if Int32.minValue.toInt ≤ n ∧ n ≤ Int32.maxValue.toInt then some (.ofInt n) else none

theorem toInt_of_int32? {n : Int} {m : Int32} (h : int32? n = some m) : m.toInt = n := by
  unfold int32? at h
  split at h
  · rename_i hn
    rw [Int32.toInt_minValue, Int32.toInt_maxValue] at hn
    cases h
    exact Int32.toInt_ofInt_of_le (by omega) (by omega)
  · cases h

theorem exists_int32? {n : Int} (h : Int32.minValue.toInt ≤ n) (h' : n ≤ Int32.maxValue.toInt) :
    ∃ m, int32? n = some m :=
  ⟨.ofInt n, if_pos ⟨h, h'⟩⟩

/-- Whether attempts are left beyond the next one, and the count with that; `none` if a number runs
    over. -/
def tick (maxAttempts iteration : Int32) : Option (Bool × Int32) := do
  let bound ← int32? (maxAttempts.toInt - 1)
  let next ← int32? (iteration.toInt + 1)
  return (iteration < bound, next)

theorem tick_eq_some {maxAttempts iteration next : Int32} {hasMore : Bool}
    (h : tick maxAttempts iteration = some (hasMore, next)) :
    next.toInt = iteration.toInt + 1 ∧
      (hasMore = true ↔ iteration.toInt < maxAttempts.toInt - 1) := by
  obtain ⟨bound, hbound, h⟩ := Option.bind_eq_some_iff.mp h
  obtain ⟨next', hnext, h⟩ := Option.bind_eq_some_iff.mp h
  cases h
  rw [decide_eq_true_iff, Int32.lt_iff_toInt_lt, toInt_of_int32? hbound, toInt_of_int32? hnext]
  exact ⟨rfl, .rfl⟩

/-- The attempts of a send that has made `iteration` of them; `none` if a number runs over.
    Model of the loop of `send_with_retry`, with its counter. -/
def countedFrom (maxAttempts : Int32) (status : α → Status) (attempt : σ → Attempt α × σ)
    (iteration : Int32) (s : σ) : Option (Attempt α × σ) :=
  match _htick : tick maxAttempts iteration with
  | none => none
  | some (hasMore, next) =>
    if _hmore : hasMore = true ∧ isRetried status (attempt s).1 = true then
      countedFrom maxAttempts status attempt next (attempt s).2
    else some (settle status (attempt s).1, (attempt s).2)
termination_by (maxAttempts.toInt - iteration.toInt).toNat
decreasing_by
  obtain ⟨hnext, hlt⟩ := tick_eq_some _htick
  have := hlt.mp _hmore.1
  omega

/-- Attempts as often as allowed, and counts; `none` if a number runs over. -/
def counted (maxAttempts : Int32) (status : α → Status) (attempt : σ → Attempt α × σ) (s : σ) :
    Option (Attempt α × σ) :=
  countedFrom (max maxAttempts 1) status attempt 0 s

theorem toInt_max_one (n : Int32) : (max n 1).toInt = max 1 n.toInt := by
  have h1 : (1 : Int32).toInt = 1 := by decide
  rw [show max n 1 = if n ≤ 1 then 1 else n from rfl]
  split
  · rename_i h
    rw [Int32.le_iff_toInt_le, h1] at h
    omega
  · rename_i h
    rw [Int32.le_iff_toInt_le, h1] at h
    omega

theorem countedFrom_of_tick {maxAttempts iteration next : Int32} {hasMore : Bool}
    (h : tick maxAttempts iteration = some (hasMore, next)) (status : α → Status)
    (attempt : σ → Attempt α × σ) (s : σ) :
    countedFrom maxAttempts status attempt iteration s =
      if hasMore = true ∧ isRetried status (attempt s).1 = true then
        countedFrom maxAttempts status attempt next (attempt s).2
      else some (settle status (attempt s).1, (attempt s).2) := by
  rw [countedFrom]
  split
  · rename_i hnone
    rw [h] at hnone
    cases hnone
  · rename_i hsome
    rw [h] at hsome
    cases hsome
    exact dite_eq_ite

/-- A count below its bound does not run over. -/
theorem exists_tick {maxAttempts iteration : Int32} (h : 0 ≤ iteration.toInt)
    (hlt : iteration.toInt < maxAttempts.toInt) :
    ∃ hasMore next, tick maxAttempts iteration = some (hasMore, next) := by
  have hmin : Int32.minValue.toInt < 0 := by decide
  have hmax := maxAttempts.toInt_le
  obtain ⟨bound, hbound⟩ : ∃ m, int32? (maxAttempts.toInt - 1) = some m :=
    exists_int32? (by omega) (by omega)
  obtain ⟨next, hnext⟩ : ∃ m, int32? (iteration.toInt + 1) = some m :=
    exists_int32? (by omega) (by omega)
  exact ⟨_, next, Option.bind_eq_some_iff.mpr ⟨bound, hbound,
    Option.bind_eq_some_iff.mpr ⟨next, hnext, rfl⟩⟩⟩

/-- A send that has made `iteration` attempts and may make `more` after the next one. -/
theorem countedFrom_eq_run {maxAttempts iteration : Int32} {more : Nat}
    (hcount : 0 ≤ iteration.toInt) (hmore : iteration.toInt + more + 1 = maxAttempts.toInt)
    (status : α → Status) (attempt : σ → Attempt α × σ) (s : σ) :
    countedFrom maxAttempts status attempt iteration s = some (run status attempt more s) := by
  induction more generalizing iteration s with
  | zero =>
    have hbefore : iteration.toInt < maxAttempts.toInt := by omega
    obtain ⟨hasMore, next, htick⟩ := exists_tick hcount hbefore
    have hlast : ¬ hasMore = true := by
      rw [(tick_eq_some htick).2]
      omega
    rw [countedFrom_of_tick htick, if_neg fun h => hlast h.1]
    rfl
  | succ more ih =>
    have hbefore : iteration.toInt < maxAttempts.toInt := by omega
    obtain ⟨hasMore, next, htick⟩ := exists_tick hcount hbefore
    obtain ⟨hnext, hlt⟩ := tick_eq_some htick
    have hagain : hasMore = true := hlt.mpr (by omega)
    rw [countedFrom_of_tick htick, run]
    simp only [hagain, true_and]
    split
    · exact ih (by omega) (by omega) _
    · rfl

/-- Counting in 32 bits is counting. -/
theorem counted_eq_send (maxAttempts : Int32) (status : α → Status) (attempt : σ → Attempt α × σ)
    (s : σ) :
    counted maxAttempts status attempt s = some (send maxAttempts.toInt status attempt s) := by
  have h0 : (0 : Int32).toInt = 0 := by decide
  apply countedFrom_eq_run
  · rw [h0]
  · rw [h0, toInt_max_one]
    unfold further
    omega

/-! ## The last attempt -/

/-- Whether a result ends a send: it is neither a timeout nor a response with status 500 or 503. -/
def IsFinal (status : α → Status) : Attempt α → Prop
  | .answered a => (status a).code ≠ 500 ∧ (status a).code ≠ 503
  | .failed error => error ≠ .timeout
  | .crashed => True

theorem isFinal_iff (status : α → Status) (a : Attempt α) :
    IsFinal status a ↔ isRetried status a = false := by
  cases a with
  | answered a =>
    cases h : status a
    simp [IsFinal, isRetried, h, Status.internalServerError, Status.serviceUnavailable]
  | failed error => simp [IsFinal, isRetried]
  | crashed => simp [IsFinal, isRetried]

/-- The number of attempts that are allowed. -/
def allowed (maxAttempts : Int) : Nat := (max 1 maxAttempts).toNat

/-- The attempts with which a send may end: those that are final, and the last one allowed. -/
def Endings (maxAttempts : Int) (status : α → Status) (results : Nat → Attempt α) : Set Nat :=
  {k | k < allowed maxAttempts ∧ (IsFinal status (results k) ∨ k = allowed maxAttempts - 1)}

/-- What a result means to the caller: a response with status 500 or 503 is an error. -/
def report (status : α → Status) : Attempt α → Attempt α
  | .answered a =>
    match (status a).code with
    | 500 => .failed .internalServerError
    | 503 => .failed .serviceUnavailable
    | _ => .answered a
  | a => a

theorem report_eq_settle (status : α → Status) (a : Attempt α) :
    report status a = settle status a := by
  cases a with
  | answered a =>
    cases h : status a
    simp only [report, settle, h, Status.internalServerError, Status.serviceUnavailable,
      Status.mk.injEq]
    split <;> simp_all
  | failed error => rfl
  | crashed => rfl

/-- A caller never sees a response with status 500 or 503. -/
theorem code_of_report_answered {status : α → Status} {a : Attempt α} {b : α}
    (h : report status a = .answered b) : (status b).code ≠ 500 ∧ (status b).code ≠ 503 := by
  cases a with
  | answered a =>
    simp only [report] at h
    split at h
    · cases h
    · cases h
    · cases h
      exact ⟨‹_›, ‹_›⟩
  | failed error => cases h
  | crashed => cases h

/-- The results from which no caller can tell what another attempt would come to. -/
def inconclusive : List (Attempt α) :=
  [.failed .timeout, .failed .internalServerError, .failed .serviceUnavailable]

theorem isFinal_of_conclusive {status : α → Status} {a : Attempt α}
    (h : report status a ∉ inconclusive) : IsFinal status a := by
  cases a with
  | answered a =>
    simp only [report] at h
    split at h
    · exact absurd (by simp [inconclusive]) h
    · exact absurd (by simp [inconclusive]) h
    · exact ⟨‹_›, ‹_›⟩
  | failed error =>
    rintro rfl
    exact h (by simp [report, inconclusive])
  | crashed => trivial

/-! ## Given results -/

/-- Attempts that come to given results, one after the other. The state is the number of calls. -/
def calling (results : Nat → Attempt α) (calls : Nat) : Attempt α × Nat :=
  (results calls, calls + 1)

theorem stateAt_calling (results : Nat → Attempt α) (n : Nat) :
    stateAt (calling results) 0 n = n := by
  induction n with
  | zero => rfl
  | succ n ih => rw [stateAt, ih]; rfl

theorem resultAt_calling (results : Nat → Attempt α) (n : Nat) :
    resultAt (calling results) 0 n = results n := by
  rw [resultAt, stateAt_calling]
  rfl

/-- The last attempt of a send is the least with which it may end. -/
theorem isLeast_last (maxAttempts : Int) (status : α → Status) (results : Nat → Attempt α) :
    IsLeast (Endings maxAttempts status results)
      (last maxAttempts status (calling results) 0) := by
  have hlast := isLast_last maxAttempts status (calling results) 0
  have hfurther : further maxAttempts = allowed maxAttempts - 1 := by
    unfold further allowed
    omega
  have hallowed : 0 < allowed maxAttempts := by
    unfold allowed
    omega
  obtain ⟨hle, hbefore, hfinal⟩ := hlast
  simp only [resultAt_calling] at hbefore hfinal
  constructor
  · refine ⟨by omega, ?_⟩
    rw [isFinal_iff, ← hfurther]
    exact hfinal.symm
  · rintro k ⟨-, hk | hk⟩
    · rw [isFinal_iff] at hk
      by_contra hlt
      rw [hbefore k (Nat.lt_of_not_le hlt)] at hk
      cases hk
    · omega

/-- What a send makes of results, if the attempt is known with which it ends. -/
theorem send_of_isLeast {maxAttempts : Int} {status : α → Status} {results : Nat → Attempt α}
    {k : Nat} (h : IsLeast (Endings maxAttempts status results) k) :
    send maxAttempts status (calling results) 0 = (report status (results k), k + 1) := by
  obtain rfl := h.unique (isLeast_last maxAttempts status results)
  rw [send_eq, resultAt_calling, stateAt_calling, report_eq_settle]

/-- The results after the least ending do not matter for it. -/
theorem Endings.isLeast_congr {maxAttempts : Int} {status : α → Status}
    {results others : Nat → Attempt α} {k : Nat}
    (h : IsLeast (Endings maxAttempts status results) k)
    (hsame : ∀ n ≤ k, others n = results n) : IsLeast (Endings maxAttempts status others) k := by
  refine ⟨⟨h.1.1, ?_⟩, fun n hn => ?_⟩
  · rw [hsame k (Nat.le_refl k)]
    exact h.1.2
  · by_contra hlt
    have hle : n ≤ k := Nat.le_of_not_le hlt
    rw [Endings, Set.mem_ofPred_eq, hsame n hle] at hn
    exact hlt (h.2 hn)

/-- A final ending stays the least if more attempts are allowed. -/
theorem Endings.isLeast_of_le {maxAttempts more : Int} {status : α → Status}
    {results : Nat → Attempt α} {k : Nat} (h : IsLeast (Endings maxAttempts status results) k)
    (hle : maxAttempts ≤ more) (hfinal : IsFinal status (results k)) :
    IsLeast (Endings more status results) k := by
  have hallowed : allowed maxAttempts ≤ allowed more := by
    unfold allowed
    omega
  refine ⟨⟨Nat.lt_of_lt_of_le h.1.1 hallowed, .inl hfinal⟩, fun n hn => ?_⟩
  by_contra hlt
  -- an ending before `k` would be one with fewer attempts allowed, too
  have hn' : n < allowed maxAttempts := by
    have := h.1.1
    omega
  rcases hn.2 with hn | hn
  · exact hlt (h.2 ⟨hn', .inl hn⟩)
  · exact hlt (h.2 ⟨hn', .inr (by omega)⟩)

/-- How a send goes that may make `maxAttempts` attempts, if these come to `results` and it ends
    with number `k` of them. -/
structure Ends (maxAttempts : Int32) (status : α → Status) (results : Nat → Attempt α) (k : Nat) :
    Prop where
  /-- No attempt before is final or the last one allowed. -/
  least : IsLeast (Endings maxAttempts.toInt status results) k
  /-- The send makes no more attempts than that, and does not miscount them. -/
  counted : counted maxAttempts status (calling results) 0 = some (report status (results k), k + 1)
  /-- So it does if it is not counted in 32 bits. -/
  sent : send maxAttempts.toInt status (calling results) 0 = (report status (results k), k + 1)
  /-- It answers with no response that says the server failed. -/
  healthy : ∀ a, report status (results k) = .answered a →
    (status a).code ≠ 500 ∧ (status a).code ≠ 503
  /-- It does not depend on what later attempts would have come to. -/
  settled : ∀ others, (∀ n ≤ k, others n = results n) →
    Retry.counted maxAttempts status (calling others) 0 =
      Retry.counted maxAttempts status (calling results) 0
  /-- It goes the same way if more attempts are allowed, unless its answer is inconclusive. -/
  steady : ∀ more, maxAttempts ≤ more → report status (results k) ∉ inconclusive →
    Retry.counted more status (calling results) 0 =
      Retry.counted maxAttempts status (calling results) 0

/-- A send ends with the least attempt that is final or the last one allowed. -/
theorem send_ends (maxAttempts : Int32) (status : α → Status) (results : Nat → Attempt α) :
    ∃ k, Ends maxAttempts status results k := by
  have hleast := isLeast_last maxAttempts.toInt status results
  refine ⟨_, hleast, ?_, send_of_isLeast hleast, fun _ => code_of_report_answered, ?_, ?_⟩
  · rw [counted_eq_send, send_of_isLeast hleast]
  · intro others hsame
    rw [counted_eq_send, counted_eq_send, send_of_isLeast (Endings.isLeast_congr hleast hsame),
      send_of_isLeast hleast, hsame _ (Nat.le_refl _)]
  · intro more hle hconclusive
    have hmore := Endings.isLeast_of_le hleast (Int32.le_iff_toInt_le.mp hle)
      (isFinal_of_conclusive hconclusive)
    rw [counted_eq_send, counted_eq_send, send_of_isLeast hmore, send_of_isLeast hleast]

end Courier.Retry
