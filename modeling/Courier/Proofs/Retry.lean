import Courier.Retry

/-!
# The attempts of a send

The attempts that would be made one after the other, without any limit, are given by the state that
each of them starts from. A send consumes them up to the first one that is not retried, or up to the
last one that is allowed.

Results:

* `lastIndex_le`, `retried_of_lt_lastIndex`, `lastIndex_eq_or`: which attempt is the last one.
* `run_eq`: a send ends with its last attempt, and in the state after it.
* `isLast_last`, `send_eq`: the last attempt of a send, and what a send makes of it.
-/

namespace Courier.Retry

open Http (Attempt Status)

variable {α σ : Type}

/-! ## Attempts without a limit -/

/-- The state before attempt number `n`. -/
def stateAt (attempt : σ → Attempt α × σ) (s : σ) : Nat → σ
  | 0 => s
  | n + 1 => (attempt (stateAt attempt s n)).2

/-- The result of attempt number `n`. -/
def resultAt (attempt : σ → Attempt α × σ) (s : σ) (n : Nat) : Attempt α :=
  (attempt (stateAt attempt s n)).1

theorem stateAt_succ (attempt : σ → Attempt α × σ) (s : σ) (n : Nat) :
    stateAt attempt s (n + 1) = stateAt attempt (attempt s).2 n := by
  induction n with
  | zero => rfl
  | succ n ih =>
    show (attempt (stateAt attempt s (n + 1))).2 = (attempt (stateAt attempt (attempt s).2 n)).2
    rw [ih]

theorem resultAt_succ (attempt : σ → Attempt α × σ) (s : σ) (n : Nat) :
    resultAt attempt s (n + 1) = resultAt attempt (attempt s).2 n := by
  rw [resultAt, stateAt_succ, resultAt]

/-! ## The last attempt -/

/-- The number of the last attempt if at most `more` may follow the first: the first one that is not
    retried, or else the last one allowed. -/
def lastIndex (retried : Nat → Bool) (more : Nat) : Nat :=
  ((List.range more).find? fun n => !retried n).getD more

theorem lastIndex_of_not_retried {retried : Nat → Bool} (h : retried 0 = false) (more : Nat) :
    lastIndex retried more = 0 := by
  cases more with
  | zero => rfl
  | succ more => simp [lastIndex, List.range_succ_eq_map, h]

theorem lastIndex_of_retried {retried : Nat → Bool} (h : retried 0 = true) (more : Nat) :
    lastIndex retried (more + 1) = lastIndex (fun n => retried (n + 1)) more + 1 := by
  unfold lastIndex
  rw [List.range_succ_eq_map, List.find?_cons_of_neg (by simp [h]), List.find?_map]
  show (Option.map Nat.succ ((List.range more).find? fun n => !retried (n + 1))).getD _ = _
  cases (List.range more).find? fun n => !retried (n + 1) <;> rfl

theorem lastIndex_le (retried : Nat → Bool) (more : Nat) : lastIndex retried more ≤ more := by
  unfold lastIndex
  cases h : (List.range more).find? fun n => !retried n with
  | none => exact Nat.le_refl more
  | some n => exact Nat.le_of_lt (List.mem_range.1 (List.mem_of_find?_eq_some h))

/-- Every attempt before the last one is retried. -/
theorem retried_of_lt_lastIndex (retried : Nat → Bool) {more n : Nat}
    (h : n < lastIndex retried more) : retried n = true := by
  induction more generalizing retried n with
  | zero => cases h
  | succ more ih =>
    cases h0 : retried 0 with
    | false =>
      rw [lastIndex_of_not_retried h0] at h
      cases h
    | true =>
      rw [lastIndex_of_retried h0] at h
      cases n with
      | zero => exact h0
      | succ n => exact ih (fun n => retried (n + 1)) (Nat.lt_of_succ_lt_succ h)

/-- The last attempt is the last one allowed, unless it is not retried. -/
theorem lastIndex_eq_or (retried : Nat → Bool) (more : Nat) :
    lastIndex retried more = more ∨ retried (lastIndex retried more) = false := by
  unfold lastIndex
  cases h : (List.range more).find? fun n => !retried n with
  | none => exact .inl rfl
  | some n => exact .inr (by simpa using List.find?_some h)

/-! ## Sends -/

/-- A send ends with its last attempt, and in the state after it. -/
theorem run_eq (status : α → Status) (attempt : σ → Attempt α × σ) (more : Nat) (s : σ) :
    run status attempt more s =
      (settle status (resultAt attempt s
        (lastIndex (fun n => isRetried status (resultAt attempt s n)) more)),
      stateAt attempt s
        (lastIndex (fun n => isRetried status (resultAt attempt s n)) more + 1)) := by
  induction more generalizing s with
  | zero => rfl
  | succ more ih =>
    cases h0 : isRetried status (resultAt attempt s 0) with
    | false =>
      rw [lastIndex_of_not_retried h0]
      exact run_of_not_retried h0 _
    | true =>
      rw [lastIndex_of_retried h0, resultAt_succ, stateAt_succ]
      simp only [resultAt_succ]
      rw [← ih (attempt s).2]
      exact if_pos h0

/-- Whether attempt number `k` is the last one of a send: it is allowed, those before it are
    retried, and it is not, or none is left. -/
structure IsLast (maxAttempts : Int) (status : α → Status) (attempt : σ → Attempt α × σ) (s : σ)
    (k : Nat) : Prop where
  allowed : k ≤ further maxAttempts
  before : ∀ n < k, isRetried status (resultAt attempt s n) = true
  final : k = further maxAttempts ∨ isRetried status (resultAt attempt s k) = false

/-- The number of the last attempt of a send. -/
def last (maxAttempts : Int) (status : α → Status) (attempt : σ → Attempt α × σ) (s : σ) : Nat :=
  lastIndex (fun n => isRetried status (resultAt attempt s n)) (further maxAttempts)

theorem isLast_last (maxAttempts : Int) (status : α → Status) (attempt : σ → Attempt α × σ)
    (s : σ) : IsLast maxAttempts status attempt s (last maxAttempts status attempt s) where
  allowed := lastIndex_le _ _
  before := fun _ h => retried_of_lt_lastIndex _ h
  final := lastIndex_eq_or _ _

/-- What a send makes of its last result, and where it ends. -/
theorem send_eq (maxAttempts : Int) (status : α → Status) (attempt : σ → Attempt α × σ) (s : σ) :
    send maxAttempts status attempt s =
      (settle status (resultAt attempt s (last maxAttempts status attempt s)),
        stateAt attempt s (last maxAttempts status attempt s + 1)) :=
  run_eq status attempt (further maxAttempts) s

end Courier.Retry
