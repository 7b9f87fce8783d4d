import Courier.Http.Message

/-!
# Retries

A request is attempted again after a timeout and after a 500 or 503 answer, and after nothing else.
There is always a first attempt, whatever number is allowed.

Results:

* `Retry.run_of_not_retried`: an attempt that is not retried is the last one.
-/

namespace Courier.Retry

open Http (Attempt Status)

variable {α σ : Type}

/-- Whether an attempt is followed by another one. -/
def isRetried (status : α → Status) : Attempt α → Bool
  | .answered a => status a == .internalServerError || status a == .serviceUnavailable
  | .failed error => error == .timeout
  | .crashed => false

/-- What the last attempt means: a server that failed is an error. -/
def settle (status : α → Status) : Attempt α → Attempt α
  | .answered a =>
    if status a = .internalServerError then .failed .internalServerError
    else if status a = .serviceUnavailable then .failed .serviceUnavailable
    else .answered a
  | a => a

/-- Attempts once, and `more` times again where that is called for.
    Model of the loop of `send_with_retry`. -/
def run (status : α → Status) (attempt : σ → Attempt α × σ) : Nat → σ → Attempt α × σ
  | 0, s =>
    let (a, s) := attempt s
    (settle status a, s)
  | more + 1, s =>
    let (a, s) := attempt s
    if isRetried status a then run status attempt more s else (settle status a, s)

/-- The number of attempts after the first. -/
def further (maxAttempts : Int) : Nat := (max 1 maxAttempts - 1).toNat

/-- Attempts as often as allowed. Model of `send_with_retry`. -/
def send (maxAttempts : Int) (status : α → Status) (attempt : σ → Attempt α × σ) (s : σ) :
    Attempt α × σ :=
  run status attempt (further maxAttempts) s

theorem run_of_not_retried {status : α → Status} {attempt : σ → Attempt α × σ} {s : σ}
    (h : isRetried status (attempt s).1 = false) (more : Nat) :
    run status attempt more s = (settle status (attempt s).1, (attempt s).2) := by
  cases more with
  | zero => rfl
  | succ more => simp [run, h]

end Courier.Retry
