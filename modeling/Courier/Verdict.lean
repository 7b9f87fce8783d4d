import Courier.Http.Message

/-!
# Verdicts

How the delivery to one device ends.
-/

namespace Courier

/-- How the delivery to one device ends. -/
inductive Verdict
  | delivered
  | failed (error : DeliveryError)
  | crashed
  deriving DecidableEq, Repr, Inhabited

/-- The verdict on an answer that was judged. -/
def Verdict.ofResult : Except DeliveryError Unit → Verdict
  | .ok () => .delivered
  | .error error => .failed error

/-- The verdict on an attempt, whose answer is judged by `classify`. -/
def Http.Attempt.verdict {α : Type} (classify : α → Except DeliveryError Unit) :
    Http.Attempt α → Verdict
  | .answered a => .ofResult (classify a)
  | .failed error => .failed (.send error)
  | .crashed => .crashed

end Courier
