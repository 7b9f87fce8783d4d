import Courier.Conversion
import Courier.Verdict

/-!
# What happens while a push is dispatched
-/

namespace Courier.Dispatch

/-- How a push ended for one device. Model of `DeliveryOutcome`. -/
structure Outcome where
  token : String
  error : Option DeliveryError
  deriving DecidableEq, Repr, Inhabited

/-- Whether an outcome reports a dead token. Model of `DeliveryOutcome.is_invalidation`. -/
def Outcome.isInvalidation (o : Outcome) : Bool := o.error.any DeliveryError.invalidates

/-- Something that happens while a push is dispatched. -/
inductive Event
  | entered
  | converted
  | called (token : String)
  | returned
  | delivered
  | failed
  | reported (outcome : Outcome)
  | left
  deriving DecidableEq, Repr, Inhabited

/-- The outcome that an event reports. -/
def Event.outcome? : Event → Option Outcome
  | .reported outcome => some outcome
  | _ => none

/-- The token for which an event calls the push network. -/
def Event.calledToken? : Event → Option String
  | .called token => some token
  | _ => none

/-- The outcomes that events report. -/
def outcomes (events : List Event) : List Outcome := events.filterMap Event.outcome?

/-- The tokens for which events call the push network. -/
def calls (events : List Event) : List String := events.filterMap Event.calledToken?

/-- The dead tokens that outcomes report, in order and with repetitions. -/
def deadTokens (l : List Outcome) : List String :=
  (l.filter Outcome.isInvalidation).map Outcome.token

/-- A push for the devices of one project, with what came of converting it.
    Model of `PushRequest`. -/
structure Job (R : Type) where
  devices : List String
  converted : Except ConversionError (Converted R)
  nopMode : Bool

/-- What is reported for a push without devices. -/
def emptyList : Outcome := ⟨"", some .emptyDeviceList⟩

/-- What is reported for an empty token. -/
def emptyToken : Outcome := ⟨"", some .emptyDeviceToken⟩

/-- What an answered call does, and whether the push goes on. A crash ends the push on the spot. -/
def verdictEvents (token : String) : Verdict → List Event × Bool
  | .delivered => ([.returned, .delivered, .reported ⟨token, none⟩], true)
  | .failed error =>
    if error = .send .cancelled then ([.returned, .failed], false)
    else ([.returned, .failed, .reported ⟨token, some error⟩], true)
  | .crashed => ([], false)

end Courier.Dispatch
