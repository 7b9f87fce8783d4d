import Courier.Dispatch.Settle
import Courier.Metrics

/-!
# Scripted push networks

A push network that does what a script says for each token: it may deliver, judge, cancel the push,
or hold the delivery until it is let go. Beside it stands what can be observed of a dispatcher.
-/

namespace Courier.Dispatch

/-- What a scripted push network does for a token. -/
inductive Behaviour
  | deliver
  | hold
  | cancel
  | judge (result : Except DeliveryError Unit)
  deriving Inhabited

/-- The deliveries that are held, in order, those let go, and the tokens whose next held delivery
    may go at once. -/
structure Held where
  waiting : List (Nat × String) := []
  letGo : List Nat := []
  credits : List String := []
  deriving DecidableEq, Repr, Inhabited

namespace Held

/-- Answers a call under way. A held delivery ends when its push is cancelled. -/
def respond {R : Type} (behaviour : String → Behaviour) (index : Nat) (p : Push R) (token : String)
    (s : Held) : Option Answer × Held :=
  match behaviour token with
  | .deliver => (some { verdict := .delivered }, s)
  | .cancel => (some { verdict := .delivered, cancels := true }, s)
  | .judge result => (some { verdict := .ofResult result }, s)
  | .hold =>
    if p.cancelled then
      (some { verdict := .failed (.send .cancelled) },
        { s with waiting := s.waiting.filter fun w => w.1 ≠ index })
    else if index ∈ s.letGo then
      (some { verdict := .delivered }, { s with letGo := s.letGo.erase index })
    else if s.waiting.any fun w => w.1 = index then (none, s)
    else if token ∈ s.credits then
      (some { verdict := .delivered }, { s with credits := s.credits.erase token })
    else (none, { s with waiting := s.waiting ++ [(index, token)] })

/-- Lets one delivery held on a token go on, now or later. -/
def release (s : Held) (token : String) : Held :=
  match s.waiting.find? fun w => w.2 = token with
  | some w => { s with waiting := s.waiting.erase w, letGo := s.letGo ++ [w.1] }
  | none => { s with credits := s.credits ++ [token] }

end Held

/-! ## Observation -/

/-- What was observed of a dispatcher: the tokens of all calls, how many calls are under way and how
    many were at most, and the metrics. -/
structure Record where
  calls : List String := []
  underWay : Nat := 0
  highest : Nat := 0
  metrics : Metrics := .empty

namespace Record

/-- Observes an event of a project. -/
def observe (network : Network) (project : String) (r : Record) (e : Event) : Record :=
  let r := { r with metrics := r.metrics.touchAll (e.touches network project) }
  match e with
  | .called token =>
    { r with
      calls := r.calls ++ [token]
      underWay := r.underWay + 1
      highest := max r.highest (r.underWay + 1) }
  | .returned => { r with underWay := r.underWay - 1 }
  | _ => r

/-- Observes events in order. -/
def observeAll (network : Network) (project : String) (r : Record) (events : List Event) : Record :=
  events.foldl (observe network project) r

end Record

end Courier.Dispatch
