import Courier.Dispatch.Event

/-!
# One push, step by step

A push that holds a slot goes through stages. It moves on by itself, except while the push network
is asked to deliver to a device. Before each device it looks whether it was cancelled, and it ends
once nobody listens to its outcomes.
-/

namespace Courier.Dispatch

/-- Where a push stands. The lists hold the devices that are still to come. -/
inductive Stage (R : Type)
  | starting
  | refusing (error : ConversionError) (rest : List String)
  | sending (request : R) (rest : List String)
  | delivering (request : R) (token : String) (rest : List String)
  | finished
  deriving Inhabited

namespace Stage

variable {R : Type}

/-- Reports an outcome and goes on, or ends if nobody listens. -/
def report (listening : Bool) (outcome : Outcome) (next : Stage R) : Stage R × List Event :=
  if listening then (next, [.reported outcome]) else (.finished, [])

/-- Takes one step. Model of `DispatcherInner.dispatch`. -/
def advance (job : Job R) (cancelled listening : Bool) : Stage R → Stage R × List Event
  | starting =>
    if job.devices = [] then report listening emptyList .finished
    else
      match job.converted with
      | .ok (.send request) => (.sending request job.devices, [.converted])
      | .ok .ignore => (.finished, [.converted])
      | .error error => (.refusing error job.devices, [.converted])
  | refusing _ [] => (.finished, [])
  | refusing error (token :: rest) =>
    if cancelled then (.finished, [])
    else report listening ⟨token, some (.conversion error)⟩ (.refusing error rest)
  | sending _ [] => (.finished, [])
  | sending request (token :: rest) =>
    if cancelled then (.finished, [])
    else if token = "" then report listening emptyToken (.sending request rest)
    else if job.nopMode then report listening ⟨token, none⟩ (.sending request rest)
    else (.delivering request token rest, [.called token])
  | delivering request token rest => (.delivering request token rest, [])
  | finished => (.finished, [])

/-- Takes the verdict on the call under way. Once nobody listens the call was the last one.
    Model of the end of `DispatcherInner.deliver`. -/
def answer (listening : Bool) (verdict : Verdict) : Stage R → Stage R × List Event
  | delivering request token rest =>
    let (events, goesOn) := verdictEvents token verdict
    if listening then (if goesOn then .sending request rest else .finished, events)
    else (.finished, events.filter fun e => e.outcome?.isNone)
  | s => (s, [])

/-- Whether a push moves on by itself. -/
def moves : Stage R → Bool
  | delivering .. | finished => false
  | _ => true

/-- Whether a push waits for the push network. -/
def isDelivering : Stage R → Bool
  | delivering .. => true
  | _ => false

/-- An upper bound for the steps that are left. -/
def work (job : Job R) : Stage R → Nat
  | starting => 2 * job.devices.length + 2
  | refusing _ rest | sending _ rest => 2 * rest.length + 1
  | delivering _ _ rest => 2 * rest.length + 2
  | finished => 0

/-- Each step of a push's own brings it nearer to its end. -/
theorem work_advance_lt (job : Job R) (cancelled listening : Bool) {s : Stage R} (h : s.moves) :
    ((s.advance job cancelled listening).1).work job < s.work job := by
  cases s with
  | starting => grind [advance, report, work]
  | refusing error rest => cases rest <;> grind [advance, report, work]
  | sending request rest => cases rest <;> grind [advance, report, work]
  | delivering => simp [moves] at h
  | finished => simp [moves] at h

end Stage

end Courier.Dispatch
