import Courier.Dispatch.Slots
import Courier.Router.Push

/-!
# Serving all projects of a push at once

For each project of a push there is a task that hands it to the dispatcher of the project, collects
the outcomes one after the other and keeps the dead tokens; the results are joined as they come. A
dispatcher may have any other pushes. The steps of all tasks and dispatchers may come in any order.
-/

namespace Courier

open Dispatch (Dispatcher Job)

variable {R : Type}

/-- What serves one project: how notifications are converted, whether they are not really sent, and
    the dispatcher. -/
structure Site (R : Type) where
  convert : Notification → Except ConversionError (Converted R)
  nopMode : Bool
  dispatcher : Dispatcher R

/-- The push to some devices that a site dispatches. -/
def Site.job (s : Site R) (n : Notification) (devices : List String) : Job R :=
  ⟨devices, s.convert n, s.nopMode⟩

/-! ## One project -/

/-- The task for a project that is known. It remembers where the dispatcher keeps the push, how many
    of its calls were answered, how many outcomes were collected, and the dead tokens so far. -/
structure Errand (R : Type) where
  job : Job R
  dispatcher : Dispatcher R
  index? : Option Nat := none
  answered : Nat := 0
  collected : Nat := 0
  dead : List String := []

namespace Errand

/-- Something that happens to a task or to its dispatcher. A call may be cut off. -/
inductive Step (R : Type)
  | submit
  | inside (step : Dispatch.Step R)
  | answer (isCut : Bool)
  | collect

/-- The push of a task. -/
def push? (e : Errand R) : Option (Dispatch.Push R) :=
  e.index?.bind fun index => e.dispatcher.pushes[index]?

/-- Whether a step of the dispatcher does something to the push of a task from outside. -/
def isOutside (e : Errand R) : Dispatch.Step R → Bool
  | .cancel index | .abandon index | .answer index _ => e.index? == some index
  | _ => false

/-- Takes one step. `replies` are the answers to the calls in order, and a call is only cut off once
    the push is cancelled. A step that is not possible changes nothing.
    Model of a task of `Router.fan_out`. -/
def step (replies : Nat → Verdict) (cancelled : Bool) (e : Errand R) : Step R → Errand R
  | .submit =>
    match e.index? with
    | none =>
      { e with
        dispatcher := (e.dispatcher.step (.submit e.job cancelled)).1
        index? := some e.dispatcher.pushes.length }
    | some _ => e
  | .inside s =>
    if e.isOutside s then e else { e with dispatcher := (e.dispatcher.step s).1 }
  | .answer isCut =>
    match e.index? with
    | some index =>
      if (e.dispatcher.pushes[index]?).any Dispatch.Push.isDelivering && (!isCut || cancelled) then
        let verdict := if isCut then .failed (.send .cancelled) else replies e.answered
        { e with
          dispatcher := (e.dispatcher.step (.answer index verdict)).1
          answered := e.answered + 1 }
      else e
    | none => e
  | .collect =>
    match e.push?.bind fun p => p.reported[e.collected]? with
    | some o =>
      { e with
        collected := e.collected + 1
        dead := e.dead ++ if o.isInvalidation then [o.token] else [] }
    | none => e

/-- Cancels the push of a task; one that is not submitted yet will be cancelled from the start. -/
def cancel (e : Errand R) : Errand R :=
  match e.index? with
  | some index => { e with dispatcher := (e.dispatcher.step (.cancel index)).1 }
  | none => e

/-- Whether the push is over and all its outcomes were collected. -/
def isComplete (e : Errand R) : Bool :=
  e.push?.any fun p => p.isEnded && p.reported.length == e.collected

end Errand

/-! ## All projects -/

/-- The part of a push that goes to one project. There is nothing to do for a project that is not
    known. -/
structure Lane (R : Type) where
  project : String
  errand? : Option (Errand R)
  joined : Bool := false

namespace Lane

/-- Changes the task. -/
def modify (l : Lane R) (f : Errand R → Errand R) : Lane R := { l with errand? := l.errand?.map f }

/-- The dead tokens so far. -/
def dead (l : Lane R) : List String := l.errand?.elim [] Errand.dead

/-- Whether there is nothing left to do. -/
def isComplete (l : Lane R) : Bool := l.errand?.all Errand.isComplete

end Lane

/-- A push to several projects, and what was joined so far. -/
structure FanOut (R : Type) where
  lanes : List (Lane R)
  cancelled : Bool := false
  result : Dict (List String) := .empty

namespace FanOut

/-- Something that happens: a task or its dispatcher moves on, the push is cancelled, or the result
    of a task is joined. -/
inductive Step (R : Type)
  | inside (index : Nat) (step : Errand.Step R)
  | cancel
  | join (index : Nat)

/-- Starts the tasks of a push. Model of `Router.fan_out`. -/
def start (r : Router (Site R)) (p : Push) : FanOut R where
  lanes := p.destinations.entries.map fun (project, devices) =>
    { project := project
      errand? := (r.workers.get? project).map fun site =>
        { job := site.job p.notification devices, dispatcher := site.dispatcher } }

/-- The part of a push that a step joins. -/
def joins? (f : FanOut R) : Step R → Option (Lane R)
  | .join index => f.lanes[index]?.filter fun l => l.isComplete && !l.joined
  | _ => none

/-- Takes one step. `replies` are the answers to the calls of each project in order. A step that is
    not possible changes nothing. Model of the loop of `Router.single_push`. -/
def step (replies : String → Nat → Verdict) (f : FanOut R) : Step R → FanOut R
  | .inside index s =>
    { f with lanes := f.lanes.modify index fun l =>
        l.modify fun e => e.step (replies l.project) f.cancelled s }
  | .cancel => { f with lanes := f.lanes.map fun l => l.modify .cancel, cancelled := true }
  | .join index =>
    match f.joins? (.join index) with
    | some l =>
      { f with
        lanes := f.lanes.modify index fun l => { l with joined := true }
        result := f.result.insert l.project l.dead }
    | none => f

/-- Takes steps in order. -/
def steps (replies : String → Nat → Verdict) (f : FanOut R) (l : List (Step R)) : FanOut R :=
  l.foldl (step replies) f

/-- Whether all results were joined. -/
def isOver (f : FanOut R) : Bool := f.lanes.all Lane.joined

end FanOut

end Courier
