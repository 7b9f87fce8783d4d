import Courier.Router.Basic

/-!
# Pushes across projects

A push goes to the devices of several projects. What comes back are the dead tokens per project, and
an empty list for a project that is not known. Here the projects are served one after the other.
-/

namespace Courier

open Dispatch (Event Outcome deadTokens outcomes)

/-- A notification for the devices of some projects. -/
structure Push where
  correlationId : String := ""
  destinations : Dict (List String) := .empty
  notification : Notification := {}
  deriving Inhabited

/-- The dead tokens of one project for one push. Model of `ProjectInvalidations`. -/
structure Invalidations where
  correlationId : String
  project : String
  devices : List String
  deriving DecidableEq, Repr, Inhabited

namespace Router

variable {σ : Type}

/-- The outcomes of one project; there are none for a project that is not known. -/
def outcomesOf (r : Router (Worker σ)) (s : σ) (n : Notification) (project : String)
    (devices : List String) : List Outcome :=
  match r.workers.get? project with
  | some worker => outcomes (worker.serve devices n s).1
  | none => []

/-- Serves the devices of one project: the dead tokens, and the changes to metrics. -/
def invalidations (r : Router (Worker σ)) (n : Notification) (project : String)
    (devices : List String) (s : σ) : List String × List Touch × σ :=
  match r.workers.get? project with
  | none => ([], [], s)
  | some worker =>
    let (events, s) := worker.serve devices n s
    (deadTokens (outcomes events), events.flatMap (Event.touches worker.network project), s)

/-- Serves the devices of several projects. -/
def serveAll (r : Router (Worker σ)) (n : Notification) :
    List (String × List String) → σ → List (String × List String) × List Touch × σ
  | [], s => ([], [], s)
  | (project, devices) :: rest, s =>
    let (dead, touches, s) := r.invalidations n project devices s
    let (more, moreTouches, s) := r.serveAll n rest s
    ((project, dead) :: more, touches ++ moreTouches, s)

/-- Delivers one push. Model of `Router.single_push`. -/
def singlePush (r : Router (Worker σ)) (p : Push) (s : σ) : Dict (List String) × List Touch × σ :=
  let (l, touches, s) := r.serveAll p.notification p.destinations.entries s
  (.ofList l, .received :: touches, s)

/-- Delivers pushes that were all started. -/
def pushAll (r : Router (Worker σ)) : List Push → σ → List Invalidations × List Touch × σ
  | [], s => ([], [], s)
  | p :: rest, s =>
    let (l, touches, s) := r.serveAll p.notification p.destinations.entries s
    let (more, moreTouches, s) := r.pushAll rest s
    (l.map (fun e => ⟨p.correlationId, e.1, e.2⟩) ++ more, .received :: touches ++ moreTouches, s)

/-- Delivers a stream of pushes, none of which is started once the stream is cancelled. -/
def pushStream (r : Router (Worker σ)) (cancelled : σ → Bool) (pushes : List Push) (s : σ) :
    List Invalidations × List Touch × σ :=
  r.pushAll (if cancelled s then [] else pushes) s

end Router

end Courier
