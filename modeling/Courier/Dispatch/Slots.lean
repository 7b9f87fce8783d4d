import Courier.Dispatch.Stage

/-!
# Many pushes, few slots

A dispatcher runs a limited number of pushes at once; the others wait. `Dispatcher.step` is one step
of any of them, and any order of steps may happen.

Results:

* `Dispatcher.new_isSome_iff`: which limits can be served.
-/

namespace Courier.Dispatch

/-- Whether a push waits for a slot, holds one or is over. -/
inductive Phase (R : Type)
  | waiting
  | running (stage : Stage R)
  | ended
  deriving Inhabited

/-- A submitted push, with the outcomes that were reported so far. -/
structure Push (R : Type) where
  job : Job R
  cancelled : Bool := false
  listening : Bool := true
  phase : Phase R := .waiting
  reported : List Outcome := []

/-- How many outcomes can be reported before anybody reads one. -/
def Push.room {R : Type} (p : Push R) : Nat := max 1 p.job.devices.length

/-- The free slots, and all pushes in the order in which they came. Model of `Dispatcher`. -/
structure Dispatcher (R : Type) where
  free : Nat
  pushes : List (Push R) := []

/-- Something that happens to a dispatcher; the numbers say to which push. -/
inductive Step (R : Type)
  | submit (job : Job R) (cancelled : Bool)
  | grant (index : Nat)
  | withdraw (index : Nat)
  | cancel (index : Nat)
  | abandon (index : Nat)
  | advance (index : Nat)
  | answer (index : Nat) (verdict : Verdict)

namespace Push

variable {R : Type}

/-- Whether a push waits for a slot. -/
def isWaiting (p : Push R) : Bool :=
  match p.phase with
  | .waiting => true
  | _ => false

/-- Whether a push holds a slot. -/
def isRunning (p : Push R) : Bool :=
  match p.phase with
  | .running _ => true
  | _ => false

/-- Whether a push waits for the push network. -/
def isDelivering (p : Push R) : Bool :=
  match p.phase with
  | .running stage => stage.isDelivering
  | _ => false

/-- Whether a push is over. -/
def isEnded (p : Push R) : Bool :=
  match p.phase with
  | .ended => true
  | _ => false

/-- Puts a running push into a stage after some events. At the end it gives its slot back; the
    number says how many slots come free. -/
def moveTo (p : Push R) (stage : Stage R) (events : List Event) : Push R × Nat :=
  let p := { p with reported := p.reported ++ outcomes events }
  match stage with
  | .finished => ({ p with phase := .ended }, 1)
  | stage => ({ p with phase := .running stage }, 0)

end Push

namespace Dispatcher

variable {R : Type}

/-- The largest number of slots that can be served. -/
def maxSlots : Nat := Nat.pow 2 61 - 1

/-- The number of slots for a limit. -/
def slots (limit : Nat) : Nat := max 1 limit

/-- A dispatcher without pushes; `none` for a limit beyond what can be served.
    Model of `Dispatcher.new`. -/
def new (limit : Nat) : Option (Dispatcher R) :=
  if slots limit ≤ maxSlots then some { free := slots limit } else none

theorem new_isSome_iff (limit : Nat) :
    (new limit : Option (Dispatcher R)).isSome ↔ limit ≤ maxSlots := by
  have : 1 ≤ maxSlots := by decide
  unfold new slots
  split <;> simp <;> omega

/-- Replaces a push. -/
def put (d : Dispatcher R) (index : Nat) (p : Push R) : Dispatcher R :=
  { d with pushes := d.pushes.set index p }

/-- Puts a running push into a stage after some events. A push that comes to its end leaves, unless
    it `crashed`. -/
def moveTo (d : Dispatcher R) (index : Nat) (p : Push R) (stage : Stage R) (events : List Event)
    (crashed : Bool) : Dispatcher R × List Event :=
  let (p, freed) := p.moveTo stage events
  ({ d.put index p with free := d.free + freed },
    if freed = 1 ∧ crashed = false then events ++ [.left] else events)

/-- Takes one step. A step that is not possible changes nothing.
    Model of `Dispatcher.send` and of the task that it spawns. -/
def step (d : Dispatcher R) : Step R → Dispatcher R × List Event
  | .submit job cancelled =>
    ({ d with pushes := d.pushes ++ [{ job := job, cancelled := cancelled }] }, [])
  | .grant index =>
    match d.pushes[index]? with
    | some p =>
      if p.isWaiting && !p.cancelled && 0 < d.free then
        ({ d.put index { p with phase := .running .starting } with free := d.free - 1 }, [.entered])
      else (d, [])
    | none => (d, [])
  | .withdraw index =>
    match d.pushes[index]? with
    | some p =>
      if p.isWaiting && p.cancelled then (d.put index { p with phase := .ended }, []) else (d, [])
    | none => (d, [])
  | .cancel index =>
    match d.pushes[index]? with
    | some p => (d.put index { p with cancelled := true }, [])
    | none => (d, [])
  | .abandon index =>
    match d.pushes[index]? with
    | some p =>
      match p.phase with
      | .waiting => (d.put index { p with phase := .ended, listening := false }, [])
      | .running _ => (d.put index { p with listening := false }, [])
      | .ended => (d, [])
    | none => (d, [])
  | .advance index =>
    match d.pushes[index]? with
    | some p =>
      match p.phase with
      | .running stage =>
        if stage.moves then
          let (stage, events) := stage.advance p.job p.cancelled p.listening
          d.moveTo index p stage events false
        else (d, [])
      | _ => (d, [])
    | none => (d, [])
  | .answer index verdict =>
    match d.pushes[index]? with
    | some p =>
      match p.phase with
      | .running stage =>
        if stage.isDelivering then
          let (stage, events) := stage.answer p.listening verdict
          d.moveTo index p stage events (verdict == .crashed)
        else (d, [])
      | _ => (d, [])
    | none => (d, [])

/-- Takes steps in order. -/
def steps (d : Dispatcher R) : List (Step R) → Dispatcher R × List Event
  | [] => (d, [])
  | s :: rest =>
    let (d, events) := d.step s
    let (d, more) := d.steps rest
    (d, events ++ more)

/-- The number of pushes that hold a slot. -/
def running (d : Dispatcher R) : Nat := d.pushes.countP Push.isRunning

/-- The number of calls to the push network under way. -/
def inFlight (d : Dispatcher R) : Nat :=
  d.pushes.countP fun p =>
    match p.phase with
    | .running stage => stage.isDelivering
    | _ => false

end Dispatcher

end Courier.Dispatch
