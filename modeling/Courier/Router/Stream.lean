import Courier.Router.FanOut

/-!
# A stream of pushes

Pushes are pulled one after the other, and each is under way while the next ones are pulled. The
dead tokens of a project are passed on as soon as they are joined, through a buffer that the reader
of the stream empties. Once the stream is cancelled or its input has ended, no more pushes are
pulled; the stream ends when those under way are over. The steps of the stream, of its pushes and of
their projects may come in any order.

Results:

* `PushStream.look_cancelled`: a cancelled stream stops and pulls nothing.
-/

namespace Courier

variable {R : Type}

/-! ## One push of a stream -/

/-- A push that was pulled, how far it has come, what was joined and not yet passed on, and whether
    the stream has taken note of its end. It has its own view of the dispatchers, in which the
    pushes of the rest of the stream are among those of others. -/
structure Flight (R : Type) where
  push : Push
  fanOut : FanOut R
  held : Option Invalidations := none
  reaped : Bool := false

namespace Flight

/-- Starts a push. -/
def start (r : Router (Site R)) (p : Push) : Flight R := { push := p, fanOut := .start r p }

/-- What is yielded for a project. -/
def item (f : Flight R) (l : Lane R) : Invalidations := ⟨f.push.correlationId, l.project, l.dead⟩

/-- Takes one step of the tasks. Nothing is joined before what was joined last has been passed on,
    and no push is cancelled alone. -/
def step (replies : String → Nat → Verdict) (f : Flight R) (s : FanOut.Step R) : Flight R :=
  match s with
  | .inside .. => { f with fanOut := f.fanOut.step replies s }
  | .cancel => f
  | .join _ =>
    match f.held, f.fanOut.joins? s with
    | none, some l => { f with fanOut := f.fanOut.step replies s, held := some (f.item l) }
    | _, _ => f

/-- Cancels a push together with the stream. -/
def cancel (f : Flight R) : Flight R :=
  { f with fanOut := { f.fanOut with
      lanes := f.fanOut.lanes.map fun l => l.modify .cancel
      cancelled := true } }

/-- Whether all that was joined has been passed on, and nothing is left to join. -/
def isDone (f : Flight R) : Bool := f.held.isNone && f.fanOut.isOver

/-- Passes on what is held. -/
def release (f : Flight R) : Flight R := { f with held := none }

/-- Notes the end of a push, if it is over. -/
def reap (f : Flight R) : Flight R := { f with reaped := f.reaped || f.isDone }

end Flight

/-! ## Streams -/

/-- How many items may wait for the reader. Model of `STREAM_BUFFER`. -/
def streamBuffer : Nat := 64

/-- The pushes that were pulled, in order, what waits for the reader, and what was yielded. -/
structure PushStream (R : Type) where
  flights : List (Flight R) := []
  buffer : List Invalidations := []
  yielded : List Invalidations := []
  cancelled : Bool := false
  stopped : Bool := false

namespace PushStream

/-- Something that happens: the stream looks what to do next, where `pick` is the push of which it
    takes note and `ready` says whether the input answers at once; it is cancelled; one of the
    pushes moves on, or passes on what it holds; or the reader takes an item. -/
inductive Step (R : Type)
  | look (pick : Nat) (ready : Bool)
  | cancel
  | inside (index : Nat) (step : FanOut.Step R)
  | emit (index : Nat)
  | read

/-- Takes note of the end of a push, if it is over. -/
def reap (s : PushStream R) (index : Nat) : PushStream R :=
  { s with flights := s.flights.modify index Flight.reap }

/-- Pulls the next push and starts it. The end of the input stops the stream. -/
def pull (r : Router (Site R)) (input : Nat → Option Push) (s : PushStream R) : PushStream R :=
  match input s.flights.length with
  | some p => { s with flights := s.flights ++ [.start r p] }
  | none => { s with stopped := true }

/-- Looks what to do next: a cancellation comes first, then the ends of pushes, then the input. Once
    stopped, the stream only waits for the ends of its pushes. -/
def look (r : Router (Site R)) (input : Nat → Option Push) (s : PushStream R) (pick : Nat)
    (ready : Bool) : PushStream R :=
  if s.stopped then s.reap pick
  else if s.cancelled then { s with stopped := true }
  else if s.flights.any fun f => f.isDone && !f.reaped then s.reap pick
  else if ready then s.pull r input
  else s

/-- Takes one step. `input` are the pushes in the order in which they arrive, and `replies` the
    answers to the calls of each push and project in order. A step that is not possible changes
    nothing. Model of the loop of `Router.push_stream`. -/
def step (r : Router (Site R)) (input : Nat → Option Push)
    (replies : Nat → String → Nat → Verdict) (s : PushStream R) : Step R → PushStream R
  | .look pick ready => s.look r input pick ready
  | .cancel => { s with flights := s.flights.map Flight.cancel, cancelled := true }
  | .inside index e =>
    { s with flights := s.flights.modify index fun f => f.step (replies index) e }
  | .emit index =>
    match s.flights[index]?.bind Flight.held with
    | some item =>
      if s.buffer.length < streamBuffer then
        { s with
          flights := s.flights.modify index Flight.release
          buffer := s.buffer ++ [item] }
      else s
    | none => s
  | .read =>
    match s.buffer with
    | item :: rest => { s with buffer := rest, yielded := s.yielded ++ [item] }
    | [] => s

/-- Takes steps in order. -/
def steps (r : Router (Site R)) (input : Nat → Option Push)
    (replies : Nat → String → Nat → Verdict) (s : PushStream R) (l : List (Step R)) :
    PushStream R :=
  l.foldl (step r input replies) s

/-- The pushes that were pulled, in order. -/
def pulled (s : PushStream R) : List Push := s.flights.map Flight.push

/-- Whether the stream has ended: nothing is under way and the reader has taken everything. -/
def isOver (s : PushStream R) : Bool :=
  s.stopped && s.flights.all Flight.reaped && s.buffer.isEmpty

theorem look_cancelled {s : PushStream R} (hs : s.stopped = false) (hc : s.cancelled = true)
    (r : Router (Site R)) (input : Nat → Option Push) (pick : Nat) (ready : Bool) :
    s.look r input pick ready = { s with stopped := true } := by
  simp [look, hs, hc]

end PushStream

end Courier
