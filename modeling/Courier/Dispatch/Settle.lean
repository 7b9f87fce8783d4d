import Courier.Dispatch.Slots

/-!
# Running until nothing moves

Waiting pushes get slots in the order in which they came, every push moves as far as it can, and the
push network is asked about each call under way. `Dispatcher.settle` goes on until nothing moves.
-/

namespace Courier.Dispatch

/-- The answer to a call, and whether the push is cancelled at that moment. -/
structure Answer where
  verdict : Verdict
  cancels : Bool := false
  deriving DecidableEq, Repr, Inhabited

variable {R σ : Type}

/-- The step that a push can take without the push network. -/
def Push.ownStep? (p : Push R) (index : Nat) (hasSlot : Bool) : Option (Step R) :=
  match p.phase with
  | .waiting =>
    if p.cancelled then some (.withdraw index)
    else if hasSlot then some (.grant index) else none
  | .running stage => if stage.moves then some (.advance index) else none
  | .ended => none

/-- An upper bound for the steps that a push has left. -/
def Push.work (p : Push R) : Nat :=
  match p.phase with
  | .waiting => 2 * p.job.devices.length + 4
  | .running stage => stage.work p.job + 1
  | .ended => 0

namespace Dispatcher

/-- The first step that a push can take without the push network. -/
def ownStep? (d : Dispatcher R) : Option (Step R) :=
  d.pushes.zipIdx.findSome? fun (p, index) => p.ownStep? index (0 < d.free)

/-- Asks about the calls under way until one is answered. -/
def ask (respond : Nat → Push R → String → σ → Option Answer × σ) :
    List (Push R × Nat) → σ → Option (Nat × Answer) × σ
  | [], s => (none, s)
  | (p, index) :: rest, s =>
    match p.phase with
    | .running (.delivering _ token _) =>
      match respond index p token s with
      | (some answer, s) => (some (index, answer), s)
      | (none, s) => ask respond rest s
    | _ => ask respond rest s

/-- The steps that an answer makes. -/
def answerSteps (index : Nat) (answer : Answer) : List (Step R) :=
  (if answer.cancels then [.cancel index] else []) ++ [.answer index answer.verdict]

/-- An upper bound for the steps that all pushes have left. -/
def work (d : Dispatcher R) : Nat := d.pushes.foldr (fun p n => p.work + n) 0

/-- Runs for so many steps at most, or until nothing moves. -/
def settleFor (respond : Nat → Push R → String → σ → Option Answer × σ) :
    Nat → Dispatcher R → σ → Dispatcher R × List Event × σ
  | 0, d, s => (d, [], s)
  | n + 1, d, s =>
    match d.ownStep? with
    | some step =>
      let (d, events) := d.step step
      let (d, more, s) := settleFor respond n d s
      (d, events ++ more, s)
    | none =>
      match ask respond d.pushes.zipIdx s with
      | (some (index, answer), s) =>
        let (d, events) := d.steps (answerSteps index answer)
        let (d, more, s) := settleFor respond n d s
        (d, events ++ more, s)
      | (none, s) => (d, [], s)

/-- Runs until nothing moves. -/
def settle (respond : Nat → Push R → String → σ → Option Answer × σ) (d : Dispatcher R) (s : σ) :
    Dispatcher R × List Event × σ :=
  settleFor respond (d.work + 1) d s

end Dispatcher

end Courier.Dispatch
