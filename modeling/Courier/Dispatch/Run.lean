import Courier.Dispatch.Stage

/-!
# One push from start to end

The whole course of a push that somebody listens to, device by device. `cancelled` says in each
state whether the caller has given up, `deliver` asks the push network.
-/

namespace Courier.Dispatch

variable {R σ : Type}

/-- Reports one and the same conversion error for each device. -/
def refuse (cancelled : σ → Bool) (error : ConversionError) (s : σ) : List String → List Event
  | [] => []
  | token :: rest =>
    if cancelled s then []
    else .reported ⟨token, some (.conversion error)⟩ :: refuse cancelled error s rest

/-- Delivers to one device after the other. The flag says whether the push ended on its own terms,
    and not by a crash. -/
def sendAll (cancelled : σ → Bool) (deliver : R → String → σ → Verdict × σ) (nopMode : Bool)
    (request : R) : List String → σ → List Event × Bool × σ
  | [], s => ([], true, s)
  | token :: rest, s =>
    if cancelled s then ([], true, s)
    else if token = "" then
      let (events, ended, s) := sendAll cancelled deliver nopMode request rest s
      (.reported emptyToken :: events, ended, s)
    else if nopMode then
      let (events, ended, s) := sendAll cancelled deliver nopMode request rest s
      (.reported ⟨token, none⟩ :: events, ended, s)
    else
      let (verdict, s) := deliver request token s
      let (first, goesOn) := verdictEvents token verdict
      if goesOn then
        let (events, ended, s) := sendAll cancelled deliver nopMode request rest s
        (.called token :: first ++ events, ended, s)
      else (.called token :: first, verdict ≠ .crashed, s)

/-- Dispatches a push that holds a slot. Model of `DispatcherInner.dispatch`. -/
def run (cancelled : σ → Bool) (deliver : R → String → σ → Verdict × σ) (job : Job R) (s : σ) :
    List Event × σ :=
  if job.devices = [] then ([.entered, .reported emptyList, .left], s)
  else
    match job.converted with
    | .ok .ignore => ([.entered, .converted, .left], s)
    | .error error =>
      (.entered :: .converted :: refuse cancelled error s job.devices ++ [.left], s)
    | .ok (.send request) =>
      let (events, ended, s) := sendAll cancelled deliver job.nopMode request job.devices s
      (.entered :: .converted :: events ++ (if ended then [.left] else []), s)

/-- Dispatches a push, unless it is cancelled before it gets a slot. -/
def serve (cancelled : σ → Bool) (deliver : R → String → σ → Verdict × σ) (job : Job R) (s : σ) :
    List Event × σ :=
  if cancelled s then ([], s) else run cancelled deliver job s

end Courier.Dispatch
