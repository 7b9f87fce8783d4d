import Courier.OAuth.Token

/-!
# One slot, many users

Many users ask for a token at once. Each loads the slot, looks whether the token in it is fresh, and
otherwise fetches a new one and stores it. Their steps may come in any order, and the clock may move
between any two of them.

Results:

* `Sharing.slot_step`: only a store changes the slot.
-/

namespace Courier.OAuth

open Http (Attempt)

/-- How far a fetch has come. It may be dropped while it is under way. -/
inductive Fetch
  | underWay
  | returned (token : AccessToken)
  | stored (token : AccessToken)
  | failed (error : SendError)
  | dropped
  | crashed
  deriving DecidableEq, Inhabited

/-- A fetch that has just come to its end. -/
def Fetch.ended : Attempt AccessToken → Fetch
  | .answered token => .returned token
  | .failed error => .failed error
  | .crashed => .crashed

/-- What a fetch came to. -/
def Fetch.result? : Fetch → Option (Attempt AccessToken)
  | .returned token | .stored token => some (.answered token)
  | .failed error => some (.failed error)
  | .crashed => some .crashed
  | .underWay | .dropped => none

/-- Where the request of one user stands: it has loaded the slot, it uses what it found there, the
    clock could not tell whether that is fresh, or it fetches a new token. -/
inductive Stage
  | loaded
  | reused (token : AccessToken)
  | unclear
  | fetching (fetch : Fetch)
  deriving DecidableEq, Inhabited

/-- What the fetch of a request came to. -/
def Stage.result? : Stage → Option (Attempt AccessToken)
  | .fetching fetch => fetch.result?
  | _ => none

/-- What a user gets in the end. One who has dropped the request gets nothing. -/
def Stage.ending? : Stage → Option (Attempt AccessToken)
  | .reused token | .fetching (.stored token) => some (.answered token)
  | .fetching (.failed error) => some (.failed error)
  | .unclear | .fetching .crashed => some .crashed
  | _ => none

/-- The request of one user, with the time at which it loaded the slot and what it found there. -/
structure Getting where
  loadedAt : Moment
  found : Option AccessToken
  stage : Stage := .loaded
  deriving DecidableEq, Inhabited

/-- Whether a request has begun a fetch. -/
def Getting.fetches (g : Getting) : Bool :=
  match g.stage with
  | .fetching _ => true
  | _ => false

/-- Looks whether what was found is fresh. -/
def Getting.afterTest (g : Getting) (now : Moment) : Stage :=
  match g.found with
  | none => .fetching .underWay
  | some token =>
    match token.isFresh? now with
    | some true => .reused token
    | some false => .fetching .underWay
    | none => .unclear

/-- The time, the slot, the requests of all users in the order in which they began, and what the
    fetches came to that were not dropped, each with the number of its request.
    Model of a `TokenCache` that several users share. -/
structure Sharing where
  now : Moment
  slot : Option AccessToken := none
  gettings : List Getting := []
  fetches : List (Nat × Attempt AccessToken) := []
  deriving Inhabited

namespace Sharing

/-- Something that happens; the numbers say to which request. -/
inductive Step
  | wait (time : Moment)
  | load
  | test (index : Nat)
  | answer (index : Nat) (result : Attempt AccessToken)
  | store (index : Nat)
  | drop (index : Nat)

/-- The request to which a step happens; a load begins a new one. -/
def Step.index? : Step → Option Nat
  | .wait _ | .load => none
  | .test index | .answer index _ | .store index | .drop index => some index

/-- Puts a request into a stage. -/
def enter (s : Sharing) (index : Nat) (g : Getting) (stage : Stage) : Sharing :=
  { s with gettings := s.gettings.set index { g with stage := stage } }

/-- Takes one step. A step that is not possible changes nothing. -/
def step (s : Sharing) : Step → Sharing
  | .wait time => if s.now.isBefore time then { s with now := time } else s
  | .load => { s with gettings := s.gettings ++ [{ loadedAt := s.now, found := s.slot }] }
  | .test index =>
    match s.gettings[index]? with
    | some g => if g.stage = .loaded then s.enter index g (g.afterTest s.now) else s
    | none => s
  | .answer index result =>
    match s.gettings[index]? with
    | some g =>
      if g.stage = .fetching .underWay then
        { s.enter index g (.fetching (.ended result)) with
          fetches := s.fetches ++ [(index, result)] }
      else s
    | none => s
  | .store index =>
    match s.gettings[index]? with
    | some g =>
      match g.stage with
      | .fetching (.returned token) =>
        { s.enter index g (.fetching (.stored token)) with slot := some token }
      | _ => s
    | none => s
  | .drop index =>
    match s.gettings[index]? with
    | some g =>
      if g.stage = .fetching .underWay then s.enter index g (.fetching .dropped) else s
    | none => s

/-- Takes steps in order. -/
def steps (s : Sharing) (l : List Step) : Sharing := l.foldl step s

/-- How many fetches were begun. -/
def fetchCount (s : Sharing) : Nat := s.gettings.countP Getting.fetches

theorem slot_step (s : Sharing) (e : Step) :
    (s.step e).slot = s.slot ∨ ∃ index g token, e = .store index ∧ s.gettings[index]? = some g ∧
      g.stage = .fetching (.returned token) ∧ (s.step e).slot = some token := by
  cases e <;> grind [step, enter]

end Sharing

end Courier.OAuth
