import Courier.Http.Message

/-!
# Scripted networks

A network that is given by what comes of its requests, one after the other. It keeps the requests
that were sent.
-/

namespace Courier.Http

/-- What is still to come, what comes when nothing is left, what was sent, and whether the caller
    has cancelled. -/
structure Script where
  exchanges : List Exchange
  otherwise : Exchange := .reply { status := .ok, body := [0x7B, 0x7D] }
  requests : List Request := []
  cancelled : Bool := false
  deriving Inhabited

namespace Script

/-- Sends a request. An interrupted exchange cancels the caller. -/
def post (request : Request) (s : Script) : Exchange × Script :=
  let e := s.exchanges.headD s.otherwise
  (e, { s with
    exchanges := s.exchanges.drop 1
    requests := s.requests ++ [request]
    cancelled := s.cancelled || e == .interrupted })

/-- A scripted network. -/
def wire : Wire Script := ⟨cancelled, post⟩

end Script

end Courier.Http
