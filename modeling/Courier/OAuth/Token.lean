import Courier.Http.Message
import Courier.Moment

/-!
# Access tokens

A token is used until shortly before it expires. One slot holds the current token; whoever finds it
stale fetches a new one and puts it there.
-/

namespace Courier.OAuth

open Http (Attempt)

/-- A token, and how it is presented. Model of `AccessToken`. -/
structure AccessToken where
  value : String
  tokenType : String
  expiresAt : Moment
  deriving DecidableEq, Inhabited

/-- How a token is presented in a header. -/
def AccessToken.authorization (t : AccessToken) : String := t.tokenType ++ " " ++ t.value

/-- How many seconds before its end a token counts as stale. -/
def expiryMargin : Nat := 60

/-- Whether a token can still be used; `none` if the clock cannot tell.
    Model of `AccessToken.is_fresh`. -/
def AccessToken.isFresh? (t : AccessToken) (now : Moment) : Option Bool :=
  (now.later? expiryMargin).map (·.isBefore t.expiresAt)

/-- A clock, a slot for one token and a source of new ones, in a state of their own.
    Model of `TokenCache`. -/
structure Tokens (σ : Type) where
  now : σ → Moment
  load : σ → Option AccessToken
  store : AccessToken → σ → σ
  fetch : σ → Attempt AccessToken × σ

namespace Tokens

variable {σ : Type}

/-- Fetches a token and keeps it. -/
def refresh (t : Tokens σ) (s : σ) : Attempt AccessToken × σ :=
  match t.fetch s with
  | (.answered token, s) => (.answered token, t.store token s)
  | r => r

/-- The token in the slot if that is fresh, and a new one otherwise. Model of `TokenCache.get`. -/
def get (t : Tokens σ) (s : σ) : Attempt AccessToken × σ :=
  match t.load s with
  | none => t.refresh s
  | some token =>
    match token.isFresh? (t.now s) with
    | none => (.crashed, s)
    | some true => (.answered token, s)
    | some false => t.refresh s

end Tokens

end Courier.OAuth
