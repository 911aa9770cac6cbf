import Concord.Act
import Concord.Http.Status
import Concord.Json.Value
import Concord.Url.Address

/-!
# Exchanges over HTTP

A request asks for an address or posts a JSON value to it.  An exchange ends without
a response in three ways, or in a response, whose body may in turn end before it is
complete.  What delivers requests is a link with a state of its own; what a response
means is left to those who ask.
-/

namespace Concord.Http

/-- A request. -/
inductive Query where
  /-- Asks for what is found at an address. -/
  | get (address : Url.Address)
  /-- Posts a value to an address. -/
  | post (address : Url.Address) (body : Json)
  deriving DecidableEq

/-- The body of a response, as far as it was read. -/
inductive Body where
  /-- The whole body. -/
  | complete (text : String)
  /-- The rest of the body did not come in time. -/
  | timedOut
  /-- The body broke off. -/
  | broken
  deriving Repr, DecidableEq

/-- How an exchange ends. -/
inductive Outcome where
  /-- No connection came about. -/
  | refused
  /-- No response came in time. -/
  | timedOut
  /-- The connection ended without a response. -/
  | dropped
  /-- A response came. -/
  | answered (status : Status) (body : Body)
  deriving Repr, DecidableEq

/-- What is received of a response that a server writes.  A provisional status is no
response yet, except the one that leaves HTTP behind, and two statuses have no body. -/
def Outcome.received (status : Status) (text : String) : Outcome :=
  if status.code = 101 ∨ status.code = 204 ∨ status.code = 304 then
    .answered status (.complete "")
  else if status.code < 200 then .dropped
  else .answered status (.complete text)

/-- What delivers requests. -/
structure Link (σ : Type) where
  /-- Delivers a request, and returns how the exchange ends. -/
  exchange : Query → σ → Outcome × σ

/-- Delivers a request over a link. -/
def Link.send {σ ε : Type} (l : Link σ) (q : Query) : Act σ ε Outcome := fun s =>
  let r := l.exchange q s.state
  .ok r.1 { s with state := r.2 }

end Concord.Http
