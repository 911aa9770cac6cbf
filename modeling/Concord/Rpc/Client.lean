import Concord.Act
import Concord.Context
import Concord.Rpc.Error

/-!
# Calls

A client numbers its requests from one and hands them to a transport.  A call has
four steps:

* `bindSession` puts the session of the context into the parameters, or refuses them;
* `Client.allocate` takes the next number;
* the transport sends the request;
* `settle` compares the number of the response with that of the request and
  classifies what it holds.

A call that is refused in the first step takes no number and sends nothing.  A
response counts for a call when it repeats its number; an error may also come with
`null`.
-/

namespace Concord.Rpc

open Concord.Text

/-! ## Transports -/

/-- What delivers a request and returns a response.  Classifying the response is
left to the client. -/
structure Transport (σ : Type) where
  send : Request → Act σ Error Response

/-- A client: the number of the latest request, and the state of its transport. -/
structure Client (σ : Type) where
  /-- The number of the latest request, zero before the first. -/
  lastId : UInt64
  /-- The state of the transport. -/
  link : σ
  deriving Repr

namespace Client

variable {σ : Type}

/-- A client before its first request. -/
def fresh (link : σ) : Client σ := ⟨0, link⟩

/-- The state of the transport as a part of a client. -/
def linkPart : Part (Client σ) σ := ⟨Client.link, fun c s => { c with link := s }⟩

/-- Takes the next number. -/
def allocate (c : Client σ) : Client σ := { c with lastId := c.lastId + 1 }

end Client

/-! ## The pure steps -/

/-- The parameters of a call under a session: an object that names the session. -/
def bindSession (ctx : Context) (method : String) (params : Json) : Except Error Json :=
  match ctx.session with
  | none => .ok params
  | some s =>
    match params with
    | .obj members => .ok (.obj (Json.Members.insert members "sessionId" (.str s)))
    | .null => .ok (.obj [("sessionId", .str s)])
    | params => .error (.invalidParams method params)

/-- Whether a response counts for the request of a number. -/
def answers (id : UInt64) (r : Response) : Bool :=
  r.id = .nat64 id || (r.id = .null && r.error.isSome)

/-- The outcome of a call, given the response to the request of a number. -/
def settle (method : String) (id : UInt64) (r : Response) : Except Error Json :=
  if answers id r then
    match r.error with
    | some e => .error (.ofErrorObject method e)
    | none => .ok (r.result.getD .null)
  else .error (.mismatchedId id r.id)

/-! ## Records of the journal -/

/-- A request goes out. -/
def sendingText (ctx : Context) (method : String) (id : UInt64) : String :=
  ctx.tag ++ "-> " ++ method ++ " (id " ++ decimal id.toNat ++ ")"

/-- A response has come in. -/
def settledText (ctx : Context) (method : String) (id : UInt64) : Except Error Json → String
  | .ok _ => ctx.tag ++ "<- " ++ method ++ " (id " ++ decimal id.toNat ++ ") ok"
  | .error e =>
    ctx.tag ++ "<- " ++ method ++ " (id " ++ decimal id.toNat ++ ") failed: " ++ e.message

/-! ## Calls -/

namespace Client

variable {σ : Type}

/-- Calls a method, and returns its result. -/
def call (t : Transport σ) (ctx : Context) (method : String) (params : Json) :
    Act (Client σ) Error Json := do
  let params ← Act.ofExcept (bindSession ctx method params)
  Act.update allocate
  let id := (← Act.state).lastId
  Act.note .debug (sendingText ctx method id)
  let response ← Act.within linkPart (t.send (.new id method params))
  if answers id response then
    Act.note .debug (settledText ctx method id (settle method id response))
  Act.ofExcept (settle method id response)

/-- Calls a method, and reads its result in a shape. -/
def callAs {α : Type} (t : Transport σ) (ctx : Context) (method : String) (params : Json)
    (read : Json.Shape α) : Act (Client σ) Error α := do
  let result ← call t ctx method params
  match read result with
  | .ok a => return a
  | .error e => throw (.invalidResponse (.unexpectedResult method e))

end Client

end Concord.Rpc
