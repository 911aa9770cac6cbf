import Concord.Entity
import Concord.Fee.Custom
import Concord.Key.Generation
import Concord.Random.Stream
import Concord.Rpc.Client
import Concord.Table

/-!
# A simulated node

A node that answers calls in memory.  It generates keys from a random stream,
opens and closes sessions, and describes entities by the keys and fees that were
set.  Methods can be disabled, and the generation of keys can be made to fail after
a number of calls.

Whatever it is asked, it answers with the number of the request, and with a result
or an error (`Node.transport`).  Only what it answers with a result draws from its
stream.
-/

namespace Concord

open Text

/-! ## Nodes -/

/-- The state of a simulated node. -/
structure Node where
  /-- Where keys and names of sessions come from. -/
  random : Random.Stream
  /-- The number of calls that asked for a key while that was enabled. -/
  generateCalls : Nat
  /-- The number of those calls after which they fail, if they do. -/
  generateLimit : Option Nat
  /-- The methods that are disabled. -/
  disabled : List String
  /-- The encoded keys of entities. -/
  keys : Table Entity String
  /-- The fees of tokens. -/
  fees : Table String (List CustomFee)
  /-- The methods called so far, in order. -/
  methods : List String

namespace Node

/-- A node on a random stream, before anything is set. -/
def fresh (random : Random.Stream) : Node :=
  ⟨random, 0, none, [], .empty, .empty, []⟩

/-- A node on the stream of a seed. -/
def ofSeed (seed : UInt64) : Node := fresh (.ofSeed seed)

/-! ## Controls -/

/-- Makes the generation of keys fail after a number of calls. -/
def failGenerateAfter (n : Node) (calls : Nat) : Node :=
  { n with generateLimit := some calls }

def disable (n : Node) (method : String) : Node :=
  { n with disabled := method :: n.disabled }

def setKey (n : Node) (e : Entity) (encoded : String) : Node :=
  { n with keys := n.keys.put e encoded }

def setFees (n : Node) (token : String) (fees : List CustomFee) : Node :=
  { n with fees := n.fees.put token fees }

/-! ## Generating keys -/

/-- The number of draws that may be rejected.  One in `2 ^ 128` is. -/
def rejections : Nat := 256

/-- Draws the bytes of a private key.  What is no private key of the algorithm is
rejected, up to a number of times. -/
def drawSecret (a : Algorithm) : Nat → Random.Stream → List UInt8 × Random.Stream
  | 0, s => s.bytes privateSize
  | n + 1, s =>
    let r := s.bytes privateSize
    if PrivateKey.isValid a r.1 then r else drawSecret a n r.2

/-- Generates a private key in its encoded form. -/
def newPrivateKey (n : Node) (a : Algorithm) : String × Node :=
  let r := drawSecret a rejections n.random
  (PrivateKey.encode a r.1, { n with random := r.2 })

/-- The algorithm of a type of private key. -/
def algorithmOf? (type : String) : Option Algorithm :=
  Algorithm.all.find? fun a => a.privateType = type

/-- The type in the parameters of a call. -/
def typeIn (params : Json) : Option String :=
  (params.get? "type").bind Json.text?

/-- The generation of keys fails. -/
def generateFailed : Rpc.ErrorObject :=
  (Rpc.ErrorObject.new Rpc.internalError "Key generation failed").withStatus "INVALID_KEY_ENCODING"

/-- The type is none that can be generated. -/
def unsupportedType (type : Option String) : Rpc.ErrorObject :=
  .new Rpc.invalidParams ("Unsupported key type " ++ shownOption (type.map quoted))

/-- What the journal says of a key that is generated. -/
def generateText (call : Nat) (a : Algorithm) : String :=
  "generateKey #" ++ decimal call ++ " (" ++ a.name ++ ")"

/-- Whether a call that asks for a key fails, given its number. -/
def refusesGenerate (n : Node) (call : Nat) : Bool :=
  match n.generateLimit with
  | some limit => limit < call
  | none => false

/-- Answers a call that asks for a key. -/
def generateKey (params : Json) : Act Node Rpc.ErrorObject Json := do
  Act.update fun n => { n with generateCalls := n.generateCalls + 1 }
  let n ← Act.state
  if n.refusesGenerate n.generateCalls then throw generateFailed
  else
    match (typeIn params).bind algorithmOf? with
    | none => throw (unsupportedType (typeIn params))
    | some a => do
      Act.note .debug (generateText n.generateCalls a)
      let r := n.newPrivateKey a
      Act.update fun _ => r.2
      return .object [("key", .str r.1)]

/-! ## Sessions -/

/-- Answers a call that opens a session. -/
def openSession : Act Node Rpc.ErrorObject Json := do
  let n ← Act.state
  let r := n.random.nat32
  Act.update fun n => { n with random := r.2 }
  return .object [("message", .str "Successfully setup client"), ("status", .str "SUCCESS"),
    ("sessionId", .str ("session-" ++ String.ofList (paddedHex 8 r.1.toNat)))]

/-- The answer to a call that closes a session. -/
def sessionClosed : Json := .object [("status", .str "SUCCESS")]

/-! ## Describing entities -/

/-- The description of an entity. -/
def info (n : Node) (e : Entity) : Json :=
  let key := (e.kind.keyMember, Json.ofText? (n.keys.get? e))
  let members := [(e.kind.parameter, .str e.id), key]
  match e.kind with
  | .token =>
    .object (members ++
      [("customFees", .arr (((n.fees.get? e.id).getD []).map CustomFee.toJson))])
  | _ => .object members

def missingParameter (name : String) : Rpc.ErrorObject :=
  .new Rpc.invalidParams ("Missing '" ++ name ++ "'")

/-- Answers a call that describes an entity of a kind. -/
def describe (n : Node) (kind : EntityKind) (params : Json) : Except Rpc.ErrorObject Json :=
  match (params.get? kind.parameter).bind Json.text? with
  | some id => .ok (n.info ⟨kind, id⟩)
  | none => .error (missingParameter kind.parameter)

/-! ## Answers -/

/-- A method is not implemented. -/
def unknownMethod (method : String) : Rpc.ErrorObject :=
  .new Rpc.methodNotFound ("Method not found: " ++ method)

/-- Answers a call of an enabled method. -/
def answer (method : String) (params : Json) : Act Node Rpc.ErrorObject Json :=
  match method with
  | "generateKey" => generateKey params
  | "setup" => openSession
  | "reset" => pure sessionClosed
  | _ => do
    let n ← Act.state
    match EntityKind.ofMethod? method with
    | some kind => Act.ofExcept (n.describe kind params)
    | none => throw (unknownMethod method)

/-- Answers a call. -/
def handle (method : String) (params : Json) : Act Node Rpc.ErrorObject Json := do
  let n ← Act.state
  if method ∈ n.disabled then throw (unknownMethod method)
  else answer method params

/-- Answers a request, and keeps its method. -/
def respond (request : Rpc.Request) : Act Node Rpc.Error Rpc.Response := do
  Act.update fun n => { n with methods := n.methods ++ [request.method] }
  match ← Act.attempt (handle request.method request.params) with
  | .ok result => return .success request.id result
  | .error e => return .failure (.nat64 request.id) e

def transport : Rpc.Transport Node := ⟨respond⟩

end Node

end Concord
