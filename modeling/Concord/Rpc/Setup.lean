import Concord.Rpc.Client

/-!
# Opening and closing a session

A session is opened with the account that pays for what a scenario does, and
optionally with the network to use.  Whoever opens it keeps its name, which the
answer gives, in a context.
-/

namespace Concord.Rpc

open Concord.Json

/-- What a session is opened with. -/
structure SetupParams where
  /-- The account that pays. -/
  operatorAccount : String
  /-- Its private key. -/
  operatorKey : String
  /-- The address of a node of the network. -/
  nodeIp : Option String
  nodeAccount : Option String
  /-- The address of the mirror of the network. -/
  mirrorIp : Option String
  deriving Repr, DecidableEq

namespace SetupParams

/-- The field of the account that pays. -/
def operatorAccountField : RecordField String := ⟨"operatorAccountId", readString, .refused⟩

def operatorKeyField : RecordField String := ⟨"operatorPrivateKey", readString, .refused⟩

/-- The field of the address of a node. -/
def nodeIpField : RecordField (Option String) := ⟨"nodeIp", readOption readString, .allowed none⟩

def nodeAccountField : RecordField (Option String) :=
  ⟨"nodeAccountId", readOption readString, .allowed none⟩

/-- The field of the address of the mirror. -/
def mirrorIpField : RecordField (Option String) :=
  ⟨"mirrorNetworkIp", readOption readString, .allowed none⟩

/-- Reads what a session is opened with. -/
def ofJson : Shape SetupParams :=
  readRecord "SetupParams" excessInArray
    [operatorAccountField.toCheck, operatorKeyField.toCheck, nodeIpField.toCheck,
      nodeAccountField.toCheck, mirrorIpField.toCheck]
    fun s => do
      let account ← operatorAccountField.get "SetupParams" 5 0 s
      let key ← operatorKeyField.get "SetupParams" 5 1 s
      let ip ← nodeIpField.get "SetupParams" 5 2 s
      let node ← nodeAccountField.get "SetupParams" 5 3 s
      let mirror ← mirrorIpField.get "SetupParams" 5 4 s
      return ⟨account, key, ip, node, mirror⟩

/-- A member that is written only when there is a text. -/
def member (name : String) : Option String → List (String × Json)
  | none => []
  | some s => [(name, .str s)]

/-- Writes what a session is opened with. -/
def toJson (p : SetupParams) : Json :=
  .object ([("operatorAccountId", .str p.operatorAccount),
    ("operatorPrivateKey", .str p.operatorKey)] ++
    member "nodeIp" p.nodeIp ++ member "nodeAccountId" p.nodeAccount ++
    member "mirrorNetworkIp" p.mirrorIp)

end SetupParams

/-- The answer to the opening of a session. -/
structure SetupResponse where
  /-- What the server says. -/
  message : Option String
  /-- The status of the opening. -/
  status : Option String
  /-- The name of the session. -/
  session : Option String
  deriving Repr, DecidableEq

namespace SetupResponse

/-- The field of what the server says. -/
def messageField : RecordField (Option String) := ⟨"message", readOption readString, .allowed none⟩

def statusField : RecordField (Option String) := ⟨"status", readOption readString, .allowed none⟩

/-- The field of the name of the session. -/
def sessionField : RecordField (Option String) :=
  ⟨"sessionId", readOption readString, .allowed none⟩

/-- Reads the answer. -/
def ofJson : Shape SetupResponse :=
  readRecord "SetupResponse" excessInArray
    [messageField.toCheck, statusField.toCheck, sessionField.toCheck]
    fun s => do
      let message ← messageField.get "SetupResponse" 3 0 s
      let status ← statusField.get "SetupResponse" 3 1 s
      let session ← sessionField.get "SetupResponse" 3 2 s
      return ⟨message, status, session⟩

/-- Writes the answer. -/
def toJson (r : SetupResponse) : Json :=
  .object [("message", .ofText? r.message), ("status", .ofText? r.status),
    ("sessionId", .ofText? r.session)]

end SetupResponse

namespace Client

variable {σ : Type}

/-- Opens a session. -/
def setup (t : Transport σ) (ctx : Context) (params : SetupParams) :
    Act (Client σ) Error SetupResponse :=
  callAs t ctx "setup" params.toJson SetupResponse.ofJson

/-- Closes the session of a context. -/
def reset (t : Transport σ) (ctx : Context) : Act (Client σ) Error Unit := do
  let _ ← call t ctx "reset" (.obj [])
  return ()

end Client

end Concord.Rpc
