import Concord.Json.Printer
import Concord.Json.Shape

/-!
# Requests and responses

The two sides of a remote call as JSON objects.  A request carries a number that
its response has to repeat.  A response holds the number as any JSON value, since a
server that could not read the request answers with `null`, and a result or an
error.

Each type has its shape (`ofJson`) and its written form (`toJson`).  A response that
is written and read again need not be the same: a result or a piece of data that is
`null` comes back as absent.
-/

namespace Concord.Rpc

open Concord.Json

/-! ## Codes -/

/-- The version that requests name. -/
def version : String := "2.0"

/-- The code of an unknown method. -/
def methodNotFound : Int64 := -32601

/-- The code of parameters that do not fit. -/
def invalidParams : Int64 := -32602

/-- The code of an internal failure. -/
def internalError : Int64 := -32603

/-! ## Requests -/

/-- A request. -/
structure Request where
  /-- The version of the protocol. -/
  version : String
  /-- The number that the response repeats. -/
  id : UInt64
  /-- The method that is called. -/
  method : String
  params : Json
  deriving Repr, DecidableEq

namespace Request

/-- A request of the current version. -/
def new (id : UInt64) (method : String) (params : Json) : Request :=
  ⟨Rpc.version, id, method, params⟩

def versionField : RecordField String := ⟨"jsonrpc", readString, .refused⟩

/-- The field of the number. -/
def idField : RecordField UInt64 := ⟨"id", readNat64, .refused⟩

def methodField : RecordField String := ⟨"method", readString, .refused⟩

def paramsField : RecordField Json := ⟨"params", readAny, .allowed .null⟩

/-- Reads a request. -/
def ofJson : Shape Request :=
  readRecord "RpcRequest" excessInArray
    [versionField.toCheck, idField.toCheck, methodField.toCheck, paramsField.toCheck]
    fun s => do
      let version ← versionField.get "RpcRequest" 4 0 s
      let id ← idField.get "RpcRequest" 4 1 s
      let method ← methodField.get "RpcRequest" 4 2 s
      let params ← paramsField.get "RpcRequest" 4 3 s
      return ⟨version, id, method, params⟩

/-- Writes a request. -/
def toJson (r : Request) : Json :=
  .object [("jsonrpc", .str r.version), ("id", .nat64 r.id),
    ("method", .str r.method), ("params", r.params)]

end Request

/-! ## Errors of a server -/

/-- The error that a response carries. -/
structure ErrorObject where
  /-- The code of the error. -/
  code : Int64
  /-- What the server says of it. -/
  message : String
  /-- Anything else the server says. -/
  data : Option Json
  deriving Repr, DecidableEq

namespace ErrorObject

/-- An error without data. -/
def new (code : Int64) (message : String) : ErrorObject := ⟨code, message, none⟩

/-- An error whose data is a status. -/
def withStatus (e : ErrorObject) (status : String) : ErrorObject :=
  { e with data := some (.object [("status", .str status)]) }

/-- The status in the data of an error. -/
def status (e : ErrorObject) : Option String :=
  (e.data.bind (·.get? "status")).bind Json.text?

def codeField : RecordField Int64 := ⟨"code", readInt64, .refused⟩

def messageField : RecordField String := ⟨"message", readString, .allowed ""⟩

def dataField : RecordField (Option Json) := ⟨"data", readOption readAny, .allowed none⟩

/-- Reads an error. -/
def ofJson : Shape ErrorObject :=
  readRecord "RpcErrorObject" excessInArray
    [codeField.toCheck, messageField.toCheck, dataField.toCheck]
    fun s => do
      let code ← codeField.get "RpcErrorObject" 3 0 s
      let message ← messageField.get "RpcErrorObject" 3 1 s
      let data ← dataField.get "RpcErrorObject" 3 2 s
      return ⟨code, message, data⟩

/-- Writes an error. -/
def toJson (e : ErrorObject) : Json :=
  .object ([("code", .int64 e.code), ("message", .str e.message)] ++
    match e.data with
    | none => []
    | some d => [("data", d)])

end ErrorObject

/-! ## Responses -/

/-- A response. -/
structure Response where
  /-- The version of the protocol, if it is named. -/
  version : Option String
  /-- The number of the request, as any value. -/
  id : Json
  /-- The result of the call. -/
  result : Option Json
  /-- The error of the call. -/
  error : Option ErrorObject
  deriving Repr, DecidableEq

namespace Response

/-- The response to a call that succeeds. -/
def success (id : UInt64) (result : Json) : Response :=
  ⟨some Rpc.version, .nat64 id, some result, none⟩

/-- The response to a call that fails. -/
def failure (id : Json) (error : ErrorObject) : Response :=
  ⟨some Rpc.version, id, none, some error⟩

def versionField : RecordField (Option String) := ⟨"jsonrpc", readOption readString, .allowed none⟩

/-- The field of the number. -/
def idField : RecordField Json := ⟨"id", readAny, .allowed .null⟩

def resultField : RecordField (Option Json) := ⟨"result", readOption readAny, .allowed none⟩

def errorField : RecordField (Option ErrorObject) :=
  ⟨"error", readOption ErrorObject.ofJson, .allowed none⟩

/-- Reads a response. -/
def ofJson : Shape Response :=
  readRecord "RpcResponse" excessInArray
    [versionField.toCheck, idField.toCheck, resultField.toCheck, errorField.toCheck]
    fun s => do
      let version ← versionField.get "RpcResponse" 4 0 s
      let id ← idField.get "RpcResponse" 4 1 s
      let result ← resultField.get "RpcResponse" 4 2 s
      let error ← errorField.get "RpcResponse" 4 3 s
      return ⟨version, id, result, error⟩

/-- Writes a response. -/
def toJson (r : Response) : Json :=
  .object ([("jsonrpc", .ofText? r.version), ("id", r.id)] ++
    (match r.result with
    | none => []
    | some v => [("result", v)]) ++
    match r.error with
    | none => []
    | some e => [("error", e.toJson)])

end Response

end Concord.Rpc
