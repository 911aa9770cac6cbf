import Concord.Rpc.Exchange

/-!
# Failures of a call

A call fails in one of six ways, and callers branch on the way.  A method that is
not implemented is a signal to skip a check; an error of the application is an
outcome that a check may expect; everything else is a failure of the
infrastructure.

The error that a server sends is classified by its code alone
(`Error.ofErrorObject`).
-/

namespace Concord.Rpc

open Concord.Text

/-! ## Responses that cannot be used -/

/-- Why a response is of no use. -/
inductive ResponseFault where
  /-- The body is not a response. -/
  | unreadable
  /-- The result of a method does not have the shape wanted. -/
  | unexpectedResult (method : String) (error : Json.ShapeError)
  deriving Repr, DecidableEq

/-- The wording of each fault. -/
def ResponseFault.message : ResponseFault → String
  | .unreadable => "Failed to parse JSON response:"
  | .unexpectedResult method e => "Unexpected result for '" ++ method ++ "': " ++ e.message

/-! ## Failures -/

/-- Why a call failed. -/
inductive Error where
  /-- No response came back. -/
  | transport (message : String)
  /-- The server does not implement the method. -/
  | notImplemented (method : String) (message : Option String)
  /-- The server answered with an error. -/
  | application (code : Int64) (status message : Option String)
  /-- The response repeats another number than that of the request. -/
  | mismatchedId (expected : UInt64) (got : Json)
  /-- The response is of no use. -/
  | invalidResponse (fault : ResponseFault)
  /-- The parameters of a call within a session are not an object, and the request
  was not sent. -/
  | invalidParams (method : String) (params : Json)
  deriving Repr, DecidableEq

namespace Error

/-- A text, unless it is empty. -/
def nonEmpty (s : String) : Option String :=
  if s = "" then none else some s

/-- The failure that the error of a server stands for. -/
def ofErrorObject (method : String) (e : ErrorObject) : Error :=
  if e.code = Rpc.methodNotFound then .notImplemented method (nonEmpty e.message)
  else .application e.code e.status (nonEmpty e.message)

/-- The code of a failure. -/
def code : Error → Int64
  | .notImplemented _ _ => Rpc.methodNotFound
  | .application code _ _ => code
  | .invalidParams _ _ => Rpc.invalidParams
  | _ => Rpc.internalError

/-- The status of an error of the application. -/
def status : Error → Option String
  | .application _ status _ => status
  | _ => none

/-- What the server says of a failure. -/
def detail : Error → Option String
  | .notImplemented _ message => message
  | .application _ _ message => message
  | _ => none

/-- Whether the method is not implemented. -/
def isNotImplemented : Error → Bool
  | .notImplemented _ _ => true
  | _ => false

/-- Whether the server answered with an error. -/
def isApplication : Error → Bool
  | .application _ _ _ => true
  | _ => false

/-- The wording of each failure. -/
def message : Error → String
  | .transport m => "Transport error: " ++ m
  | .notImplemented method _ => "Method '" ++ method ++ "' is not implemented by the backend"
  | .application code status message =>
    "RPC error " ++ decimalInt code.toInt ++
      (match status with
      | some s => " [" ++ s ++ "]"
      | none => "") ++
      match message with
      | some m => ": " ++ m
      | none => ""
  | .mismatchedId expected got =>
    "Response id " ++ got.compact ++ " does not match request id " ++ decimal expected.toNat
  | .invalidResponse fault => "Invalid response: " ++ fault.message
  | .invalidParams method params =>
    "Invalid params: '" ++ method ++ "' is session-bound but its params are not an object: " ++
      params.compact

end Error

end Concord.Rpc
