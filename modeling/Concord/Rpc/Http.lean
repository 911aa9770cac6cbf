import Concord.Http.Exchange
import Concord.Json.Parser
import Concord.Poll.Duration
import Concord.Rpc.Client

/-!
# Calls over HTTP

A request is posted as JSON, and the response to the call is the body of what comes
back.  A body that is a response counts when the status is a success or the body
carries an error, so that a server may answer errors under any status.  Any other
body under a success is of no use, and any other status is a failure of the
transport.

Reading the body is strict about the members that a response has: none of them may
be repeated, and each has to have its shape.  Other members are not looked at
(`Json.Written.record?`).
-/

namespace Concord

open Text

/-! ## Bodies -/

namespace Json

/-- How the value of a member is evaluated. -/
abbrev Evaluation := Written → Option Json

/-- The values under a name. -/
def Written.named (name : String) (members : List (Option String × Written)) : List Written :=
  (members.filter fun m => m.1 = some name).map Prod.snd

/-- The members of an object that have the names of a record, each of which may be
there once. -/
def Written.fields? (members : List (Option String × Written)) :
    List (String × Evaluation) → Option (List (String × Json))
  | [] => some []
  | (name, evaluate) :: rest =>
    match Written.named name members with
    | [] => Written.fields? members rest
    | [w] => (evaluate w).bind fun v => (Written.fields? members rest).map ((name, v) :: ·)
    | _ => none

/-- The elements of a list in the place of a record, in the order of its fields. -/
def Written.places? : List Written → List (String × Evaluation) → Option (List Json)
  | [], _ => some []
  | _ :: _, [] => none
  | w :: ws, (_, evaluate) :: rest =>
    (evaluate w).bind fun v => (Written.places? ws rest).map (v :: ·)

/-- The value that a written record comes down to: its fields, in either form. -/
def Written.record? (fields : List (String × Evaluation)) : Evaluation
  | .obj ms =>
    if ms.any fun m => m.1.isNone then none
    else (Written.fields? ms fields).map Json.object
  | .arr ws => (Written.places? ws fields).map Json.arr
  | w => w.value? 0

end Json

namespace Rpc

namespace ErrorObject

/-- The fields of an error, with the nesting left to it. -/
def evaluations (depth : Nat) : List (String × Json.Evaluation) :=
  [("code", (·.value? depth)), ("message", (·.value? depth)), ("data", (·.value? depth))]

end ErrorObject

namespace Response

/-- The fields of a response, with the nesting left to it. -/
def evaluations (depth : Nat) : List (String × Json.Evaluation) :=
  [("jsonrpc", (·.value? depth)), ("id", (·.value? depth)), ("result", (·.value? depth)),
    ("error", Json.Written.record? (ErrorObject.evaluations (depth - 1)))]

/-- The response that a written value is. -/
def ofWritten? (w : Json.Written) : Option Response :=
  (Json.Written.record? (evaluations (Json.usualDepth - 1)) w).bind fun v => (ofJson v).toOption

def ofText? (text : String) : Option Response :=
  (Json.parseWritten text).bind ofWritten?

end Response

/-! ## Outcomes -/

/-- What the journal says of a status that is no success. -/
def statusRecord (s : Http.Status) : Record :=
  ⟨.debug, "HTTP " ++ decimal s.code ++ " without a JSON-RPC error body"⟩

/-- A status that is no success. -/
def statusError (s : Http.Status) : Error :=
  .transport ("HTTP error " ++ decimal s.code ++ ": " ++ s.reason?.getD "Unknown error")

/-- The response in a whole body, with what the journal says of it. -/
def ofBody (status : Http.Status) (text : String) : Except Error Response × List Record :=
  match Response.ofText? text with
  | some r =>
    if status.isSuccess || r.error.isSome then (.ok r, [])
    else (.error (statusError status), [statusRecord status])
  | none =>
    if status.isSuccess then (.error (.invalidResponse .unreadable), [])
    else (.error (statusError status), [statusRecord status])

/-- The response in the outcome of an exchange, with what the journal says of it. -/
def ofOutcome (timeout : Duration) : Http.Outcome → Except Error Response × List Record
  | .timedOut => (.error (.transport ("Request timeout after " ++ timeout.display)), [])
  | .refused => (.error (.transport "Connection failed:"), [])
  | .dropped => (.error (.transport "Network error:"), [])
  | .answered _ .timedOut => (.error (.transport "Failed to read response body:"), [])
  | .answered _ .broken => (.error (.transport "Failed to read response body:"), [])
  | .answered status (.complete text) => ofBody status text

/-! ## The transport -/

/-- A server that takes calls. -/
structure HttpTarget where
  /-- The address that calls are posted to. -/
  address : Url.Address
  /-- How long a call may take. -/
  timeout : Duration
  deriving DecidableEq

namespace HttpTarget

/-- The target of an address as people write it. -/
def ofText (address : String) (timeout : Duration) : Except Error HttpTarget :=
  match Url.Address.read (Url.completed address) with
  | .ok a => .ok ⟨a, timeout⟩
  | .error e =>
    .error (.transport ("Invalid RPC address '" ++ address ++ "': " ++ e.message))

theorem ofText_eq_ok_iff {address : String} {timeout : Duration} {h : HttpTarget} :
    ofText address timeout = .ok h ↔
      ∃ a, Url.Address.read (Url.completed address) = .ok a ∧ h = ⟨a, timeout⟩ := by
  unfold ofText
  cases Url.Address.read (Url.completed address) with
  | ok a => simp [eq_comm]
  | error e => simp

def post {σ : Type} (h : HttpTarget) (l : Http.Link σ) (request : Request) :
    Act σ Error Response := do
  let outcome ← l.send (.post h.address request.toJson)
  let r := ofOutcome h.timeout outcome
  Act.noteAll r.2
  Act.ofExcept r.1

def transport {σ : Type} (h : HttpTarget) (l : Http.Link σ) : Transport σ := ⟨h.post l⟩

end HttpTarget

end Rpc

end Concord
