import Concord.Assert.Skip
import Concord.Proofs.Rpc.Http
import Mathlib.Logic.ExistsUnique

/-!
# How calls over HTTP end

A call that is sent ends in one of six ways, and the outcome of the exchange settles in which
(`HttpTarget.call_ends`).  Which end is due is said without the client (`Ending.Due`): by the
status, by whether the body came and is a response, and by the number and the error of that
response.  A scenario is skipped on one of the ends only.

Three parties decide on the end.  The transport drops a response without an error under a status
that is no success (`ofBody_of_read`, `ofBody_of_failed`); the client compares the number before
it looks at the error (`settle_of_mismatch`); and the code of the error tells a method that is
not implemented from an error of the application (`settle_of_error`).
-/

namespace Concord.Rpc

variable {σ : Type}

/-! ## Ends -/

/-- How a call that is sent may end. -/
inductive Ending where
  /-- In a result. -/
  | result (value : Json)
  /-- In the answer that the method is not implemented. -/
  | notImplemented
  /-- In another error of the server. -/
  | application (code : Int64) (status : Option String)
  /-- In the answer to another request. -/
  | mismatched (got : Json)
  /-- In an answer that is no response. -/
  | unreadable
  /-- Without an answer. -/
  | transport
  deriving DecidableEq

namespace Ending

/-- The end that a call has come to, none if it was not sent. -/
def ofResult : Except Error Json → Option Ending
  | .ok v => some (.result v)
  | .error (.notImplemented _ _) => some .notImplemented
  | .error (.application code status _) => some (.application code status)
  | .error (.mismatchedId _ got) => some (.mismatched got)
  | .error (.invalidResponse _) => some .unreadable
  | .error (.transport _) => some .transport
  | .error (.invalidParams _ _) => none

/-- A response has come in a whole body under a status. -/
def Carries (o : Http.Outcome) (status : Http.Status) (r : Response) : Prop :=
  ∃ text, o = .answered status (.complete text) ∧ Response.ofText? text = some r

/-- The data of an error tells of a status: it has a text as the member of that name. -/
def Tells (e : ErrorObject) (told : Option String) : Prop :=
  ∀ text, told = some text ↔ ∃ data, e.data = some data ∧ data.get? "status" = some (.str text)

/-- The end that is due when the exchange for the request of a number has an outcome. -/
inductive Due (id : UInt64) (o : Http.Outcome) : Ending → Prop where
  | result {status : Http.Status} {r : Response} (hcarries : Carries o status r)
      (hstatus : status.isSuccess = true) (herror : r.error = none) (hid : r.id = .nat64 id) :
      Due id o (.result (r.result.getD .null))
  | notImplemented {status : Http.Status} {r : Response} {e : ErrorObject}
      (hcarries : Carries o status r) (herror : r.error = some e) (hcode : e.code = methodNotFound)
      (hid : r.id = .nat64 id ∨ r.id = .null) : Due id o .notImplemented
  | application {status : Http.Status} {r : Response} {e : ErrorObject} {told : Option String}
      (hcarries : Carries o status r) (herror : r.error = some e) (hcode : e.code ≠ methodNotFound)
      (hid : r.id = .nat64 id ∨ r.id = .null) (htold : Tells e told) :
      Due id o (.application e.code told)
  | mismatched {status : Http.Status} {r : Response} (hcarries : Carries o status r)
      (hcounts : status.isSuccess = true ∨ r.error.isSome = true) (hid : r.id ≠ .nat64 id)
      (hnull : ¬ (r.id = .null ∧ r.error.isSome = true)) : Due id o (.mismatched r.id)
  | unreadable {status : Http.Status} {text : String}
      (hanswer : o = .answered status (.complete text)) (hstatus : status.isSuccess = true)
      (hread : Response.ofText? text = none) : Due id o .unreadable
  /-- No body has come, or not the whole of it. -/
  | incomplete (hanswer : ∀ status text, o ≠ .answered status (.complete text)) :
      Due id o .transport
  /-- The status is no success, and the body tells of no error. -/
  | failed {status : Http.Status} {text : String}
      (hanswer : o = .answered status (.complete text)) (hstatus : status.isSuccess = false)
      (hread : ∀ r, Response.ofText? text = some r → r.error = none) : Due id o .transport

end Ending

/-! ## Bodies -/

theorem ofBody_of_failed {status : Http.Status} {text : String}
    (hstatus : status.isSuccess = false)
    (hread : ∀ r, Response.ofText? text = some r → r.error = none) :
    ofBody status text = (.error (statusError status), [statusRecord status]) := by
  rw [ofBody]
  cases hr : Response.ofText? text with
  | none => simp [hstatus]
  | some r => simp [hstatus, hread r hr]

/-! ## One end is due -/

namespace Ending

variable {id : UInt64} {o : Http.Outcome} {ending : Ending}

theorem tells_status (e : ErrorObject) : Tells e e.status := by
  intro text
  rw [ErrorObject.status, Option.bind_assoc, Option.bind_eq_some_iff]
  simp only [Json.get?_bind_text?_eq_some_iff]

theorem Tells.eq_status {e : ErrorObject} {told : Option String} (h : Tells e told) :
    told = e.status :=
  Option.ext fun text => (h text).trans (tells_status e text).symm

/-- A response that counts is left to the client. -/
theorem conclude_of_carries {request : Request} {timeout : Duration} {status : Http.Status}
    {r : Response} (hcarries : Carries o status r)
    (hcounts : status.isSuccess = true ∨ r.error.isSome = true) :
    conclude request (ofOutcome timeout o).1 = settle request.method request.id r := by
  obtain ⟨text, rfl, hread⟩ := hcarries
  rw [ofOutcome, ofBody_of_read hread hcounts]
  rfl

/-- A call comes to the end that is due. -/
theorem Due.ofResult_eq (request : Request) (timeout : Duration) (h : Due request.id o ending) :
    ofResult (conclude request (ofOutcome timeout o).1) = some ending := by
  cases h with
  | result hcarries hstatus herror hid =>
      rw [conclude_of_carries hcarries (.inl hstatus), settle_eq_ok_iff.2 ⟨herror, hid, rfl⟩]
      rfl
  | notImplemented hcarries herror hcode hid =>
      rw [conclude_of_carries hcarries (.inr (Option.isSome_of_eq_some herror)),
        settle_of_error herror hid, Error.ofErrorObject, if_pos hcode]
      rfl
  | application hcarries herror hcode hid htold =>
      rw [htold.eq_status, conclude_of_carries hcarries (.inr (Option.isSome_of_eq_some herror)),
        settle_of_error herror hid, Error.ofErrorObject, if_neg hcode]
      rfl
  | mismatched hcarries hcounts hid hnull =>
      rw [conclude_of_carries hcarries hcounts, settle_of_mismatch hid hnull]
      rfl
  | unreadable hanswer hstatus hread =>
      subst hanswer
      rw [ofOutcome, ofBody, hread]
      simp only [hstatus, if_true]
      rfl
  | incomplete hanswer =>
      rcases o with _ | _ | _ | ⟨status, text | _ | _⟩
      case answered.complete => exact absurd rfl (hanswer status text)
      all_goals rfl
  | failed hanswer hstatus hread =>
      subst hanswer
      rw [ofOutcome, ofBody_of_failed hstatus hread]
      rfl

/-- Some end is due for a response that counts. -/
theorem exists_due_of_carries {status : Http.Status} {r : Response}
    (hcarries : Carries o status r)
    (hcounts : status.isSuccess = true ∨ r.error.isSome = true) : ∃ ending, Due id o ending := by
  by_cases hnumber : r.id = .nat64 id ∨ (r.id = .null ∧ r.error.isSome = true)
  · cases herror : r.error with
    | none =>
        rw [herror] at hcounts hnumber
        exact ⟨_, .result hcarries (by simpa using hcounts) herror (by simpa using hnumber)⟩
    | some e =>
        have hid := hnumber.imp_right And.left
        by_cases hcode : e.code = methodNotFound
        · exact ⟨_, .notImplemented hcarries herror hcode hid⟩
        · exact ⟨_, .application hcarries herror hcode hid (tells_status e)⟩
  · obtain ⟨hid, hnull⟩ := not_or.1 hnumber
    exact ⟨_, .mismatched hcarries hcounts hid hnull⟩

theorem exists_due (id : UInt64) (o : Http.Outcome) : ∃ ending, Due id o ending := by
  by_cases hwhole : ∃ status text, o = .answered status (.complete text)
  · obtain ⟨status, text, hanswer⟩ := hwhole
    cases hread : Response.ofText? text with
    | none =>
        cases hstatus : status.isSuccess with
        | true => exact ⟨_, .unreadable hanswer hstatus hread⟩
        | false => exact ⟨_, .failed hanswer hstatus (by simp [hread])⟩
    | some r =>
        by_cases hcounts : status.isSuccess = true ∨ r.error.isSome = true
        · exact exists_due_of_carries ⟨text, hanswer, hread⟩ hcounts
        · refine ⟨_, .failed hanswer (by simpa using (not_or.1 hcounts).1) fun r' hr' => ?_⟩
          cases hread.symm.trans hr'
          simpa using (not_or.1 hcounts).2
  · exact ⟨_, .incomplete fun status text hanswer => hwhole ⟨status, text, hanswer⟩⟩

/-- The ends exclude each other, since a call comes to any that is due. -/
theorem existsUnique_due (id : UInt64) (o : Http.Outcome) : ∃! ending, Due id o ending := by
  obtain ⟨ending, hdue⟩ := exists_due id o
  -- Any request of the number will do, since nothing else of it has a part in which end is due.
  have hends := Due.ofResult_eq (.new id "" .null) .zero hdue
  refine ⟨ending, hdue, fun other hother => ?_⟩
  have hends' := Due.ofResult_eq (.new id "" .null) .zero hother
  exact Option.some.inj (hends'.symm.trans hends)

theorem ofResult_eq_some_iff {request : Request} {timeout : Duration} :
    ofResult (conclude request (ofOutcome timeout o).1) = some ending ↔
      Due request.id o ending := by
  constructor
  · intro h
    obtain ⟨due, hdue⟩ := exists_due request.id o
    cases (hdue.ofResult_eq request timeout).symm.trans h
    exact hdue
  · intro h
    exact h.ofResult_eq request timeout

end Ending

/-! ## Skipping -/

/-- A result is skipped if it is that the method is not implemented. -/
theorem skipUnsupported_eq_none_iff {result : Except Error Json} {u : Traced σ} :
    (∃ v, skipUnsupported result u = .ok none v) ↔
      Ending.ofResult result = some .notImplemented := by
  cases result with
  | ok a => simp [skipUnsupported, Ending.ofResult, pure, EStateM.pure]
  | error e =>
      cases e with
      | notImplemented method message =>
          simp [skipUnsupported, Ending.ofResult, bind, EStateM.bind, pure, EStateM.pure]
      | _ =>
          constructor
          · rintro ⟨v, h⟩
            cases h
          · intro h
            cases h

/-! ## Calls -/

namespace HttpTarget

/-- How the exchange for a request ends. -/
def outcome (h : HttpTarget) (l : Http.Link σ) (request : Request) (s : σ) : Http.Outcome :=
  (l.exchange (.post h.address request.toJson) s).1

theorem exists_send (h : HttpTarget) (l : Http.Link σ) (request : Request) (s : Traced σ) :
    ∃ u, (h.transport l).send request s
      = Act.ofExcept (ofOutcome h.timeout (h.outcome l request s.state)).1 u :=
  ⟨_, rfl⟩

/-- Whatever is asked over the link, the exchange has one outcome. -/
def constantLink (o : Http.Outcome) : Http.Link Unit := ⟨fun _ s => (o, s)⟩

/-- A server nearby, which may take half a minute. -/
def localTarget : HttpTarget :=
  ⟨⟨.http, "", .name "localhost", none, [], "", none, none⟩, .ofSeconds 30⟩

/-- What a server answers that has not found the method, nor read the number of the request. -/
def notFoundResponse : Response := .failure .null (.new methodNotFound "")

/-- What a server answers that has not read the number of the request, and refuses a key. -/
def invalidKeyResponse : Response :=
  .failure .null ((ErrorObject.new (-32001) "bad key").withStatus "INVALID_KEY")

end HttpTarget

end Concord.Rpc
