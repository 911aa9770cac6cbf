import Concord.Proofs.Act
import Concord.Rpc.Client

/-!
# How calls end

A call is refused before anything is sent (`call_of_refused`), or it takes a number and ends
with what the transport gives: its error (`call_of_unanswered`), or what `settle` makes of its
response (`call_of_response`).
-/

namespace Concord.Rpc

variable {σ : Type}

/-! ## Parameters -/

/-- Parameters are refused in one way only. -/
theorem eq_invalidParams_of_bindSession {ctx : Context} {method : String} {params : Json}
    {e : Error} (h : bindSession ctx method params = .error e) :
    e = .invalidParams method params := by
  unfold bindSession at h
  cases hsession : ctx.session with
  | none =>
      rw [hsession] at h
      cases h
  | some s =>
      rw [hsession] at h
      cases params <;> cases h <;> rfl

/-! ## Responses -/

/-- A call that succeeds does so on a response without an error that repeats its number. -/
theorem settle_eq_ok_iff {method : String} {id : UInt64} {r : Response} {v : Json} :
    settle method id r = .ok v ↔
      r.error = none ∧ r.id = .nat64 id ∧ v = r.result.getD .null := by
  unfold settle answers
  cases herror : r.error with
  | none =>
      by_cases hid : r.id = .nat64 id
      · simp [hid, eq_comm]
      · simp [hid]
  | some e =>
      by_cases hid : r.id = .nat64 id
      · simp [hid]
      · by_cases hnull : r.id = .null <;> simp [hid, hnull]

theorem settle_of_mismatch {method : String} {id : UInt64} {r : Response}
    (hid : r.id ≠ .nat64 id) (hnull : ¬ (r.id = .null ∧ r.error.isSome = true)) :
    settle method id r = .error (.mismatchedId id r.id) := by
  have hanswers : answers id r = false := by
    simpa [answers, hid] using hnull
  rw [settle, hanswers, if_neg Bool.false_ne_true]

/-- An error is taken from the server with the number of the request or without one. -/
theorem settle_of_error {method : String} {id : UInt64} {r : Response} {e : ErrorObject}
    (herror : r.error = some e) (hid : r.id = .nat64 id ∨ r.id = .null) :
    settle method id r = .error (.ofErrorObject method e) := by
  have hanswers : answers id r = true := by
    simpa [answers, herror] using hid
  rw [settle, hanswers, if_pos rfl, herror]

/-- What the answer of a transport makes of the call with a request. -/
def conclude (request : Request) (answer : Except Error Response) : Except Error Json :=
  answer.bind (settle request.method request.id)

/-! ## Calls -/

namespace Client

variable {t : Transport σ} {ctx : Context} {method : String} {params : Json}
  {s : Traced (Client σ)}

/-- The client when a request has gone out and the transport is in a given state. -/
def afterSend (c : Client σ) (link : σ) : Client σ :=
  { c.allocate with link := link }

/-- The request of a call, given its parameters under the session. -/
def nextRequest (c : Client σ) (method : String) (params : Json) : Request :=
  .new c.allocate.lastId method params

/-- The state in which the transport is asked to send the request of a call. -/
def beforeSend (s : Traced (Client σ)) (ctx : Context) (method : String) : Traced σ :=
  ⟨s.state.link, s.journal ++ [⟨.debug, sendingText ctx method s.state.allocate.lastId⟩]⟩

theorem call_of_refused {e : Error} (h : bindSession ctx method params = .error e) :
    call t ctx method params s = .error e s := by
  rw [call, h]
  rfl

/-- Up to the sending of its request a call depends on nothing but its parameters. -/
theorem call_of_bound {bound : Json} (h : bindSession ctx method params = .ok bound) :
    call t ctx method params s
      = (do
          let response ← Act.within linkPart (t.send (s.state.nextRequest method bound))
          if answers s.state.allocate.lastId response then
            Act.note .debug (settledText ctx method s.state.allocate.lastId
              (settle method s.state.allocate.lastId response))
          Act.ofExcept (settle method s.state.allocate.lastId response))
        ⟨s.state.allocate, (beforeSend s ctx method).journal⟩ := by
  rw [call, h]
  rfl

theorem call_of_unanswered {bound : Json} {e : Error} {u : Traced σ}
    (h : bindSession ctx method params = .ok bound)
    (hsend : t.send (s.state.nextRequest method bound) (beforeSend s ctx method) = .error e u) :
    call t ctx method params s = .error e ⟨s.state.afterSend u.state, u.journal⟩ := by
  rw [call_of_bound h]
  exact Act.bind_error (Act.within_error hsend)

/-- What the journal says of a response to the request of a number. -/
def settledRecords (ctx : Context) (method : String) (id : UInt64) (r : Response) :
    List Record :=
  if answers id r then [⟨.debug, settledText ctx method id (settle method id r)⟩] else []

theorem call_of_response {bound : Json} {r : Response} {u : Traced σ}
    (h : bindSession ctx method params = .ok bound)
    (hsend : t.send (s.state.nextRequest method bound) (beforeSend s ctx method) = .ok r u) :
    call t ctx method params s
      = Act.ofExcept (settle method s.state.allocate.lastId r)
        ⟨s.state.afterSend u.state,
          u.journal ++ settledRecords ctx method s.state.allocate.lastId r⟩ := by
  rw [call_of_bound h, Act.bind_ok (Act.within_ok hsend), settledRecords]
  cases answers s.state.allocate.lastId r with
  | true => rfl
  | false =>
      rw [if_neg Bool.false_ne_true, if_neg Bool.false_ne_true, List.append_nil]
      rfl

/-- A call that is sent ends with what the answer of the transport makes of it. -/
theorem exists_call_of_sent {bound : Json} {answer : Except Error Response} {u : Traced σ}
    (h : bindSession ctx method params = .ok bound)
    (hsend : t.send (s.state.nextRequest method bound) (beforeSend s ctx method)
      = Act.ofExcept answer u) :
    ∃ v, call t ctx method params s
        = Act.ofExcept (conclude (s.state.nextRequest method bound) answer) v ∧
      v.state = s.state.afterSend u.state := by
  cases answer with
  | error e => exact ⟨_, call_of_unanswered h hsend, rfl⟩
  | ok r => exact ⟨_, call_of_response h hsend, rfl⟩

/-- A call that is answered with a result ends in it. -/
theorem call_of_success {bound result : Json} {u : Traced σ}
    (h : bindSession ctx method params = .ok bound)
    (hsend : t.send (s.state.nextRequest method bound) (beforeSend s ctx method)
      = .ok (.success s.state.allocate.lastId result) u) :
    ∃ v, call t ctx method params s = .ok result v ∧ v.state = s.state.afterSend u.state := by
  have hsettle : settle method s.state.allocate.lastId
      (.success s.state.allocate.lastId result) = .ok result :=
    settle_eq_ok_iff.2 ⟨rfl, rfl, rfl⟩
  rw [call_of_response h hsend, hsettle]
  exact ⟨_, rfl, rfl⟩

end Client

end Concord.Rpc
