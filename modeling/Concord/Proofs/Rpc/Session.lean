import Concord.Proofs.Json.Record
import Concord.Proofs.Rpc.Interleaving
import Mathlib.Logic.Function.Basic

/-!
# Sessions of scenarios

Scenarios share a client, and each enters and leaves sessions of its own.  What a call sends
depends on the session of its scenario at that moment and on nothing else.

* `Turn` is what a scenario does next, and `invocations` is the list of the calls that a history
  of turns makes, each under the context of its moment.
* `Binds` says what the parameters of a call become under a session or without one, and
  `Invocation.refused` which parameters cannot be sent.
* `Sends` says which requests calls send: none if the call is refused, and otherwise one, with
  the next number and with the parameters bound.
* A turn sends what it should (`Turn.exists_take`), and a history of them does
  (`exists_run`).  A refused call is as if it had not been made (`run_admitted`).
-/

namespace Concord.Rpc

open Json

variable {σ : Type}

/-! ## Binding -/

/-- What the parameters of a call become under a session, or without one. -/
inductive Binds : Option String → Json → Json → Prop where
  /-- Without a session they stay what they are. -/
  | unbound (params : Json) : Binds none params params
  /-- Under a session they name it, and have the other members of the caller. -/
  | bound {s : String} {params : Json} {own members : Members}
      (hown : params = .obj own ∨ params = .null ∧ own = [])
      (hsession : members.get? "sessionId" = some (.str s))
      (hothers : members.without "sessionId" = own.without "sessionId")
      (hordered : own.Ordered → members.Ordered) : Binds (some s) params (.obj members)

/-- The parameters cannot be sent: they can name no session, and there is one. -/
def Invocation.refused (call : Invocation) : Bool :=
  match call.ctx.session, call.params with
  | none, _ => false
  | some _, .obj _ => false
  | some _, .null => false
  | some _, _ => true

theorem binds_insert (s : String) {params : Json} {own : Members}
    (hown : params = .obj own ∨ params = .null ∧ own = []) :
    Binds (some s) params (.obj (Members.insert own "sessionId" (.str s))) :=
  .bound hown (Members.get?_insert_self own "sessionId" (.str s))
    (Members.without_insert own "sessionId" (.str s)) fun h => h.insert "sessionId" (.str s)

section

variable {ctx : Context} {method : String} {params : Json}

theorem bindSession_of_refused (h : (⟨ctx, method, params⟩ : Invocation).refused = true) :
    bindSession ctx method params = .error (.invalidParams method params) := by
  obtain ⟨scenario, session⟩ := ctx
  cases session with
  | none => cases h
  | some s =>
      cases params with
      | obj members => cases h
      | null => cases h
      | _ => rfl

theorem exists_binds_of_not_refused
    (h : (⟨ctx, method, params⟩ : Invocation).refused = false) :
    ∃ bound, bindSession ctx method params = .ok bound ∧ Binds ctx.session params bound := by
  obtain ⟨scenario, session⟩ := ctx
  cases session with
  | none => exact ⟨params, rfl, .unbound params⟩
  | some s =>
      cases params with
      | obj members => exact ⟨_, rfl, binds_insert s (.inl rfl)⟩
      | null => exact ⟨_, rfl, binds_insert s (.inr ⟨rfl, rfl⟩)⟩
      | _ => cases h

end

/-! ## Requests of calls -/

/-- The requests that calls send when a number was the latest before them. -/
inductive Sends : UInt64 → List Invocation → List Request → Prop where
  | nil (id : UInt64) : Sends id [] []
  /-- A refused call sends nothing and takes no number. -/
  | refused {id : UInt64} {call : Invocation} {calls : List Invocation} {requests : List Request}
      (hcall : call.refused = true) (hcalls : Sends id calls requests) :
      Sends id (call :: calls) requests
  /-- Every other call sends one request, with the next number. -/
  | sent {id : UInt64} {call : Invocation} {calls : List Invocation} {requests : List Request}
      {bound : Json} (hcall : call.refused = false)
      (hbinds : Binds call.ctx.session call.params bound)
      (hcalls : Sends (id + 1) calls requests) :
      Sends id (call :: calls) (⟨version, id + 1, call.method, bound⟩ :: requests)

theorem Sends.append {id : UInt64} {calls more : List Invocation}
    {requests others : List Request} (h : Sends id calls requests)
    (hmore : Sends (id + .ofNat requests.length) more others) :
    Sends id (calls ++ more) (requests ++ others) := by
  induction h with
  | nil id => simpa using hmore
  | refused hcall hcalls ih => exact .refused hcall (ih hmore)
  | @sent id call calls requests bound hcall hbinds hcalls ih =>
      refine .sent hcall hbinds (ih ?_)
      have hid : id + 1 + .ofNat requests.length = id + .ofNat (requests.length + 1) := by
        rw [UInt64.ofNat_add, UInt64.add_assoc, UInt64.add_comm 1]
        rfl
      rw [hid]
      exact hmore

/-- The transport that keeps the requests in the order in which they come, and leaves it to
another what to do with them. -/
def Transport.recorded (t : Transport σ) : Transport (List Request × σ) where
  send request := do
    Act.update fun s => (s.1 ++ [request], s.2)
    Act.within .second (t.send request)

theorem Transport.exists_recorded_send (t : Transport σ) (request : Request)
    (s : Traced (List Request × σ)) :
    ∃ answer u, t.recorded.send request s = Act.ofExcept answer u ∧
      u.state.1 = s.state.1 ++ [request] := by
  have hkept : (t.recorded.send request) s
      = Act.within .second (t.send request)
        ⟨(s.state.1 ++ [request], s.state.2), s.journal⟩ := rfl
  rw [hkept]
  cases hsend : t.send request ⟨s.state.2, s.journal⟩ with
  | ok r u => exact ⟨.ok r, _, Act.within_ok hsend, rfl⟩
  | error e u => exact ⟨.error e, _, Act.within_error hsend, rfl⟩

/-! ## Turns -/

/-- Scenarios on one client, whose transport keeps the requests. -/
structure Scenarios (σ : Type) where
  /-- The context of each scenario. -/
  contexts : Nat → Context
  client : Client (List Request × σ)

namespace Scenarios

def clientPart : Part (Scenarios σ) (Client (List Request × σ)) :=
  ⟨client, fun w c => { w with client := c }⟩

/-- The requests sent so far, the first one first. -/
def sent (w : Scenarios σ) : List Request := w.client.link.1

/-- Scenarios before the first turn. -/
def fresh (contexts : Nat → Context) (link : σ) : Scenarios σ := ⟨contexts, .fresh ([], link)⟩

end Scenarios

/-- What happens next. -/
inductive Turn where
  /-- A scenario enters a session, or leaves it. -/
  | session (n : Nat) (session : Option String)
  /-- A scenario calls a method, and does with the outcome what it likes. -/
  | call (n : Nat) (method : String) (params : Json)

namespace Turn

/-- The contexts after a turn. -/
def contexts (before : Nat → Context) : Turn → Nat → Context
  | .session n s => Function.update before n ((before n).setSession s)
  | .call _ _ _ => before

/-- The call that a turn makes. -/
def call? (contexts : Nat → Context) : Turn → Option Invocation
  | .session _ _ => none
  | .call n method params => some ⟨contexts n, method, params⟩

/-- A turn is admitted unless it is a call that is refused. -/
def admitted (contexts : Nat → Context) (turn : Turn) : Bool :=
  (turn.call? contexts).all fun call => !call.refused

/-- Does what a turn says. -/
def take (t : Transport σ) : Turn → Act (Scenarios σ) Error Unit
  | .session n s =>
    Act.update fun w =>
      { w with contexts := Function.update w.contexts n ((w.contexts n).setSession s) }
  | .call n method params => do
    let w ← Act.state
    let _ ← (Act.attempt (Act.within Scenarios.clientPart
      (Client.call t.recorded (w.contexts n) method params)) :
      Act (Scenarios σ) Error (Except Error Json))
    return ()

end Turn

/-- The calls of a history, each under the context of its moment. -/
def invocations (contexts : Nat → Context) : List Turn → List Invocation
  | [] => []
  | turn :: rest => (turn.call? contexts).toList ++ invocations (turn.contexts contexts) rest

/-- A history without its refused calls. -/
def admitted (contexts : Nat → Context) : List Turn → List Turn
  | [] => []
  | turn :: rest =>
    if turn.admitted contexts then turn :: admitted (turn.contexts contexts) rest
    else admitted (turn.contexts contexts) rest

/-! ## What a turn does -/

namespace Turn

variable {t : Transport σ} {n : Nat} {method : String} {params : Json} {s : Traced (Scenarios σ)}

/-- The outcome of a call is left to the scenario. -/
theorem take_call {r : Except Error Json} {c : Traced (Client (List Request × σ))}
    (h : Client.call t.recorded (s.state.contexts n) method params ⟨s.state.client, s.journal⟩
      = Act.ofExcept r c) :
    take t (.call n method params) s = .ok () ⟨{ s.state with client := c.state }, c.journal⟩ := by
  have hpart : Act.within Scenarios.clientPart
      (Client.call t.recorded (s.state.contexts n) method params) s
        = Act.ofExcept r ⟨{ s.state with client := c.state }, c.journal⟩ := Act.within_ofExcept h
  have hread : (Act.state : Act (Scenarios σ) Error (Scenarios σ)) s = .ok s.state s := rfl
  rw [take, Act.bind_ok hread, Act.bind_ok (Act.attempt_ofExcept hpart)]
  rfl

/-- A refused call leaves everything as it was. -/
theorem take_of_refused (h : (⟨s.state.contexts n, method, params⟩ : Invocation).refused = true) :
    take t (.call n method params) s = .ok () s :=
  take_call (r := .error _) (Client.call_of_refused (bindSession_of_refused h))

/-- Any other call sends its request under the next number. -/
theorem exists_take_of_not_refused
    (h : (⟨s.state.contexts n, method, params⟩ : Invocation).refused = false) :
    ∃ u bound, take t (.call n method params) s = .ok () u ∧
      Binds (s.state.contexts n).session params bound ∧
      u.state.contexts = s.state.contexts ∧
      u.state.client.lastId = s.state.client.lastId + 1 ∧
      u.state.sent = s.state.sent ++ [⟨version, s.state.client.lastId + 1, method, bound⟩] := by
  obtain ⟨bound, hbind, hbinds⟩ := exists_binds_of_not_refused h
  obtain ⟨answer, v, hsend, hkept⟩ := t.exists_recorded_send
    (s.state.client.nextRequest method bound)
    (Client.beforeSend ⟨s.state.client, s.journal⟩ (s.state.contexts n) method)
  obtain ⟨c, hcall, hc⟩ := Client.exists_call_of_sent (t := t.recorded)
    (s := ⟨s.state.client, s.journal⟩) hbind hsend
  refine ⟨_, bound, take_call hcall, hbinds, rfl, ?_, ?_⟩
  · show c.state.lastId = _
    rw [hc]
    rfl
  · show c.state.link.1 = _
    rw [hc]
    exact hkept

/-- A turn sends the request of its call, if there is one and it is not refused. -/
theorem exists_take (t : Transport σ) (turn : Turn) (s : Traced (Scenarios σ)) :
    ∃ u requests, take t turn s = .ok () u ∧
      u.state.contexts = turn.contexts s.state.contexts ∧
      u.state.sent = s.state.sent ++ requests ∧
      u.state.client.lastId = s.state.client.lastId + .ofNat requests.length ∧
      Sends s.state.client.lastId (turn.call? s.state.contexts).toList requests := by
  cases turn with
  | session n session =>
      exact ⟨_, [], rfl, rfl, (List.append_nil _).symm, (UInt64.add_zero _).symm, .nil _⟩
  | call n method params =>
      cases hcall : (⟨s.state.contexts n, method, params⟩ : Invocation).refused with
      | true =>
          exact ⟨s, [], take_of_refused hcall, rfl, (List.append_nil _).symm,
            (UInt64.add_zero _).symm, .refused hcall (.nil _)⟩
      | false =>
          obtain ⟨u, bound, htake, hbinds, hcontexts, hid, hsent⟩ :=
            exists_take_of_not_refused (t := t) hcall
          exact ⟨u, [_], htake, hcontexts, hsent, hid, .sent hcall hbinds (.nil _)⟩

/-- A turn that is not admitted is as if it had not been taken. -/
theorem take_of_not_admitted {turn : Turn} (h : turn.admitted s.state.contexts = false) :
    take t turn s = .ok () s := by
  cases turn with
  | session n session => cases h
  | call n method params =>
      have hcall : (⟨s.state.contexts n, method, params⟩ : Invocation).refused = true := by
        simpa [admitted, call?] using h
      exact take_of_refused hcall

end Turn

/-! ## Histories -/

/-- Takes the turns of a history. -/
def run (t : Transport σ) (history : List Turn) : Act (Scenarios σ) Error Unit :=
  history.forM (Turn.take t)

theorem run_cons {t : Transport σ} {turn : Turn} {rest : List Turn} {s u : Traced (Scenarios σ)}
    (h : turn.take t s = .ok () u) : run t (turn :: rest) s = run t rest u := by
  show (turn.take t >>= fun _ => run t rest) s = _
  rw [Act.bind_ok h]

/-- A history sends the requests of its calls. -/
theorem exists_run (t : Transport σ) (history : List Turn) (s : Traced (Scenarios σ)) :
    ∃ u requests, run t history s = .ok () u ∧
      u.state.sent = s.state.sent ++ requests ∧
      u.state.client.lastId = s.state.client.lastId + .ofNat requests.length ∧
      Sends s.state.client.lastId (invocations s.state.contexts history) requests := by
  induction history generalizing s with
  | nil => exact ⟨s, [], rfl, (List.append_nil _).symm, (UInt64.add_zero _).symm, .nil _⟩
  | cons turn rest ih =>
      obtain ⟨u, first, htake, hcontexts, hsent, hid, hfirst⟩ := turn.exists_take t s
      obtain ⟨v, others, hrun, hothers, hlast, hrest⟩ := ih u
      -- The rest starts from the contexts and from the number that the turn has left.
      rw [hcontexts, hid] at hrest
      refine ⟨v, first ++ others, ?_, ?_, ?_, hfirst.append hrest⟩
      · rw [run_cons htake, hrun]
      · rw [hothers, hsent, List.append_assoc]
      · rw [hlast, hid, List.length_append, UInt64.ofNat_add, UInt64.add_assoc]

/-- A history comes to the same without its refused calls. -/
theorem run_admitted (t : Transport σ) (history : List Turn) (s : Traced (Scenarios σ)) :
    run t (admitted s.state.contexts history) s = run t history s := by
  induction history generalizing s with
  | nil => rfl
  | cons turn rest ih =>
      obtain ⟨u, -, htake, hcontexts, -⟩ := turn.exists_take t s
      rw [admitted, ← hcontexts]
      cases hadmitted : turn.admitted s.state.contexts with
      | true => rw [if_pos rfl, run_cons htake, run_cons htake, ih u]
      | false =>
          cases (Turn.take_of_not_admitted (t := t) hadmitted).symm.trans htake
          rw [if_neg Bool.false_ne_true, run_cons htake, ih s]

/-- Whatever the turns of the scenarios are, the requests are those of their calls, each under
the session of its moment.  A call that is refused ends in the error for its parameters and
leaves the client as it was, so that the run is the same without it. -/
theorem run_binds_sessions (t : Transport σ) (contexts : Nat → Context) (link : σ)
    (history : List Turn) :
    (∃ u, run t history ⟨.fresh contexts link, []⟩ = .ok () u ∧
      Sends 0 (invocations contexts history) u.state.sent ∧
      u.state.client.lastId = .ofNat u.state.sent.length ∧
      run t (admitted contexts history) ⟨.fresh contexts link, []⟩ = .ok () u) ∧
    ∀ ctx method params (c : Traced (Client (List Request × σ))),
      (⟨ctx, method, params⟩ : Invocation).refused = true →
        Client.call t.recorded ctx method params c = .error (.invalidParams method params) c ∧
          (Error.invalidParams method params).code = -32602 := by
  refine ⟨?_, fun ctx method params c hcall =>
    ⟨Client.call_of_refused (bindSession_of_refused hcall), rfl⟩⟩
  obtain ⟨u, requests, hrun, hsent, hid, hsends⟩ := exists_run t history ⟨.fresh contexts link, []⟩
  have hall : u.state.sent = requests := hsent
  subst hall
  refine ⟨u, hrun, hsends, ?_, ?_⟩
  · rw [hid]
    exact UInt64.zero_add _
  · exact (run_admitted t history ⟨.fresh contexts link, []⟩).trans hrun

/-- The transport that answers every request with `null`. -/
def Transport.answering : Transport Unit := ⟨fun request => pure (.success request.id .null)⟩

/-- A scenario sends a list before it enters a session, and is refused one within it. -/
def positionalCalls : List Turn :=
  [.call 0 "ping" (.arr [.str "10"]), .session 0 (some "s-42"),
    .call 0 "createAccount" (.arr [.str "10"]), .call 0 "reset" .null]

theorem run_binds_sessions_of_positionalCalls :
    ∃ u, run .answering positionalCalls ⟨.fresh (fun _ => .ofScenario "tck") (), []⟩ = .ok () u ∧
      run .answering
          [.call 0 "ping" (.arr [.str "10"]), .session 0 (some "s-42"), .call 0 "reset" .null]
          ⟨.fresh (fun _ => .ofScenario "tck") (), []⟩ = .ok () u ∧
      Client.call Transport.answering.recorded ⟨"tck", some "s-42"⟩ "createAccount"
          (.arr [.str "10"]) ⟨u.state.client, u.journal⟩
        = .error (.invalidParams "createAccount" (.arr [.str "10"]))
          ⟨u.state.client, u.journal⟩ := by
  obtain ⟨⟨u, hrun, -, -, hadmitted⟩, hrefused⟩ :=
    run_binds_sessions .answering (fun _ => .ofScenario "tck") () positionalCalls
  exact ⟨u, hrun, hadmitted, (hrefused _ _ _ _ rfl).1⟩

end Concord.Rpc
