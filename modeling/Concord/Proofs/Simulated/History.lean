import Concord.Proofs.Simulated.Requests

/-!
# Histories of a simulated node

A node is told what to report and how to fail, and requests come in, in any order.  What it
does with the next request depends on this history alone.

* `latest` is what a history says last of something, `received` the methods it names, and
  `generateCount` the number of calls that asked for a key before that was disabled.
* `Changes` says what an event changes of a node, and `perform_changes` that no event does
  anything else.
* `Written` says that a node has the keys, the fees and the switches that a history says, and
  `Reflects` that it has the methods and the count too.  Every event preserves both
  (`Written.concat`, `Reflects.concat`).
* `exists_served` puts these together: every history leads to a node, and any request that
  comes next is answered as the history says.
-/

namespace Concord

open Json Rpc

namespace Node

/-! ## Events -/

/-- What happens to a node. -/
inductive Event where
  | setKey (e : Entity) (encoded : String)
  | setFees (token : String) (fees : List CustomFee)
  /-- The generation of keys is limited. -/
  | limit (calls : Nat)
  | disable (method : String)
  /-- A request comes in, from whatever client. -/
  | request (r : Request)
  deriving DecidableEq

namespace Event

/-- The key that an entity is given. -/
def keyOf? (e : Entity) : Event → Option String
  | .setKey f encoded => if f = e then some encoded else none
  | _ => none

/-- The fees that a token is given. -/
def feesOf? (token : String) : Event → Option (List CustomFee)
  | .setFees t fees => if t = token then some fees else none
  | _ => none

def limit? : Event → Option Nat
  | .limit calls => some calls
  | _ => none

def method? : Event → Option String
  | .request r => some r.method
  | _ => none

/-- Whether a key is asked for. -/
def asksForKey : Event → Bool
  | .request r => r.method = generateMethod
  | _ => false

end Event

/-- What a history says last of something. -/
def latest {α : Type} (f : Event → Option α) (history : List Event) : Option α :=
  (history.filterMap f).getLast?

/-- The methods of the requests in a history. -/
def received (history : List Event) : List String := history.filterMap Event.method?

/-- The number of requests for a key, up to where that is disabled. -/
def generateCount : List Event → Nat
  | [] => 0
  | event :: later =>
    if event = .disable generateMethod then 0
    else (if event.asksForKey then 1 else 0) + generateCount later

theorem latest_concat {α : Type} (f : Event → Option α) (history : List Event) (event : Event) :
    latest f (history ++ [event]) = (f event).or (latest f history) := by
  cases h : f event <;> simp [latest, h]

theorem received_concat (history : List Event) (event : Event) :
    received (history ++ [event]) = received history ++ event.method?.toList := by
  cases h : event.method? <;> simp [received, h]

/-- A request for a key counts unless that has been disabled; nothing else does. -/
theorem generateCount_concat (history : List Event) (event : Event) :
    generateCount (history ++ [event]) = generateCount history +
      if event.asksForKey = true ∧ .disable generateMethod ∉ history then 1 else 0 := by
  induction history with
  | nil =>
      by_cases hevent : event = .disable generateMethod
      · simp [generateCount, hevent, Event.asksForKey]
      · simp [generateCount, hevent]
  | cons first later ih =>
      by_cases hfirst : first = .disable generateMethod
      · simp [generateCount, hfirst]
      · simp [generateCount, hfirst, Ne.symm hfirst, ih, Nat.add_assoc]

/-! ## Performing -/

/-- Does to a node what an event says, whatever a request is answered. -/
def perform : Event → Act Node Rpc.Error Unit
  | .setKey e encoded => Act.update (·.setKey e encoded)
  | .setFees token fees => Act.update (·.setFees token fees)
  | .limit calls => Act.update (·.failGenerateAfter calls)
  | .disable method => Act.update (·.disable method)
  | .request request => do
    let _ ← transport.send request
    return ()

/-- A history, performed on a fresh node, leads to a node. -/
def Reaches (random : Random.Stream) (history : List Event) (n : Node) : Prop :=
  ∃ journal, history.forM perform ⟨fresh random, []⟩ = .ok () ⟨n, journal⟩

/-! ## What a history says of a node -/

/-- A node has the keys, the fees and the switches that a history says. -/
structure Written (history : List Event) (n : Node) : Prop where
  keys : ∀ e, n.keys.get? e = latest (Event.keyOf? e) history
  fees : ∀ token, n.fees.get? token = latest (Event.feesOf? token) history
  limit : n.generateLimit = latest Event.limit? history
  disabled : ∀ method, method ∈ n.disabled ↔ .disable method ∈ history

/-- A node has the methods and the count of a history as well. -/
structure Reflects (history : List Event) (n : Node) : Prop extends Written history n where
  methods : n.methods = received history
  generateCalls : n.generateCalls = generateCount history

theorem written_fresh (random : Random.Stream) : Written [] (fresh random) :=
  ⟨fun _ => rfl, fun _ => rfl, rfl, by simp [fresh]⟩

theorem reflects_fresh (random : Random.Stream) : Reflects [] (fresh random) :=
  ⟨written_fresh random, rfl, rfl⟩

variable {history : List Event} {n n' : Node}

/-- What is read of a table after a `put`. -/
theorem get?_put_eq_or {κ α : Type} [DecidableEq κ] (t : Table κ α) (k l : κ) (a : α) :
    (t.put k a).get? l = (if k = l then some a else none).or (t.get? l) := by
  by_cases h : k = l
  · subst h
    simp
  · simp [h, Table.get?_put_of_ne (Ne.symm h)]

/-- What an event changes of a node. -/
structure Changes (event : Event) (n n' : Node) : Prop where
  keys : ∀ e, n'.keys.get? e = (event.keyOf? e).or (n.keys.get? e)
  fees : ∀ token, n'.fees.get? token = (event.feesOf? token).or (n.fees.get? token)
  limit : n'.generateLimit = event.limit?.or n.generateLimit
  disabled : ∀ method, method ∈ n'.disabled ↔ method ∈ n.disabled ∨ event = .disable method
  methods : n'.methods = n.methods ++ event.method?.toList
  generateCalls : n'.generateCalls = n.generateCalls +
    if event.asksForKey = true ∧ generateMethod ∉ n.disabled then 1 else 0

theorem Serves.changes {request : Request} {outcome : Except ErrorObject Json}
    (h : n.Serves request.method outcome n') : Changes (.request request) n n' := by
  obtain ⟨random, rfl⟩ : ∃ random, n' = n.served request.method random := by
    cases h with
    | result v random => exact ⟨random, rfl⟩
    | error e => exact ⟨n.random, rfl⟩
  refine ⟨fun _ => rfl, fun _ => rfl, rfl, by simp [served], rfl, ?_⟩
  by_cases hmethod : request.method = generateMethod
  · simp [served, Event.asksForKey, hmethod]
  · simp [served, Event.asksForKey, hmethod]

theorem changes_setKey (n : Node) (e : Entity) (encoded : String) :
    Changes (.setKey e encoded) n (n.setKey e encoded) :=
  ⟨(get?_put_eq_or n.keys e · encoded), fun _ => rfl, rfl, by simp [setKey],
    (List.append_nil _).symm, rfl⟩

theorem changes_setFees (n : Node) (token : String) (fees : List CustomFee) :
    Changes (.setFees token fees) n (n.setFees token fees) :=
  ⟨fun _ => rfl, (get?_put_eq_or n.fees token · fees), rfl, by simp [setFees],
    (List.append_nil _).symm, rfl⟩

theorem perform_changes (event : Event) (s : Traced Node) :
    ∃ t, perform event s = .ok () t ∧ Changes event s.state t.state := by
  cases event with
  | setKey e encoded =>
      exact ⟨{ s with state := s.state.setKey e encoded }, rfl, changes_setKey ..⟩
  | setFees token fees =>
      exact ⟨{ s with state := s.state.setFees token fees }, rfl, changes_setFees ..⟩
  | limit calls =>
      refine ⟨{ s with state := s.state.failGenerateAfter calls }, rfl, ?_⟩
      exact ⟨fun _ => rfl, fun _ => rfl, rfl, by simp [failGenerateAfter],
        (List.append_nil _).symm, rfl⟩
  | disable method =>
      refine ⟨{ s with state := s.state.disable method }, rfl, ?_⟩
      exact ⟨fun _ => rfl, fun _ => rfl, rfl, by simp [disable, or_comm, eq_comm],
        (List.append_nil _).symm, rfl⟩
  | request request =>
      obtain ⟨outcome, n', journal', hsend, hserves, -⟩ :=
        exists_respond s.state request s.journal
      refine ⟨⟨n', journal'⟩, ?_, hserves.changes⟩
      rw [perform, Act.bind_ok hsend]
      rfl

theorem Written.concat {event : Event} (h : Written history n) (hchanges : Changes event n n') :
    Written (history ++ [event]) n' where
  keys e := by rw [latest_concat, hchanges.keys, h.keys]
  fees token := by rw [latest_concat, hchanges.fees, h.fees]
  limit := by rw [latest_concat, hchanges.limit, h.limit]
  disabled method := by simp [hchanges.disabled, h.disabled, eq_comm]

theorem Reflects.concat {event : Event} (h : Reflects history n)
    (hchanges : Changes event n n') : Reflects (history ++ [event]) n' where
  toWritten := h.toWritten.concat hchanges
  methods := by rw [received_concat, hchanges.methods, h.methods]
  generateCalls := by
    simp [generateCount_concat, hchanges.generateCalls, h.generateCalls, h.disabled]

/-- A request writes nothing. -/
theorem Written.serves {method : String} {outcome : Except ErrorObject Json}
    (h : Written history n) (hserves : n.Serves method outcome n') : Written history n' := by
  cases hserves with
  | result v random => exact ⟨h.keys, h.fees, h.limit, h.disabled⟩
  | error e => exact ⟨h.keys, h.fees, h.limit, h.disabled⟩

theorem exists_reaches (random : Random.Stream) (history : List Event) :
    ∃ n, Reaches random history n ∧ Reflects history n := by
  have hstep : ∀ {past : List Event} {s : Traced Node} (event : Event), Reflects past s.state →
      ∃ t, perform event s = .ok () t ∧ Reflects (past ++ [event]) t.state := by
    intro past s event h
    obtain ⟨t, hperform, hchanges⟩ := perform_changes event s
    exact ⟨t, hperform, h.concat hchanges⟩
  obtain ⟨⟨n, journal⟩, hperform, hreflects⟩ :=
    Act.exists_forM (s := ⟨fresh random, []⟩) hstep history (reflects_fresh random)
  exact ⟨n, ⟨journal, hperform⟩, hreflects⟩

/-! ## The next request -/

/-- What a request that comes after a history is answered, and what becomes of the node. -/
structure Answered (history : List Event) (n : Node) (request : Request) (reply : Response)
    (n' : Node) : Prop where
  id : reply.id = .nat64 request.id
  /-- There is a result or an error, and not both. -/
  either : (reply.result.isSome ∧ reply.error = none) ∨ (reply.result = none ∧ reply.error.isSome)
  /-- A key is given when the history allows for another one. -/
  generate : request.method = generateMethod → (reply.error = none ↔
    Grants (.disable generateMethod ∉ history) (latest Event.limit? history)
      (generateCount history + 1) request.params)
  /-- What is given then is a key. -/
  key : request.method = generateMethod → reply.error = none →
    ∃ key, reply.result = some (.object [("key", .str key)])
  /-- An error leaves the stream, the keys and the fees as they were. -/
  quiet : reply.error ≠ none →
    n'.random = n.random ∧ n'.keys = n.keys ∧ n'.fees = n.fees

theorem Reflects.grants_iff (h : Reflects history n) {params : Json} :
    Grants (generateMethod ∉ n.disabled) n.generateLimit (n.generateCalls + 1) params ↔
      Grants (.disable generateMethod ∉ history) (latest Event.limit? history)
        (generateCount history + 1) params := by
  rw [h.limit, h.generateCalls, h.disabled]

theorem Reflects.answered (h : Reflects history n) (request : Request) (journal : List Record) :
    ∃ reply n' journal', transport.send request ⟨n, journal⟩ = .ok reply ⟨n', journal'⟩ ∧
      Answered history n request reply n' := by
  obtain ⟨outcome, n', journal', hsend, hserves, hdecided⟩ := exists_respond n request journal
  refine ⟨_, n', journal', hsend, ?_⟩
  cases hserves with
  | result v random =>
      refine ⟨rfl, Or.inl ⟨rfl, rfl⟩, fun hmethod => ?_, fun hmethod _ => ?_,
        fun herror => absurd rfl herror⟩
      · rw [← h.grants_iff]
        exact iff_of_true rfl ((hdecided hmethod).ok_iff.1 ⟨v, rfl⟩)
      · obtain ⟨key, rfl⟩ := (hdecided hmethod).key v rfl
        exact ⟨key, rfl⟩
  | error e =>
      refine ⟨rfl, Or.inr ⟨rfl, rfl⟩, fun hmethod => ?_, fun _ hnone => ?_,
        fun _ => ⟨rfl, rfl, rfl⟩⟩
      · rw [← h.grants_iff]
        refine iff_of_false (by simp [replyTo, Response.failure]) fun hgranted => ?_
        obtain ⟨v, hv⟩ := (hdecided hmethod).ok_iff.2 hgranted
        cases hv
      · cases hnone

/-- Every history leads to a node that has received the methods and counted the calls of the
history.  Whatever request comes next has its answer, and no call of a client fails in the
exchange. -/
theorem exists_served (random : Random.Stream) (history : List Event) :
    ∃ n, Reaches random history n ∧ n.methods = received history ∧
      n.generateCalls = generateCount history ∧
      (∀ request journal, ∃ reply n' journal',
        transport.send request ⟨n, journal⟩ = .ok reply ⟨n', journal'⟩ ∧
          Answered history n request reply n') ∧
      ∀ id ctx method params journal e t,
        Client.call transport ctx method params ⟨⟨id, n⟩, journal⟩ = .error e t →
          ¬ e.OfExchange := by
  obtain ⟨n, hreaches, hreflects⟩ := exists_reaches random history
  refine ⟨n, hreaches, hreflects.methods, hreflects.generateCalls, hreflects.answered, ?_⟩
  intro id ctx method params journal e t hcall
  exact not_ofExchange_of_call hcall

/-- A call that asks for a key of a type. -/
def askFor (id : UInt64) (type : String) : Request :=
  .new id generateMethod (.obj [("type", .str type)])

/-- Two calls may succeed.  One of an unsupported type counts as the first of them, so the second
call is given a key and the third fails. -/
theorem exists_served_of_spent_limit :
    (∃ n reply n' journal key,
      Reaches (.ofSeed 7) [.limit 1, .request (askFor 1 "rsaPrivateKey"), .limit 2] n ∧
      n.generateCalls = 1 ∧
      transport.send (askFor 2 "ed25519PrivateKey") ⟨n, []⟩ = .ok reply ⟨n', journal⟩ ∧
      reply.error = none ∧ reply.result = some (.object [("key", .str key)])) ∧
    ∃ n reply n' journal,
      Reaches (.ofSeed 7) [.limit 1, .request (askFor 1 "rsaPrivateKey"), .limit 2,
        .request (askFor 2 "ed25519PrivateKey")] n ∧
      n.generateCalls = 2 ∧
      transport.send (askFor 3 "ed25519PrivateKey") ⟨n, []⟩ = .ok reply ⟨n', journal⟩ ∧
      reply.error ≠ none ∧ n'.random = n.random := by
  constructor
  · obtain ⟨n, hreaches, -, hcalls, hanswered, -⟩ := exists_served (.ofSeed 7)
      [.limit 1, .request (askFor 1 "rsaPrivateKey"), .limit 2]
    obtain ⟨reply, n', journal, hsend, h⟩ := hanswered (askFor 2 "ed25519PrivateKey") []
    have hgranted : reply.error = none :=
      (h.generate rfl).2 ⟨by decide, fun l hl => by cases hl; decide, .inl rfl⟩
    obtain ⟨key, hkey⟩ := h.key rfl hgranted
    exact ⟨n, reply, n', journal, key, hreaches, hcalls, hsend, hgranted, hkey⟩
  · obtain ⟨n, hreaches, -, hcalls, hanswered, -⟩ := exists_served (.ofSeed 7)
      [.limit 1, .request (askFor 1 "rsaPrivateKey"), .limit 2,
        .request (askFor 2 "ed25519PrivateKey")]
    obtain ⟨reply, n', journal, hsend, h⟩ := hanswered (askFor 3 "ed25519PrivateKey") []
    have herror : reply.error ≠ none := by
      intro hnone
      have hwithin := ((h.generate rfl).1 hnone).within 2 rfl
      exact absurd hwithin (by decide)
    exact ⟨n, reply, n', journal, hreaches, hcalls, hsend, herror, (h.quiet herror).1⟩

end Node

end Concord
