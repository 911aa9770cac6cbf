import Concord.Proofs.Simulated.Node

/-!
# What a simulated node does with requests

Every request is replied to, with a result or an error.

* `Serves` says what any request does to a node: the method is kept, a call that asks for a key
  is counted unless that is disabled, and the random stream moves on only if there is a result.
  Nothing else of the node changes.  `exists_respond` derives it for all requests at once.
* `Grants` says when a call that asks for a key is given one, in terms of the type that it names,
  and `Decided` that this is when there is a result, which is a key.
* A client makes one request of a call, or refuses it (`call_cases`).  As the replies repeat the
  numbers of the requests, no call fails in the exchange (`not_ofExchange_of_call`).
-/

namespace Concord

open Json Rpc

/-! ## Failures of the exchange -/

/-- A failure that lies in the exchange itself: there is no response, it is one to another
request, or it is of no use. -/
def Rpc.Error.OfExchange : Rpc.Error → Prop
  | .transport _ => True
  | .mismatchedId _ _ => True
  | .invalidResponse _ => True
  | _ => False

theorem Rpc.Error.not_ofExchange_ofErrorObject (method : String) (e : ErrorObject) :
    ¬ (Error.ofErrorObject method e).OfExchange := by
  unfold Error.ofErrorObject
  split <;> exact id

namespace Node

variable {n n' : Node} {method : String} {params : Json} {journal : List Record}

/-! ## What a request does -/

/-- A node after a request: it has kept the method, has counted the call if it asks for a key
while that is enabled, and goes on with a random stream. -/
def served (n : Node) (method : String) (random : Random.Stream) : Node :=
  { n with
    methods := n.methods ++ [method]
    generateCalls := n.generateCalls + if method = generateMethod ∧ method ∉ n.disabled then 1 else 0
    random := random }

/-- What a node makes of a request, and what becomes of it.  Its stream stays where it is
unless there is a result. -/
inductive Serves (n : Node) (method : String) : Except ErrorObject Json → Node → Prop where
  | result (v : Json) (random : Random.Stream) : Serves n method (.ok v) (n.served method random)
  | error (e : ErrorObject) : Serves n method (.error e) (n.served method n.random)

/-- What it takes to be given a key: that is enabled, the call is within the limit if there is
one, and the type it asks for is one of two. -/
structure Grants (enabled : Prop) (limit : Option Nat) (call : Nat) (params : Json) : Prop where
  enabled : enabled
  /-- As many calls as the limit says succeed. -/
  within : ∀ l, limit = some l → call ≤ l
  supported : params.get? "type" = some (.str "ed25519PrivateKey") ∨
    params.get? "type" = some (.str "ecdsaSecp256k1PrivateKey")

/-- What becomes of a call that asks for a key, which is granted one or is not. -/
structure Decided (granted : Prop) (outcome : Except ErrorObject Json) : Prop where
  ok_iff : (∃ v, outcome = .ok v) ↔ granted
  /-- A result is a key. -/
  key : ∀ v, outcome = .ok v → ∃ key, v = .object [("key", .str key)]

theorem decided_error {granted : Prop} {e : ErrorObject} (h : ¬ granted) :
    Decided granted (.error e) :=
  ⟨iff_of_false (by simp) h, by simp⟩

theorem decided_ok {granted : Prop} {key : String} (h : granted) :
    Decided granted (.ok (.object [("key", .str key)])) :=
  ⟨iff_of_true ⟨_, rfl⟩ h, fun _ hv => ⟨key, by cases hv; rfl⟩⟩

theorem Decided.congr {granted granted' : Prop} {outcome : Except ErrorObject Json}
    (h : Decided granted outcome) (hiff : granted ↔ granted') : Decided granted' outcome :=
  ⟨h.ok_iff.trans hiff, h.key⟩

theorem algorithmOf?_privateType (a : Algorithm) : algorithmOf? a.privateType = some a := by
  cases a <;> decide

/-- The types for which there is an algorithm are two. -/
theorem exists_algorithm_iff : (∃ a, (typeIn params).bind algorithmOf? = some a) ↔
    params.get? "type" = some (.str "ed25519PrivateKey") ∨
      params.get? "type" = some (.str "ecdsaSecp256k1PrivateKey") := by
  constructor
  · rintro ⟨a, h⟩
    obtain ⟨type, htype, hfind⟩ := Option.bind_eq_some_iff.1 h
    have hmember : params.get? "type" = some (.str type) := get?_bind_text?_eq_some_iff.1 htype
    have hname : a.privateType = type := by simpa using List.find?_some hfind
    rw [hmember, ← hname]
    cases a with
    | ed25519 => exact .inl rfl
    | secp256k1 => exact .inr rfl
  · have htype : ∀ a : Algorithm, params.get? "type" = some (.str a.privateType) →
        (typeIn params).bind algorithmOf? = some a := by
      intro a hmember
      rw [typeIn, get?_bind_text?_eq_some_iff.2 hmember, Option.bind_some,
        algorithmOf?_privateType]
    rintro (hmember | hmember)
    · exact ⟨.ed25519, htype .ed25519 hmember⟩
    · exact ⟨.secp256k1, htype .secp256k1 hmember⟩

theorem refusesGenerate_iff {call : Nat} :
    n.refusesGenerate call = false ↔ ∀ l, n.generateLimit = some l → call ≤ l := by
  unfold refusesGenerate
  cases n.generateLimit <;> simp

/-- A node that has counted a call that asks for a key. -/
def counted (n : Node) : Node := { n with generateCalls := n.generateCalls + 1 }

theorem served_of_uncounted (h : ¬ (method = generateMethod ∧ method ∉ n.disabled))
    (random : Random.Stream) :
    n.served method random = { n.called method with random := random } := by
  rw [served, if_neg h]
  rfl

theorem served_of_counted (h : generateMethod ∉ n.disabled) (random : Random.Stream) :
    n.served generateMethod random
      = { (n.called generateMethod).counted with random := random } := by
  rw [served, if_pos ⟨rfl, h⟩]
  rfl

theorem Serves.of_quiet {outcome : Except ErrorObject Json} {random : Random.Stream}
    (h : ∀ e, outcome = .error e → random = n.random) :
    n.Serves method outcome (n.served method random) := by
  cases outcome with
  | ok v => exact .result v random
  | error e =>
      rw [h e rfl]
      exact .error e

theorem generateKey_of_spent (h : n.refusesGenerate (n.generateCalls + 1) = true) :
    generateKey params ⟨n, journal⟩ = .error generateFailed ⟨n.counted, journal⟩ := by
  show (if n.refusesGenerate (n.generateCalls + 1) then throw generateFailed else _ :
    Act Node ErrorObject Json) ⟨n.counted, journal⟩ = _
  rw [if_pos h]
  rfl

theorem generateKey_of_unsupported (h : n.refusesGenerate (n.generateCalls + 1) = false)
    (htype : (typeIn params).bind algorithmOf? = none) :
    generateKey params ⟨n, journal⟩
      = .error (unsupportedType (typeIn params)) ⟨n.counted, journal⟩ := by
  show (if n.refusesGenerate (n.generateCalls + 1) then _ else _ :
    Act Node ErrorObject Json) ⟨n.counted, journal⟩ = _
  rw [if_neg (by simp [h]), htype]
  rfl

theorem generateKey_of_supported {a : Algorithm}
    (h : n.refusesGenerate (n.generateCalls + 1) = false)
    (htype : (typeIn params).bind algorithmOf? = some a) :
    generateKey params ⟨n, journal⟩
      = .ok (.object [("key", .str (n.counted.newPrivateKey a).1)])
        ⟨(n.counted.newPrivateKey a).2,
          journal ++ [⟨.debug, generateText (n.generateCalls + 1) a⟩]⟩ := by
  show (if n.refusesGenerate (n.generateCalls + 1) then _ else _ :
    Act Node ErrorObject Json) ⟨n.counted, journal⟩ = _
  rw [if_neg (by simp [h]), htype]
  rfl

/-- A call that asks for a key is counted and ends in a key or in an error.  It draws from the
stream for a key only. -/
theorem exists_generateKey (n : Node) (params : Json) (journal : List Record) :
    ∃ outcome random journal', generateKey params ⟨n, journal⟩
        = Act.ofExcept outcome ⟨{ n.counted with random := random }, journal'⟩ ∧
      (∀ e, outcome = .error e → random = n.random) ∧
      Decided (Grants True n.generateLimit (n.generateCalls + 1) params) outcome := by
  cases hlimit : n.refusesGenerate (n.generateCalls + 1) with
  | true =>
      refine ⟨.error generateFailed, n.random, journal, generateKey_of_spent hlimit,
        fun _ _ => rfl, decided_error fun h => ?_⟩
      have hwithin := refusesGenerate_iff.2 h.within
      rw [hlimit] at hwithin
      cases hwithin
  | false =>
      cases htype : (typeIn params).bind algorithmOf? with
      | none =>
          refine ⟨.error (unsupportedType (typeIn params)), n.random, journal,
            generateKey_of_unsupported hlimit htype, fun _ _ => rfl, decided_error fun h => ?_⟩
          obtain ⟨a, ha⟩ := exists_algorithm_iff.2 h.supported
          simp [htype] at ha
      | some a =>
          refine ⟨.ok _, _, _, generateKey_of_supported hlimit htype, by simp, decided_ok ?_⟩
          exact ⟨trivial, refusesGenerate_iff.1 hlimit, exists_algorithm_iff.1 ⟨a, htype⟩⟩

/-- A call of another method leaves everything but its stream as it is. -/
theorem exists_answer (hmethod : method ≠ generateMethod) (n : Node) (params : Json)
    (journal : List Record) :
    ∃ outcome random, answer method params ⟨n, journal⟩
        = Act.ofExcept outcome ⟨{ n with random := random }, journal⟩ ∧
      ∀ e, outcome = .error e → random = n.random := by
  unfold answer
  split
  next => exact absurd rfl hmethod
  next => exact ⟨.ok _, _, rfl, by simp⟩
  next => exact ⟨.ok _, _, rfl, by simp⟩
  next =>
    cases hkind : EntityKind.ofMethod? method with
    | none => exact ⟨.error (unknownMethod method), n.random, rfl, by simp⟩
    | some kind => exact ⟨n.describe kind params, n.random, rfl, by simp⟩

theorem exists_handle (n : Node) (method : String) (params : Json) (journal : List Record) :
    ∃ outcome n' journal',
      handle method params ⟨n.called method, journal⟩ = Act.ofExcept outcome ⟨n', journal'⟩ ∧
      n.Serves method outcome n' ∧
      (method = generateMethod → Decided
        (Grants (generateMethod ∉ n.disabled) n.generateLimit (n.generateCalls + 1) params)
        outcome) := by
  have hopen : handle method params ⟨n.called method, journal⟩
      = (if method ∈ n.disabled then throw (unknownMethod method) else answer method params
        : Act Node ErrorObject Json) ⟨n.called method, journal⟩ := rfl
  rw [hopen]
  by_cases hdisabled : method ∈ n.disabled
  · rw [if_pos hdisabled]
    refine ⟨.error (unknownMethod method), _, journal, ?_, .error _, fun hmethod => ?_⟩
    · rw [served_of_uncounted (fun h => h.2 hdisabled)]
      rfl
    · exact decided_error fun h => h.enabled (hmethod ▸ hdisabled)
  · rw [if_neg hdisabled]
    by_cases hmethod : method = generateMethod
    · subst hmethod
      obtain ⟨outcome, random, journal', hgenerate, hquiet, hgrants⟩ :=
        exists_generateKey (n.called generateMethod) params journal
      refine ⟨outcome, _, journal', hgenerate, ?_, fun _ => hgrants.congr ?_⟩
      · rw [← served_of_counted hdisabled]
        exact .of_quiet hquiet
      · exact ⟨fun h => ⟨hdisabled, h.within, h.supported⟩,
          fun h => ⟨trivial, h.within, h.supported⟩⟩
    · obtain ⟨outcome, random, hanswer, hquiet⟩ :=
        exists_answer hmethod (n.called method) params journal
      refine ⟨outcome, _, journal, hanswer, ?_, fun h => absurd h hmethod⟩
      rw [← served_of_uncounted fun h => hmethod h.1]
      exact .of_quiet hquiet

/-- The reply to a request: it repeats the number and has a result or an error. -/
def replyTo (request : Request) : Except ErrorObject Json → Response
  | .ok v => .success request.id v
  | .error e => .failure (.nat64 request.id) e

/-- Every request is replied to. -/
theorem exists_respond (n : Node) (request : Request) (journal : List Record) :
    ∃ outcome n' journal',
      transport.send request ⟨n, journal⟩ = .ok (replyTo request outcome) ⟨n', journal'⟩ ∧
      n.Serves request.method outcome n' ∧
      (request.method = generateMethod → Decided
        (Grants (generateMethod ∉ n.disabled) n.generateLimit (n.generateCalls + 1)
          request.params) outcome) := by
  obtain ⟨outcome, n', journal', hhandle, hserves, hgrants⟩ :=
    exists_handle n request.method request.params journal
  refine ⟨outcome, n', journal', ?_, hserves, hgrants⟩
  show (Act.attempt (handle request.method request.params) >>= _)
    ⟨n.called request.method, journal⟩ = _
  cases outcome with
  | ok v =>
      rw [Act.bind_ok (Act.attempt_ok hhandle)]
      rfl
  | error e =>
      rw [Act.bind_ok (Act.attempt_error hhandle)]
      rfl

theorem settle_replyTo (request : Request) (outcome : Except ErrorObject Json) :
    settle request.method request.id (replyTo request outcome)
      = outcome.mapError (Error.ofErrorObject request.method) := by
  cases outcome with
  | ok v => exact settle_eq_ok_iff.2 ⟨rfl, rfl, rfl⟩
  | error e => exact settle_of_error rfl (.inl rfl)

/-- A call of a client is refused by the client, or it is one request, and ends as that is
answered. -/
theorem call_cases (ctx : Context) (method : String) (params : Json) (c : Client Node)
    (journal : List Record) :
    (∃ e, bindSession ctx method params = .error e ∧
        Client.call transport ctx method params ⟨c, journal⟩ = .error e ⟨c, journal⟩) ∨
      ∃ outcome t, Client.call transport ctx method params ⟨c, journal⟩
          = Act.ofExcept (outcome.mapError (Error.ofErrorObject method)) t ∧
        c.link.Serves method outcome t.state.link := by
  cases hbind : bindSession ctx method params with
  | error e => exact Or.inl ⟨e, rfl, Client.call_of_refused hbind⟩
  | ok bound =>
      obtain ⟨outcome, n', journal', hsend, hserves, -⟩ :=
        exists_respond c.link (c.nextRequest method bound)
          (Client.beforeSend ⟨c, journal⟩ ctx method).journal
      have hsettle : settle method c.allocate.lastId (replyTo (c.nextRequest method bound) outcome)
          = outcome.mapError (Error.ofErrorObject method) :=
        settle_replyTo (c.nextRequest method bound) outcome
      have hcall := Client.call_of_response (s := ⟨c, journal⟩) hbind hsend
      rw [hsettle] at hcall
      exact Or.inr ⟨outcome, _, hcall, hserves⟩

/-- A call of a client of a node never fails in the exchange. -/
theorem not_ofExchange_of_call {ctx : Context} {c : Client Node} {e : Rpc.Error}
    {t : Traced (Client Node)}
    (h : Client.call transport ctx method params ⟨c, journal⟩ = .error e t) : ¬ e.OfExchange := by
  rcases call_cases ctx method params c journal with ⟨e', hbind, hcall⟩ | ⟨outcome, u, hcall, -⟩
  · rw [hcall] at h
    cases h
    rw [eq_invalidParams_of_bindSession hbind]
    exact id
  · rw [hcall] at h
    cases outcome with
    | ok v => cases h
    | error e' =>
        cases h
        exact Error.not_ofExchange_ofErrorObject method e'

end Node

end Concord
