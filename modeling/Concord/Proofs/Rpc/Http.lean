import Concord.Proofs.Json.Printed
import Concord.Proofs.Rpc.Call
import Concord.Proofs.Rpc.Exchange
import Concord.Rpc.Http

/-!
# Calls over HTTP and in memory

A service answers requests in memory (`Service.inMemory`) or over HTTP (`Service.overHttp`),
where it reads the request that is posted and writes its response as text.  A call comes to the
same end in both ways (`HttpTarget.call_overHttp`), although a response that is written and read
again has lost the results and data that are `null`.

All that is assumed of the text of the response is that its value is that of the response.  The
reader of a response evaluates the members one by one instead, and refuses a name that is
repeated.  The text has no repeated names, and the value of an object settles those of its
members (`written_members`), so the reader finds the same (`Response.ofText?_text`).
-/

namespace Concord

/-! ## Objects and their members -/

namespace Json

theorem writtenMembers_eq_map (ms : Members) :
    writtenMembers ms = ms.map fun m => (some m.1, m.2.written) := by
  induction ms with
  | nil => rfl
  | cons m ms ih => rw [writtenMembers, ih, List.map_cons]

/-- Members without a repeated name are there once. -/
theorem named_writtenMembers {ms : Members} (hnodup : (ms.map Prod.fst).Nodup) (name : String) :
    Written.named name (writtenMembers ms) = ((ms.get? name).map written).toList := by
  induction ms with
  | nil => rfl
  | cons m ms ih =>
      obtain ⟨k, v⟩ := m
      rw [List.map_cons, List.nodup_cons] at hnodup
      have hrest := ih hnodup.2
      rw [Written.named] at hrest
      rw [Written.named, writtenMembers, Members.get?_cons]
      by_cases hk : k = name
      · subst hk
        rw [List.filter_cons_of_pos (by simp), List.map_cons, hrest,
          Members.get?_eq_none hnodup.1, if_pos rfl]
        rfl
      · rw [List.filter_cons_of_neg (by simpa using hk), hrest, if_neg hk]

/-- The members of a record that are there, with the values that the fields have. -/
def foundFields (evaluations : List (String × Evaluation)) (fields : Members) : Members :=
  evaluations.filterMap fun p => (fields.get? p.1).map (p.1, ·)

theorem foundFields_cons (name : String) (evaluate : Evaluation)
    (evaluations : List (String × Evaluation)) (fields : Members) :
    foundFields ((name, evaluate) :: evaluations) fields
      = ((fields.get? name).map (name, ·)).toList ++ foundFields evaluations fields := by
  rw [foundFields, List.filterMap_cons, foundFields]
  cases fields.get? name <;> rfl

/-- A record whose members are evaluated as the fields of an object is that object. -/
theorem fields?_writtenMembers {ms fields : Members} (hnodup : (ms.map Prod.fst).Nodup)
    {evaluations : List (String × Evaluation)}
    (h : ∀ p ∈ evaluations, (ms.get? p.1).map (fun v => p.2 v.written)
      = (fields.get? p.1).map some) :
    Written.fields? (writtenMembers ms) evaluations = some (foundFields evaluations fields) := by
  induction evaluations with
  | nil => rfl
  | cons p evaluations ih =>
      obtain ⟨name, evaluate⟩ := p
      have hrest := ih fun q hq => h q (List.mem_cons_of_mem _ hq)
      have hfirst : (ms.get? name).map (fun v => evaluate v.written)
          = (fields.get? name).map some := h _ List.mem_cons_self
      rw [Written.fields?, named_writtenMembers hnodup, foundFields_cons]
      cases hget : ms.get? name with
      | none =>
          rw [hget, Option.map_none, eq_comm, Option.map_eq_none_iff] at hfirst
          rw [hfirst]
          exact hrest
      | some v =>
          rw [hget, Option.map_some] at hfirst
          obtain ⟨f, hf, hvalue⟩ := Option.map_eq_some_iff.1 hfirst.symm
          show (evaluate v.written).bind _ = _
          rw [← hvalue, hf, Option.bind_some, hrest]
          rfl

theorem record?_written {ms fields : Members} (hnodup : (ms.map Prod.fst).Nodup)
    {evaluations : List (String × Evaluation)}
    (h : ∀ p ∈ evaluations, (ms.get? p.1).map (fun v => p.2 v.written)
      = (fields.get? p.1).map some) :
    Written.record? evaluations (written (.obj ms))
      = some (.object (foundFields evaluations fields)) := by
  have hnames : ((writtenMembers ms).any fun m => m.1.isNone) = false := by
    rw [writtenMembers_eq_map, List.any_map, List.any_eq_false]
    exact fun m _ => by simp
  rw [written, Written.record?, hnames, if_neg Bool.false_ne_true,
    fields?_writtenMembers hnodup h]
  rfl

/-- What is evaluated of members keeps their names and has their values. -/
theorem members?_writtenMembers {depth : Nat} {ms ps : Members}
    (h : Written.members? depth (writtenMembers ms) = some ps) :
    ps.map Prod.fst = ms.map Prod.fst ∧
      ∀ name, (ms.get? name).map (fun v => v.written.value? depth)
        = (ps.get? name).map some := by
  induction ms generalizing ps with
  | nil =>
      cases h
      exact ⟨rfl, fun name => rfl⟩
  | cons m ms ih =>
      obtain ⟨k, v⟩ := m
      rw [writtenMembers, Written.members?, Option.bind_some] at h
      obtain ⟨x, hx, hmap⟩ := Option.bind_eq_some_iff.1 h
      obtain ⟨qs, hqs, rfl⟩ := Option.map_eq_some_iff.1 hmap
      obtain ⟨hnames, hvalues⟩ := ih hqs
      refine ⟨by rw [List.map_cons, List.map_cons, hnames], fun name => ?_⟩
      rw [Members.get?_cons, Members.get?_cons]
      by_cases hk : k = name
      · rw [if_pos hk, if_pos hk, Option.map_some, Option.map_some, hx]
      · rw [if_neg hk, if_neg hk, hvalues]

/-- The value of an object settles the values of its members. -/
theorem value?_members {depth : Nat} {ms fields : Members} (hms : (ms.map Prod.fst).Nodup)
    (hfields : (fields.map Prod.fst).Nodup)
    (h : (written (.obj ms)).value? (depth + 1) = some (.object fields)) (name : String) :
    (ms.get? name).map (fun v => v.written.value? depth) = (fields.get? name).map some := by
  rw [written, Written.value?] at h
  obtain ⟨ps, hps, hobject⟩ := Option.map_eq_some_iff.1 h
  obtain ⟨hnames, hvalues⟩ := members?_writtenMembers hps
  have hsame : Members.ofList ps = Members.ofList fields := by
    rw [object, object] at hobject
    exact Json.obj.inj hobject
  rw [hvalues, ← Members.get?_ofList (hnames ▸ hms), hsame, Members.get?_ofList hfields]

end Json

namespace Rpc

open Json

/-! ## The text of a response -/

namespace ErrorObject

/-- The members of an error that a reader finds are all of them. -/
theorem foundFields_fields (depth : Nat) (e : ErrorObject) :
    foundFields (evaluations depth) e.fields = e.fields := by
  obtain ⟨code, message, data⟩ := e
  cases data <;> rfl

theorem record?_fields {depth : Nat} {e : ErrorObject}
    (h : (written (.obj e.fields)).value? (depth + 1) = some e.toJson) :
    Written.record? (evaluations depth) (written (.obj e.fields)) = some e.toJson := by
  rw [toJson_eq] at h ⊢
  have hvalues := value?_members e.nodup_fields e.nodup_fields h
  refine (record?_written e.nodup_fields ?_).trans
    (congrArg (fun fields => some (object fields)) (e.foundFields_fields depth))
  simpa only [evaluations, List.forall_mem_cons, List.not_mem_nil, false_imp_iff, implies_true,
    and_true] using ⟨hvalues "code", hvalues "message", hvalues "data"⟩

end ErrorObject

namespace Response

/-- The members of a response in the order in which they are written. -/
def printed (r : Response) : Members := r.fieldsWith fun e => .obj e.fields

/-- The text of a response. -/
def text (r : Response) : String := compact (.obj r.printed)

theorem foundFields_fields (depth : Nat) (r : Response) :
    foundFields (evaluations depth) r.fields = r.fields := by
  obtain ⟨version, id, result, error⟩ := r
  cases result <;> cases error <;> rfl

theorem nodup_printed (r : Response) : (r.printed.map Prod.fst).Nodup := r.nodup_fieldsWith _

theorem nodup_fields (r : Response) : (r.fields.map Prod.fst).Nodup := r.nodup_fieldsWith _

theorem record?_printed {depth : Nat} {r : Response}
    (h : (written (.obj r.printed)).value? (depth + 2) = some r.toJson) :
    Written.record? (evaluations (depth + 1)) (written (.obj r.printed)) = some r.toJson := by
  rw [toJson_eq] at h ⊢
  have hvalues := value?_members r.nodup_printed r.nodup_fields h
  have hprinted : r.printed.get? "error" = r.error.map fun e => .obj e.fields := get?_error _ r
  have hfields : r.fields.get? "error" = r.error.map ErrorObject.toJson := get?_error _ r
  have herror : (r.printed.get? "error").map
      (fun v => Written.record? (ErrorObject.evaluations depth) v.written)
        = (r.fields.get? "error").map some := by
    have hvalue := hvalues "error"
    rw [hprinted, hfields] at hvalue ⊢
    cases he : r.error with
    | none => rfl
    | some e =>
        rw [he] at hvalue
        exact congrArg some (ErrorObject.record?_fields (Option.some.inj hvalue))
  refine (record?_written r.nodup_printed ?_).trans
    (congrArg (fun fields => some (object fields)) (r.foundFields_fields (depth + 1)))
  simpa only [evaluations, List.forall_mem_cons, List.not_mem_nil, false_imp_iff, implies_true,
    and_true] using ⟨hvalues "jsonrpc", hvalues "id", hvalues "result", herror⟩

/-- A response is read off its text if the value of that text is the response. -/
theorem ofText?_text {r : Response} (h : Json.parse usualDepth r.text = some r.toJson) :
    ofText? r.text = some r.reread := by
  rw [Json.parse, text, parseWritten_compact, Option.bind_some] at h
  rw [ofText?, text, parseWritten_compact, Option.bind_some, ofWritten?]
  have hrecord : Written.record? (evaluations (usualDepth - 1)) (written (.obj r.printed))
      = some r.toJson := record?_printed h
  rw [hrecord, Option.bind_some, ofJson_toJson]
  rfl

end Response

/-! ## Services -/

/-- A service answers every request with a response, and over HTTP under a status. -/
structure Service (σ : Type) where
  respond : Request → σ → Response × σ
  status : Request → σ → Http.Status

namespace Service

variable {σ : Type} (service : Service σ)

/-- The service in the memory of its client. -/
def inMemory : Transport σ :=
  ⟨fun request s =>
    let r := service.respond request s.state
    .ok r.1 { s with state := r.2 }⟩

/-- The service behind HTTP.  It reads the request that is posted, and ends an exchange of
another kind without a response. -/
def overHttp : Http.Link σ where
  exchange
    | .post _ body, s =>
      match Request.ofJson body with
      | .ok request =>
        let r := service.respond request s
        (.answered (service.status request s) (.complete r.1.text), r.2)
      | .error _ => (.dropped, s)
    | .get _, s => (.dropped, s)

/-- The response to a request gets through: the value of its text is that of the response, and
its status is a success unless it has an error. -/
structure Delivers (request : Request) (s : σ) : Prop where
  parse_text : Json.parse usualDepth (service.respond request s).1.text
    = some (service.respond request s).1.toJson
  admitted : (service.status request s).isSuccess = true ∨
    (service.respond request s).1.error.isSome = true

theorem exchange_post (address : Url.Address) (request : Request) (s : σ) :
    service.overHttp.exchange (.post address request.toJson) s
      = (.answered (service.status request s) (.complete (service.respond request s).1.text),
          (service.respond request s).2) := by
  show (match Request.ofJson request.toJson with
    | .ok request => _
    | .error _ => _) = _
  rw [request.ofJson_toJson]

end Service

/-! ## Calls -/

theorem ofBody_of_read {status : Http.Status} {text : String} {r : Response}
    (hread : Response.ofText? text = some r)
    (hcounts : status.isSuccess = true ∨ r.error.isSome = true) :
    ofBody status text = (.ok r, []) := by
  rw [ofBody, hread]
  exact if_pos (by simpa using hcounts)

theorem ofBody_text {status : Http.Status} {r : Response}
    (hparse : Json.parse usualDepth r.text = some r.toJson)
    (hadmitted : status.isSuccess = true ∨ r.error.isSome = true) :
    ofBody status r.text = (.ok r.reread, []) := by
  refine ofBody_of_read (Response.ofText?_text hparse) ?_
  rw [Response.reread, Option.isSome_map]
  exact hadmitted

section

variable {σ : Type} {service : Service σ}

/-- Over HTTP a client receives the response of the service as it is read again. -/
theorem HttpTarget.send_overHttp (h : HttpTarget) {request : Request} {s : Traced σ}
    (hdelivers : service.Delivers request s.state) :
    (h.transport service.overHttp).send request s
      = .ok (service.respond request s.state).1.reread
        { s with state := (service.respond request s.state).2 } := by
  have hbody := ofBody_text hdelivers.parse_text hdelivers.admitted
  have hlink : (service.overHttp.send (.post h.address request.toJson) : Act σ Error _) s
      = .ok (.answered (service.status request s.state)
          (.complete (service.respond request s.state).1.text))
        { s with state := (service.respond request s.state).2 } := by
    rw [Http.Link.send, service.exchange_post]
  show h.post service.overHttp request s = _
  rw [HttpTarget.post, Act.bind_ok hlink, ofOutcome, hbody]
  show EStateM.Result.ok _ { s with state := _, journal := s.journal ++ [] } = _
  rw [List.append_nil]

theorem settledRecords_reread (ctx : Context) (method : String) (id : UInt64) (r : Response) :
    Client.settledRecords ctx method id r.reread = Client.settledRecords ctx method id r := by
  rw [Client.settledRecords, Client.settledRecords, answers_reread, settle_reread]

/-- A call over HTTP is the call in memory, and the requests that are posted are read as they
were sent. -/
theorem HttpTarget.call_overHttp (h : HttpTarget) (service : Service σ) (ctx : Context)
    (method : String) (params : Json) (s : Traced (Client σ))
    (hdelivers : ∀ bound, bindSession ctx method params = .ok bound →
      service.Delivers (s.state.nextRequest method bound) s.state.link) :
    Client.call (h.transport service.overHttp) ctx method params s
      = Client.call service.inMemory ctx method params s ∧
      ∀ request : Request, Request.ofJson request.toJson = .ok request := by
  refine ⟨?_, Request.ofJson_toJson⟩
  cases hbind : bindSession ctx method params with
  | error e => rw [Client.call_of_refused hbind, Client.call_of_refused hbind]
  | ok bound =>
      have hmemory : service.inMemory.send (s.state.nextRequest method bound)
          (Client.beforeSend s ctx method) = .ok _ _ := rfl
      have hhttp := h.send_overHttp (s := Client.beforeSend s ctx method) (hdelivers bound hbind)
      rw [Client.call_of_response hbind hmemory, Client.call_of_response hbind hhttp,
        settle_reread, settledRecords_reread]

end

/-- A service that counts its requests and refuses each of them, with a result that is `null`
and with data. -/
def refusingService : Service Nat where
  respond request n :=
    (⟨none, .nat64 request.id, some .null,
      some ((ErrorObject.new (-32000) "bad \"key\"\n").withStatus "INVALID_KEY")⟩, n + 1)
  status _ _ := ⟨500⟩

theorem HttpTarget.call_overHttp_refusingService :
    Client.call
        (HttpTarget.transport ⟨⟨.http, "", .name "localhost", none, [], "", none, none⟩, .ofSeconds 30⟩
          refusingService.overHttp)
        ⟨"tck", some "s1"⟩ "createKey" (.obj [("type", .str "ed25519")]) ⟨.fresh 0, []⟩
      = Client.call refusingService.inMemory
        ⟨"tck", some "s1"⟩ "createKey" (.obj [("type", .str "ed25519")]) ⟨.fresh 0, []⟩ := by
  refine (call_overHttp _ refusingService _ _ _ _ fun bound hbound => ?_).1
  cases hbound
  refine ⟨?_, .inr rfl⟩
  rw [Response.text, parse_compact]
  decide

end Rpc

end Concord
