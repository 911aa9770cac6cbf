import Concord.Proofs.Fee.Json
import Concord.Proofs.Rpc.Call
import Concord.Simulated.Node
import Concord.Source.Consensus

/-!
# Reading a simulated node through a client

A call that asks a node for the description of an entity gets it, under any session and
whatever the number of the request (`Node.call_describe`), and changes nothing in the node but
the methods it has been called with.  The key and the fees are in the description
(`Entity.keyIn_info`, `Entity.feesIn_info`).  So a node whose method is enabled goes on to report
the key or the schedule that it has, however often it is asked (`Node.follows_key`,
`Node.follows_fees`).
-/

namespace Concord

open Json Rpc

/-! ## Parameters -/

/-- A session leaves the parameter that names the entity as it is. -/
theorem Entity.exists_bindSession (e : Entity) (ctx : Context) (method : String) :
    ∃ bound, bindSession ctx method e.describeParams = .ok bound ∧
      bound.get? e.kind.parameter = some (.str e.id) := by
  cases hsession : ctx.session with
  | none =>
      refine ⟨e.describeParams, by rw [bindSession, hsession], ?_⟩
      exact if_pos rfl
  | some session =>
      have hname : e.kind.parameter ≠ "sessionId" := by
        cases e.kind <;> decide
      refine ⟨_, by rw [bindSession, hsession, describeParams], ?_⟩
      rw [Json.get?, Members.get?_insert_of_ne hname]
      exact if_pos rfl

/-! ## Descriptions -/

namespace Node

/-- A node after a call of a method that changes nothing else. -/
def called (n : Node) (method : String) : Node := { n with methods := n.methods ++ [method] }

/-- The members of a description. -/
def infoFields (n : Node) (e : Entity) : Members :=
  [(e.kind.parameter, .str e.id), (e.kind.keyMember, .ofText? (n.keys.get? e))] ++
    match e.kind with
    | .token => [("customFees", .arr (((n.fees.get? e.id).getD []).map CustomFee.toJson))]
    | _ => []

theorem info_eq (n : Node) (e : Entity) : n.info e = .object (n.infoFields e) := by
  rw [info, infoFields]
  cases e.kind <;> rfl

theorem nodup_infoFields (n : Node) (e : Entity) : ((n.infoFields e).map Prod.fst).Nodup := by
  rw [infoFields]
  cases e.kind <;> simp [EntityKind.parameter, EntityKind.keyMember]

theorem describe_of_params {n : Node} {kind : EntityKind} {params : Json} {id : String}
    (h : params.get? kind.parameter = some (.str id)) :
    n.describe kind params = .ok (n.info ⟨kind, id⟩) := by
  rw [describe, h]
  rfl

/-- A node tells the methods that describe an entity from those that do something. -/
theorem answer_method (kind : EntityKind) (params : Json) (s : Traced Node) :
    answer kind.method params s = Act.ofExcept (s.state.describe kind params) s := by
  cases kind <;> rfl

theorem respond_describe {e : Entity} {request : Request} {s : Traced Node}
    (hmethod : request.method = e.kind.method)
    (hparams : request.params.get? e.kind.parameter = some (.str e.id))
    (henabled : e.kind.method ∉ s.state.disabled) :
    transport.send request s
      = .ok (.success request.id (s.state.info e))
        { s with state := s.state.called e.kind.method } := by
  have hhandle : handle request.method request.params
        { s with state := s.state.called request.method }
      = .ok (s.state.info e) { s with state := s.state.called request.method } := by
    rw [hmethod]
    show (if e.kind.method ∈ s.state.disabled then throw _ else answer e.kind.method request.params
      : Act Node ErrorObject Json) _ = _
    rw [if_neg henabled, answer_method, describe_of_params hparams]
    rfl
  show respond request s = _
  rw [respond, ← hmethod]
  show (Act.attempt (handle request.method request.params) >>= _)
    { s with state := s.state.called request.method } = _
  rw [Act.bind_ok (Act.attempt_ok hhandle)]
  rfl

end Node

/-! ## What is read off a description -/

theorem Entity.keyIn_info (e : Entity) (n : Node) : e.keyIn (n.info e) = .ok (n.keys.get? e) := by
  have hget : (n.info e).get? e.kind.keyMember = some (.ofText? (n.keys.get? e)) := by
    rw [n.info_eq, object, Json.get?, Members.get?_ofList (n.nodup_infoFields e),
      Node.infoFields]
    cases e.kind <;> rfl
  rw [keyIn, hget]
  cases n.keys.get? e <;> rfl

theorem Entity.feesIn_info (token : String) (n : Node) :
    (Entity.token token).feesIn (n.info (.token token))
      = .ok ((n.fees.get? token).getD []) := by
  have hget : (n.info (.token token)).get? "customFees"
      = some (.arr (((n.fees.get? token).getD []).map CustomFee.toJson)) := by
    rw [n.info_eq, object, Json.get?, Members.get?_ofList (n.nodup_infoFields (.token token))]
    rfl
  rw [feesIn, hget]
  show (readList CustomFee.ofJson _).mapError _ = _
  rw [readList_customFees]
  rfl

/-! ## Readers -/

namespace Node

variable {ctx : Context} {e : Entity} {token : String} {s : Traced (Client Node)}

theorem call_describe (ctx : Context) (henabled : e.kind.method ∉ s.state.link.disabled) :
    ∃ t, Client.call transport ctx e.kind.method e.describeParams s
        = .ok (s.state.link.info e) t ∧ t.state.link = s.state.link.called e.kind.method := by
  obtain ⟨bound, hbind, hparams⟩ := e.exists_bindSession ctx e.kind.method
  have hsend := respond_describe (s := Client.beforeSend s ctx e.kind.method)
    (rfl : (s.state.nextRequest e.kind.method bound).method = e.kind.method) hparams henabled
  obtain ⟨t, hcall, hstate⟩ := Client.call_of_success hbind hsend
  refine ⟨t, hcall, ?_⟩
  rw [hstate]
  rfl

/-- A description is read off the answer to the call that asks for it. -/
theorem describe_bind {α : Type} (ctx : Context) {read : Json → Except Failure α} {a : α}
    (henabled : e.kind.method ∉ s.state.link.disabled)
    (hread : read (s.state.link.info e) = .ok a) :
    ∃ t, (do
          let info ← e.describe transport ctx
          Act.ofExcept (read info)) s = .ok a t ∧
      t.state.link = s.state.link.called e.kind.method := by
  obtain ⟨t, hcall, hlink⟩ := call_describe ctx henabled
  refine ⟨t, ?_, hlink⟩
  rw [Entity.describe, Act.bind_ok (Act.mapError_ok hcall), hread]
  rfl

/-- A node reports a key as that of an entity. -/
structure ReportsKey (n : Node) (e : Entity) (key : String) : Prop where
  /-- The method that describes the entity is enabled. -/
  enabled : e.kind.method ∉ n.disabled
  key : n.keys.get? e = some key

/-- A node reports a schedule as that of a token. -/
structure ReportsFees (n : Node) (token : String) (fees : List CustomFee) : Prop where
  /-- The method that describes tokens is enabled. -/
  enabled : EntityKind.token.method ∉ n.disabled
  fees : n.fees.get? token = some fees

/-- A node goes on to report a key while it is asked for it. -/
theorem follows_key (ctx : Context) (e : Entity) (key : String) :
    Act.Follows ((ConsensusReader.ofClient transport).key ctx e) (fun _ => .ok (some key))
      (fun _ c => c.link.ReportsKey e key) (fun _ c => c.link.ReportsKey e key) := by
  refine Act.follows_const fun s hs => ?_
  have hread : e.keyIn (s.state.link.info e) = .ok (some key) := by
    rw [e.keyIn_info, hs.key]
  obtain ⟨t, hdescribe, hlink⟩ := describe_bind ctx hs.enabled hread
  refine ⟨t, hdescribe, ?_⟩
  rw [hlink]
  exact ⟨hs.enabled, hs.key⟩

/-- A node goes on to report a schedule while it is asked for it. -/
theorem follows_fees (ctx : Context) (token : String) (fees : List CustomFee) :
    Act.Follows ((ConsensusReader.ofClient transport).fees ctx token) (fun _ => .ok fees)
      (fun _ c => c.link.ReportsFees token fees) (fun _ c => c.link.ReportsFees token fees) := by
  refine Act.follows_const fun s hs => ?_
  have hread : (Entity.token token).feesIn (s.state.link.info (.token token)) = .ok fees := by
    rw [Entity.feesIn_info, hs.fees, Option.getD_some]
  obtain ⟨t, hdescribe, hlink⟩ := describe_bind (e := .token token) ctx hs.enabled hread
  refine ⟨t, hdescribe, ?_⟩
  rw [hlink]
  exact ⟨hs.enabled, hs.fees⟩

end Node

end Concord
