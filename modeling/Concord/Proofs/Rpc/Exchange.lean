import Concord.Proofs.Json.Record
import Concord.Rpc.Client

/-!
# Reading requests and responses back

A request that is written is read as itself (`Request.ofJson_toJson`).  A response is read
without the results and the data that are `null` (`Response.reread`), which makes no difference
to the outcome of a call (`settle_reread`).
-/

namespace Concord.Rpc

open Json

/-! ## Requests -/

/-- The members of a request. -/
def Request.fields (r : Request) : Members :=
  [("jsonrpc", .str r.version), ("id", .nat64 r.id), ("method", .str r.method),
    ("params", r.params)]

theorem Request.nodup_fields (r : Request) : (r.fields.map Prod.fst).Nodup := by
  show ["jsonrpc", "id", "method", "params"].Nodup
  decide

/-- A request is read as it was written. -/
theorem Request.ofJson_toJson (r : Request) : ofJson r.toJson = .ok r := by
  have hversion : versionField.Holds r.fields r.version := .present rfl rfl
  have hid : idField.Holds r.fields r.id := .present rfl (readNat64_nat64 r.id)
  have hmethod : methodField.Holds r.fields r.method := .present rfl rfl
  have hparams : paramsField.Holds r.fields r.params := .present rfl rfl
  have hchecks : [versionField.toCheck, idField.toCheck, methodField.toCheck,
      paramsField.toCheck].Forall (·.Passes r.fields) :=
    ⟨hversion.passes, hid.passes, hmethod.passes, hparams.passes⟩
  have hnodup := r.nodup_fields
  show readRecord _ _ _ _ (.object r.fields) = _
  rw [readRecord_object hnodup hchecks, hversion.get hnodup, hid.get hnodup,
    hmethod.get hnodup, hparams.get hnodup]
  rfl

/-! ## Errors -/

namespace ErrorObject

/-- An error as it is read: data that is `null` counts as absent. -/
def reread (e : ErrorObject) : ErrorObject := { e with data := nullAsAbsent e.data }

/-- The members of an error. -/
def fields (e : ErrorObject) : Members :=
  ("code", .int64 e.code) :: ("message", .str e.message) :: optionalMember "data" e.data

theorem toJson_eq (e : ErrorObject) : e.toJson = .object e.fields := by
  rw [toJson, fields]
  cases e.data <;> rfl

theorem nodup_fields (e : ErrorObject) : (e.fields.map Prod.fst).Nodup := by
  rw [fields]
  cases e.data with
  | none =>
      show ["code", "message"].Nodup
      decide
  | some d =>
      show ["code", "message", "data"].Nodup
      decide

theorem ofJson_toJson (e : ErrorObject) : ofJson e.toJson = .ok e.reread := by
  have hcode : codeField.Holds e.fields e.code := .present rfl (readInt64_int64 e.code)
  have hmessage : messageField.Holds e.fields e.message := .present rfl rfl
  have hdata : dataField.Holds e.fields (nullAsAbsent e.data) :=
    .nullable rfl rfl (Members.get?_optionalMember "data" "data" e.data)
  have hchecks : [codeField.toCheck, messageField.toCheck,
      dataField.toCheck].Forall (·.Passes e.fields) :=
    ⟨hcode.passes, hmessage.passes, hdata.passes⟩
  have hnodup := e.nodup_fields
  rw [toJson_eq, ofJson, readRecord_object hnodup hchecks, hcode.get hnodup,
    hmessage.get hnodup, hdata.get hnodup]
  rfl

theorem readOption_toJson (e : ErrorObject) : readOption ofJson e.toJson = .ok (some e.reread) := by
  have hobject : e.toJson ≠ .null := by
    rw [toJson_eq]
    exact fun h => by cases h
  exact readOption_of_read hobject e.ofJson_toJson

end ErrorObject

/-! ## Responses -/

namespace Response

/-- A response as it is read: a result or data that is `null` counts as absent. -/
def reread (r : Response) : Response :=
  { r with result := nullAsAbsent r.result, error := r.error.map ErrorObject.reread }

/-- The members of a response, given how its error is written. -/
def fieldsWith (write : ErrorObject → Json) (r : Response) : Members :=
  ("jsonrpc", .ofText? r.version) :: ("id", r.id) ::
    (optionalMember "result" r.result ++ optionalMember "error" (r.error.map write))

def fields (r : Response) : Members := r.fieldsWith ErrorObject.toJson

theorem toJson_eq (r : Response) : r.toJson = .object r.fields := by
  rw [toJson, fields, fieldsWith]
  cases r.result <;> cases r.error <;> rfl

theorem nodup_fieldsWith (write : ErrorObject → Json) (r : Response) :
    ((r.fieldsWith write).map Prod.fst).Nodup := by
  rw [fieldsWith]
  cases r.result <;> cases r.error <;> simp [optionalMember]

theorem get?_result (write : ErrorObject → Json) (r : Response) :
    (r.fieldsWith write).get? "result" = r.result := by
  simp [fieldsWith, Members.get?_cons, Members.get?_append, Members.get?_optionalMember]

theorem get?_error (write : ErrorObject → Json) (r : Response) :
    (r.fieldsWith write).get? "error" = r.error.map write := by
  simp [fieldsWith, Members.get?_cons, Members.get?_append, Members.get?_optionalMember]

theorem ofJson_toJson (r : Response) : ofJson r.toJson = .ok r.reread := by
  have hversion : versionField.Holds r.fields r.version :=
    .present rfl (readOption_ofText? r.version)
  have hid : idField.Holds r.fields r.id := .present rfl rfl
  have hresult : resultField.Holds r.fields (nullAsAbsent r.result) :=
    .nullable rfl rfl (get?_result _ r)
  have herror : errorField.Holds r.fields (r.error.map ErrorObject.reread) :=
    .optional rfl (get?_error _ r) ErrorObject.readOption_toJson
  have hchecks : [versionField.toCheck, idField.toCheck, resultField.toCheck,
      errorField.toCheck].Forall (·.Passes r.fields) :=
    ⟨hversion.passes, hid.passes, hresult.passes, herror.passes⟩
  have hnodup : (r.fields.map Prod.fst).Nodup := nodup_fieldsWith _ r
  rw [toJson_eq, ofJson, readRecord_object hnodup hchecks, hversion.get hnodup,
    hid.get hnodup, hresult.get hnodup, herror.get hnodup]
  rfl

end Response

/-! ## Outcomes -/

theorem ErrorObject.status_reread (e : ErrorObject) : e.reread.status = e.status := by
  obtain ⟨code, message, data⟩ := e
  cases data with
  | none => rfl
  | some d => cases d <;> rfl

theorem Error.ofErrorObject_reread (method : String) (e : ErrorObject) :
    ofErrorObject method e.reread = ofErrorObject method e := by
  rw [ofErrorObject, ofErrorObject, e.status_reread]
  rfl

theorem getD_nullAsAbsent (v : Option Json) : (nullAsAbsent v).getD .null = v.getD .null := by
  cases v with
  | none => rfl
  | some v => cases v <;> rfl

theorem answers_reread (id : UInt64) (r : Response) : answers id r.reread = answers id r := by
  rw [answers, answers, Response.reread, Option.isSome_map]

/-- What a response loses when it is read again has no part in the outcome of a call. -/
theorem settle_reread (method : String) (id : UInt64) (r : Response) :
    settle method id r.reread = settle method id r := by
  rw [settle, settle, answers_reread]
  obtain ⟨version, rid, result, error⟩ := r
  cases error with
  | none =>
      dsimp only [Response.reread, Option.map_none]
      rw [getD_nullAsAbsent]
  | some e =>
      dsimp only [Response.reread, Option.map_some]
      rw [Error.ofErrorObject_reread]

end Concord.Rpc
