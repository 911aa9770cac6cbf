import Concord.Entity
import Concord.Failure
import Concord.Fee.Custom
import Concord.Rpc.Client

/-!
# Reading the consensus side

The consensus side shows a write as soon as it is decided.  It is read by the
method that describes an entity: the key is a text in a member of the description,
and the fees of a token are a list in another.  A member that is absent or `null`
means that there is no key, or that there are no fees.
-/

namespace Concord

/-- A way to read the consensus side. -/
structure ConsensusReader (σ : Type) where
  /-- The encoded key of an entity, if it has one. -/
  key : Context → Entity → Act σ Failure (Option String)
  /-- The fees of a token. -/
  fees : Context → String → Act σ Failure (List CustomFee)

namespace Entity

/-- The parameters that ask for the description of an entity. -/
def describeParams (e : Entity) : Json :=
  .obj [(e.kind.parameter, .str e.id)]

/-- The key in the description of an entity. -/
def keyIn (e : Entity) (info : Json) : Except Failure (Option String) :=
  match info.get? e.kind.keyMember with
  | none => .ok none
  | some .null => .ok none
  | some (.str s) => .ok (some s)
  | some v =>
    .error (.plain ("Unexpected " ++ e.display ++ " '" ++ e.kind.keyMember ++ "' value: " ++
      v.compact))

/-- The fees in the description of an entity. -/
def feesIn (e : Entity) (info : Json) : Except Failure (List CustomFee) :=
  match info.get? "customFees" with
  | none => .ok []
  | some .null => .ok []
  | some v =>
    (Json.readList CustomFee.ofJson v).mapError
      fun err => .within ("Invalid customFees of " ++ e.display) (.shape err)

/-- Asks for the description of an entity. -/
def describe {σ : Type} (t : Rpc.Transport σ) (ctx : Context) (e : Entity) :
    Act (Rpc.Client σ) Failure Json :=
  Act.mapError (fun err => .within ("Failed to query " ++ e.display) (.call err))
    (Rpc.Client.call t ctx e.kind.method e.describeParams)

end Entity

/-- The consensus side as it is read through a client. -/
def ConsensusReader.ofClient {σ : Type} (t : Rpc.Transport σ) :
    ConsensusReader (Rpc.Client σ) where
  key ctx e := do
    let info ← e.describe t ctx
    Act.ofExcept (e.keyIn info)
  fees ctx id := do
    let e := Entity.token id
    let info ← e.describe t ctx
    Act.ofExcept (e.feesIn info)

end Concord
