import Concord.Text.Quoted

/-!
# Entities of the ledger

A key or a fee schedule belongs to an entity: an account, a token, a topic or a
contract.  The kind of an entity decides how it is asked for on either side: the
method and the parameter of the call on the consensus side, the path on the
mirror, and the member that holds its key.
-/

namespace Concord

open Text

/-- The kinds of entity. -/
inductive EntityKind where
  | account
  | token
  | topic
  | contract
  deriving Repr, DecidableEq

namespace EntityKind

def name : EntityKind → String
  | .account => "account"
  | .token => "token"
  | .topic => "topic"
  | .contract => "contract"

/-- The name of a kind when a value is shown. -/
def shown : EntityKind → String
  | .account => "Account"
  | .token => "Token"
  | .topic => "Topic"
  | .contract => "Contract"

/-- The method that describes an entity on the consensus side. -/
def method : EntityKind → String
  | .account => "getAccountInfo"
  | .token => "getTokenInfo"
  | .topic => "getTopicInfo"
  | .contract => "getContractInfo"

/-- The parameter of that method that names the entity. -/
def parameter : EntityKind → String
  | .account => "accountId"
  | .token => "tokenId"
  | .topic => "topicId"
  | .contract => "contractId"

/-- The collection of such entities on the mirror. -/
def collection : EntityKind → String
  | .account => "accounts"
  | .token => "tokens"
  | .topic => "topics"
  | .contract => "contracts"

/-- The member that holds the key on the consensus side. -/
def keyMember : EntityKind → String
  | .account => "key"
  | _ => "adminKey"

/-- The member that holds the key on the mirror. -/
def mirrorKeyMember : EntityKind → String
  | .account => "key"
  | _ => "admin_key"

/-- The kinds in order. -/
def all : List EntityKind := [.account, .token, .topic, .contract]

/-- The kind that a method describes. -/
def ofMethod? (method : String) : Option EntityKind :=
  all.find? fun k => k.method = method

def ofName? (name : String) : Option EntityKind :=
  all.find? fun k => k.name = name

end EntityKind

/-- An entity: its kind and its number in the form of a text. -/
structure Entity where
  kind : EntityKind
  /-- The number of the entity. -/
  id : String
  deriving Repr, DecidableEq

namespace Entity

/-- The token of a number. -/
def token (id : String) : Entity := ⟨.token, id⟩

def display (e : Entity) : String :=
  e.kind.name ++ " " ++ e.id

def mirrorPath (e : Entity) : String :=
  e.kind.collection ++ "/" ++ e.id

def shown (e : Entity) : String :=
  e.kind.shown ++ "(" ++ quoted e.id ++ ")"

end Entity

end Concord
