import Concord.Key.Derived
import Concord.Key.Spec
import Concord.Key.Tree
import Concord.Rpc.Client

/-!
# Making keys

A specification is turned into a key by resolving its leaves from left to right
and assembling the lists above them.  Only a leaf that is to be generated takes a
call; public keys are derived and lists are encoded here.  The first leaf that
fails ends the whole, and no part of a key is returned.

What is resolved is kept in three forms at once (`Resolved`): the message that goes
into the list above, the encoded form, and the private keys that sign.
-/

namespace Concord

open Text

/-! ## Failures -/

/-- Why a key could not be made. -/
inductive GenerationError where
  /-- The call that generates a key failed. -/
  | call (error : Rpc.Error)
  /-- Given or generated material cannot be read. -/
  | key (error : KeyError)
  deriving Repr, DecidableEq

/-- The wording of each error. -/
def GenerationError.message : GenerationError → String
  | .call e => e.message
  | .key e => e.message

/-- Whether the server does not generate keys. -/
def GenerationError.isNotImplemented : GenerationError → Bool
  | .call e => e.isNotImplemented
  | .key _ => false

/-! ## The call -/

/-- The method that generates a private key. -/
def generateMethod : String := "generateKey"

/-- The type of private key to ask for. -/
def Algorithm.privateType : Algorithm → String
  | .ed25519 => "ed25519PrivateKey"
  | .secp256k1 => "ecdsaSecp256k1PrivateKey"

/-- The parameters of the call. -/
def generateParams (a : Algorithm) : Json :=
  .obj [("type", .str a.privateType)]

def generatedField : Json.RecordField String := ⟨"key", Json.readString, .refused⟩

/-- Reads the result of the call. -/
def readGenerated : Json.Shape String :=
  Json.readRecord "GenerateKeyResult" Json.excessInArray [generatedField.toCheck]
    (generatedField.get "GenerateKeyResult" 1 0)

/-! ## Resolved keys -/

/-- A key that has been made. -/
structure GeneratedKey where
  /-- The form that the network encodes. -/
  encoded : String
  /-- The private keys of the leaves that have one, from left to right. -/
  signingKeys : List String
  deriving Repr, DecidableEq

/-- The tree of a key that has been made. -/
def GeneratedKey.tree (k : GeneratedKey) : Except KeyError KeyTree :=
  KeyTree.decode k.encoded

/-- A part of a key: its message, its encoded form and what signs. -/
structure Resolved where
  /-- The message that goes into a list. -/
  message : KeyMessage
  /-- The encoded form. -/
  encoded : String
  /-- The private keys that sign. -/
  signingKeys : List String
  deriving Repr, DecidableEq

namespace Resolved

/-- A given public key, encoded as it is given. -/
def ofPublic (k : RawKey) (encoded : String) : Resolved :=
  ⟨.single k, encoded, []⟩

/-- A public key with the private key it derives from. -/
def ofPrivate (k : RawKey) (encoded : String) : Resolved :=
  ⟨.single k, k.encode, [encoded]⟩

def ofList (required : Option UInt32) (parts : List Resolved) : Resolved :=
  let message := KeyMessage.list required (parts.map Resolved.message)
  ⟨message, message.hex, parts.flatMap Resolved.signingKeys⟩

end Resolved

/-! ## Making a key -/

namespace KeySpec

variable {σ : Type}

/-- Ends in the value of a key, or in the error of reading it. -/
def ofKeyError {α : Type} (r : Except KeyError α) : Act (Rpc.Client σ) GenerationError α :=
  Act.ofExcept (r.mapError GenerationError.key)

/-- Asks for a private key. -/
def requestKey (t : Rpc.Transport σ) (ctx : Context) (a : Algorithm) :
    Act (Rpc.Client σ) GenerationError String := do
  Act.note .debug (ctx.tag ++ "requesting fresh " ++ a.name ++ " key")
  Act.mapError .call (Rpc.Client.callAs t ctx generateMethod (generateParams a) readGenerated)

def resolveLeaf (t : Rpc.Transport σ) (ctx : Context) (a : Algorithm) :
    Material → Act (Rpc.Client σ) GenerationError Resolved
  | .publicKey encoded => do
    let k ← ofKeyError (RawKey.decode a encoded)
    return .ofPublic k encoded
  | .privateKey encoded => do
    let k ← ofKeyError (PrivateKey.publicKey a encoded)
    return .ofPrivate k encoded
  | .fresh => do
    let encoded ← requestKey t ctx a
    let k ← ofKeyError (PrivateKey.publicKey a encoded)
    return .ofPrivate k encoded

mutual

/-- Resolves a specification. -/
def resolve (t : Rpc.Transport σ) (ctx : Context) :
    KeySpec → Act (Rpc.Client σ) GenerationError Resolved
  | .single a m => resolveLeaf t ctx a m
  | .list ss required => do
    let parts ← resolveAll t ctx ss
    return .ofList required parts

/-- Resolves specifications from left to right. -/
def resolveAll (t : Rpc.Transport σ) (ctx : Context) :
    List KeySpec → Act (Rpc.Client σ) GenerationError (List Resolved)
  | [] => pure []
  | s :: ss => do
    let part ← resolve t ctx s
    let parts ← resolveAll t ctx ss
    return part :: parts

end

/-- Makes the key of a specification. -/
def generate (t : Rpc.Transport σ) (ctx : Context) (s : KeySpec) :
    Act (Rpc.Client σ) GenerationError GeneratedKey := do
  let r ← resolve t ctx s
  Act.note .debug
    (ctx.tag ++ "generated key with " ++ decimal r.signingKeys.length ++ " signing key(s)")
  return ⟨r.encoded, r.signingKeys⟩

end KeySpec

end Concord
