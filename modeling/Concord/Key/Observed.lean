import Concord.Json.Shape
import Concord.Key.Tree

/-!
# Keys as the mirror reports them

The mirror reports a key as a type and a hexadecimal text.  The type of a single
key names its algorithm, and then the text is read under that algorithm alone;
under every other type the text is an encoded key of any framing.
-/

namespace Concord

open Json Text

/-- Reads the name of an algorithm. -/
def Algorithm.ofJson : Shape Algorithm :=
  readVariant isNull [(Algorithm.ed25519.name, .ed25519), (Algorithm.secp256k1.name, .secp256k1)]

/-- A key as the mirror reports it. -/
structure ObservedKey where
  keyType : String
  /-- The text of the key. -/
  key : String
  deriving Repr, DecidableEq

namespace ObservedKey

/-- The type of keys that are not single. -/
def compositeType : String := "ProtobufEncoded"

def tree (o : ObservedKey) : Except KeyError KeyTree :=
  match Algorithm.ofName? o.keyType with
  | some a => (RawKey.decode a o.key).map KeyTree.single
  | none => KeyTree.decode o.key

/-- The report of a tree: a single key raw under its algorithm, a list as the
network encodes it. -/
def ofTree (t : KeyTree) : ObservedKey :=
  match t with
  | .single k => ⟨k.algorithm.name, k.hex⟩
  | .list _ _ => ⟨compositeType, t.encode⟩

/-- The report of an encoded key. -/
def ofEncoded (encoded : String) : Except KeyError ObservedKey :=
  (KeyTree.decode encoded).map ofTree

/-! ## JSON -/

def typeField : RecordField String := ⟨"_type", readString, .refused⟩

/-- The field of the text. -/
def keyField : RecordField String := ⟨"key", readString, .refused⟩

/-- Reads a report. -/
def ofJson : Shape ObservedKey :=
  readRecord "ObservedKey" excessInArray [typeField.toCheck, keyField.toCheck] fun s => do
    let keyType ← typeField.get "ObservedKey" 2 0 s
    let key ← keyField.get "ObservedKey" 2 1 s
    return ⟨keyType, key⟩

/-- Writes a report. -/
def toJson (o : ObservedKey) : Json :=
  .object [("_type", .str o.keyType), ("key", .str o.key)]

/-- A report as it is shown. -/
def shown (o : ObservedKey) : String :=
  shownRecord "ObservedKey" [("key_type", quoted o.keyType), ("key", quoted o.key)]

end ObservedKey

end Concord
