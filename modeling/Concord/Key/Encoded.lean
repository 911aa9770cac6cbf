import Concord.Key.Framing
import Concord.Key.Message.Decoder

/-!
# Encoded keys

An encoded key is a single key, raw or behind its header, or the bytes of a
message.  Which of the two is decided by the first byte and the length alone
(`looksSingle`): a header starts with the byte `0x30`, which starts no field of a
key; a compressed point of thirty-three bytes starts with one of its tags; and
every string of thirty-two bytes is taken for a key of curve 25519.

`KeyList.decode` reads one level of a list or a threshold.  It takes the bytes for
a message in any case, and leaves the lists below to the reader in their
canonical form.
-/

namespace Concord

open Text

namespace KeyMessage

/-! ## Single keys in messages -/

def single (k : RawKey) : KeyMessage :=
  match k.algorithm with
  | .ed25519 => .ed25519 k.bytes
  | .secp256k1 => .secp256k1 k.bytes

/-- The message of a list, with or without a threshold. -/
def list (required : Option UInt32) (keys : List KeyMessage) : KeyMessage :=
  match required with
  | some n => .threshold n (some keys)
  | none => .keyList keys

/-- The canonical bytes in hexadecimal. -/
def hex (m : KeyMessage) : String :=
  encodeHex m.bytes

/-! ## Recognition -/

/-- Whether bytes are taken for a single key. -/
def looksSingle (bytes : List UInt8) : Bool :=
  match bytes with
  | [] => false
  | b :: _ =>
    b = 0x30 || ((b = 2 || b = 3) && bytes.length = 33) || bytes.length = 32

def read (bytes : List UInt8) : Except KeyError KeyMessage :=
  match ofBytes bytes with
  | .error e => .error (.invalidMessage e)
  | .ok m => .ok m

/-- The message of an encoded key given by its bytes. -/
def ofEncodedBytes (bytes : List UInt8) : Except KeyError KeyMessage :=
  if looksSingle bytes then (RawKey.detect bytes).map single else read bytes

def ofEncoded (encoded : String) : Except KeyError KeyMessage :=
  match decodeHex encoded with
  | .error e => .error (.invalidHex e)
  | .ok bytes => ofEncodedBytes bytes

end KeyMessage

/-! ## One level of a list -/

/-- A child of a list: a single key, or the text of a list below. -/
inductive KeyEntry where
  /-- A single key. -/
  | key (key : RawKey)
  /-- The hexadecimal text of a list or a threshold. -/
  | nested (encoded : String)
  deriving Repr, DecidableEq

/-- One level of a list or a threshold. -/
structure KeyList where
  /-- The number of keys required, if it is not all. -/
  required : Option UInt32
  /-- The children in order. -/
  entries : List KeyEntry
  deriving Repr, DecidableEq

namespace KeyList

/-- The child that a message is. -/
def entry : KeyMessage → Except KeyError KeyEntry
  | .ed25519 b => (RawKey.stripHeader .ed25519 b).map KeyEntry.key
  | .secp256k1 b => (RawKey.stripHeader .secp256k1 b).map KeyEntry.key
  | .empty => .error .emptyKey
  | m => .ok (.nested m.hex)

/-- The children of a list, the first error if there is one. -/
def entriesOf : List KeyMessage → Except KeyError (List KeyEntry)
  | [] => .ok []
  | m :: ms =>
    match entry m with
    | .error e => .error e
    | .ok e => (entriesOf ms).map (e :: ·)

/-- The level of a message. -/
def ofMessage : KeyMessage → Except KeyError KeyList
  | .keyList ks => (entriesOf ks).map fun es => ⟨none, es⟩
  | .threshold n ks => (entriesOf (ks.getD [])).map fun es => ⟨some n, es⟩
  | .empty => .error .emptyKey
  | _ => .error .notAList

/-- One level of the hexadecimal text of a list or a threshold. -/
def decode (encoded : String) : Except KeyError KeyList :=
  match decodeHex encoded with
  | .error e => .error (.invalidHex e)
  | .ok bytes =>
    match KeyMessage.read bytes with
    | .error e => .error e
    | .ok m => ofMessage m

end KeyList

end Concord
