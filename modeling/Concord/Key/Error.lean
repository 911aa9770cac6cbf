import Concord.Key.Algorithm
import Concord.Key.Wire
import Concord.Text.Hex

/-!
# Key errors

Every way in which an encoded key can fail to be a key has a constructor of its
own, with what is needed to say so.  No encoding is ever taken for a key of a
guessed algorithm.
-/

namespace Concord

open Text Key

/-- Why bytes of the right size are still not a key. -/
inductive MaterialFault where
  /-- The first byte is not the tag of a compressed point. -/
  | notCompressed (tag : UInt8)
  /-- The number is zero or not below the order of the group. -/
  | scalarRange
  deriving Repr, DecidableEq

/-- The wording of each fault. -/
def MaterialFault.message : MaterialFault → String
  | .notCompressed tag =>
    "not a compressed point (tag 0x" ++ encodeHex [tag] ++ ")"
  | .scalarRange => "crypto error"

/-- Why an encoded key cannot be read. -/
inductive KeyError where
  /-- The text is not hexadecimal. -/
  | invalidHex (error : HexError)
  /-- The length is neither that of the raw key nor that of the key behind its
  header. -/
  | unrecognizedLength (algorithm : Algorithm) (length : Nat)
  /-- The length is right but the header is another. -/
  | headerMismatch (algorithm : Algorithm) (header : List UInt8)
  /-- No public key has this length. -/
  | unknownEncoding (length : Nat)
  /-- The bytes are not a message. -/
  | invalidMessage (error : WireError)
  /-- The message holds a single key where a list is needed. -/
  | notAList
  /-- The message holds no key. -/
  | emptyKey
  /-- The bytes have the right size and are no key. -/
  | invalidMaterial (algorithm : Algorithm) (fault : MaterialFault)
  deriving Repr, DecidableEq

/-- The wording of each error. -/
def KeyError.message : KeyError → String
  | .invalidHex e => "Invalid hex string: " ++ e.message
  | .unrecognizedLength a n =>
    "Unrecognized " ++ a.name ++ " key encoding of " ++ decimal n ++ " bytes"
  | .headerMismatch a header =>
    "Unexpected " ++ a.name ++ " DER prefix: " ++ encodeHex header
  | .unknownEncoding n => "Unknown key encoding of " ++ decimal n ++ " bytes"
  | .invalidMessage e => "Invalid protobuf key: " ++ e.message
  | .notAList => "Key is not a key list or threshold key"
  | .emptyKey => "Key message has no key set"
  | .invalidMaterial a fault => "Invalid " ++ a.name ++ " key material: " ++ fault.message

end Concord
