/-!
# Key algorithms

A single key belongs to one of two algorithms.  The algorithm fixes the size of
the raw public key and the header that a standard encoding puts in front of the
raw bytes of a public or a private key.  A private key has thirty-two bytes under
both.

No header of one algorithm starts like a header of the other, nor a public one
like a private one: the second byte of a header counts what follows it, and the
four counts differ.
-/

namespace Concord

/-- The signature algorithm of a single key. -/
inductive Algorithm where
  /-- Edwards curve 25519. -/
  | ed25519
  /-- Curve secp256k1 with compressed points. -/
  | secp256k1
  deriving Repr, DecidableEq

namespace Algorithm

/-- The name of an algorithm in messages. -/
def name : Algorithm → String
  | .ed25519 => "ED25519"
  | .secp256k1 => "ECDSA_SECP256K1"

/-- The name of an algorithm when a value is shown. -/
def shown : Algorithm → String
  | .ed25519 => "Ed25519"
  | .secp256k1 => "EcdsaSecp256k1"

/-- The number of bytes of a raw public key. -/
def publicSize : Algorithm → Nat
  | .ed25519 => 32
  | .secp256k1 => 33

/-- The header in front of a public key. -/
def publicHeader : Algorithm → List UInt8
  | .ed25519 => [0x30, 0x2a, 0x30, 0x05, 0x06, 0x03, 0x2b, 0x65, 0x70, 0x03, 0x21, 0x00]
  | .secp256k1 =>
    [0x30, 0x2d, 0x30, 0x07, 0x06, 0x05, 0x2b, 0x81, 0x04, 0x00, 0x0a, 0x03, 0x22, 0x00]

/-- The header in front of a private key. -/
def privateHeader : Algorithm → List UInt8
  | .ed25519 =>
    [0x30, 0x2e, 0x02, 0x01, 0x00, 0x30, 0x05, 0x06, 0x03, 0x2b, 0x65, 0x70, 0x04, 0x22, 0x04, 0x20]
  | .secp256k1 =>
    [0x30, 0x30, 0x02, 0x01, 0x00, 0x30, 0x07, 0x06, 0x05, 0x2b, 0x81, 0x04, 0x00, 0x0a, 0x04, 0x22,
     0x04, 0x20]

/-- The two algorithms. -/
def all : List Algorithm := [.ed25519, .secp256k1]

def ofName? (s : String) : Option Algorithm :=
  all.find? fun a => a.name = s

theorem length_publicHeader (a : Algorithm) :
    a.publicHeader.length = match a with
      | .ed25519 => 12
      | .secp256k1 => 14 := by cases a <;> rfl

/-- The second byte of the header of a public key. -/
def publicCount : Algorithm → UInt8
  | .ed25519 => 0x2a
  | .secp256k1 => 0x2d

theorem publicHeader_get_one (a : Algorithm) : a.publicHeader[1]? = some a.publicCount := by
  cases a <;> rfl

end Algorithm

/-- The number of bytes of a private key. -/
def privateSize : Nat := 32

end Concord
