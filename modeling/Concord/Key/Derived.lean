import Concord.Curve.Edwards25519
import Concord.Curve.Secp256k1
import Concord.Key.Framing

/-!
# Derived keys

The public key of a private key.  Under curve 25519 every thirty-two bytes are a
private key.  Under secp256k1 they are one when the number they denote lies in the
range of the group.

Derived keys are well formed (`wellFormed_of_derive`).
-/

namespace Concord.PrivateKey

open Curve

/-- Whether thirty-two bytes are a private key of an algorithm. -/
def isValid : Algorithm → List UInt8 → Bool
  | .ed25519, _ => true
  | .secp256k1, secret => Secp256k1.validFactor (ofBytesBE secret)

/-- The public key of the bytes of a private key. -/
def derive (algorithm : Algorithm) (secret : List UInt8) : Except KeyError RawKey :=
  match algorithm with
  | .ed25519 => .ok ⟨.ed25519, Edwards25519.publicKey secret⟩
  | .secp256k1 =>
    match Secp256k1.publicKey? secret with
    | some key => .ok ⟨.secp256k1, key⟩
    | none => .error (.invalidMaterial .secp256k1 .scalarRange)

/-- The public key of the hexadecimal text of a private key. -/
def publicKey (algorithm : Algorithm) (encoded : String) : Except KeyError RawKey :=
  match parse algorithm encoded with
  | .error e => .error e
  | .ok secret => derive algorithm secret

theorem wellFormed_of_derive {a : Algorithm} {secret : List UInt8} {k : RawKey}
    (h : derive a secret = .ok k) : k.WellFormed ∧ k.algorithm = a := by
  cases a with
  | ed25519 =>
    cases h
    exact ⟨⟨Edwards25519.length_publicKey secret, by simp⟩, rfl⟩
  | secp256k1 =>
    cases hk : Secp256k1.publicKey? secret with
    | none => simp [derive, hk] at h
    | some key =>
      simp only [derive, hk, Except.ok.injEq] at h
      subst h
      exact ⟨⟨Secp256k1.length_publicKey? hk, fun _ => Secp256k1.head?_publicKey? hk⟩, rfl⟩

end Concord.PrivateKey
