import Concord.Proofs.Key.Separation
import Concord.Simulated.Node

/-!
# The private keys that a node generates

A node draws bytes until they are a private key of the algorithm.  `Draws` says what this comes
to for a stream, however many draws are rejected.  The node gives up after a number of them, and
up to there it draws just that (`Draws.drawSecret_eq`, `exists_draws_iff`).

So a text that a node generates is read as a private key of its algorithm, and has a public key
(`publicKey_newPrivateKey`).  Under curve 25519 nothing is rejected (`draws_ed25519`).
-/

namespace Concord

open PrivateKey Random

variable {a : Algorithm} {s : Stream} {r : List UInt8 × Stream} {m n : Nat}

/-! ## Draws -/

/-- What is drawn from a stream after a number of draws are rejected, and the stream behind it. -/
inductive Draws (a : Algorithm) : Nat → Stream → List UInt8 × Stream → Prop where
  | taken {s : Stream} (h : isValid a (s.bytes privateSize).1 = true) :
      Draws a 0 s (s.bytes privateSize)
  | rejected {s : Stream} {n : Nat} {r : List UInt8 × Stream}
      (h : isValid a (s.bytes privateSize).1 = false)
      (hrest : Draws a n (s.bytes privateSize).2 r) : Draws a (n + 1) s r

namespace Draws

theorem isValid (h : Draws a n s r) : PrivateKey.isValid a r.1 = true := by
  induction h with
  | taken h => exact h
  | rejected _ _ ih => exact ih

theorem length_eq (h : Draws a n s r) : r.1.length = privateSize := by
  induction h with
  | taken => exact Stream.length_bytes _ _
  | rejected _ _ ih => exact ih

/-- What is drawn after few enough rejections is what a node draws. -/
theorem drawSecret_eq (h : Draws a n s r) (hn : n ≤ m) : Node.drawSecret a m s = r := by
  induction h generalizing m with
  | taken h =>
      cases m with
      | zero => rfl
      | succ m => rw [Node.drawSecret, if_pos h]
  | rejected h hrest ih =>
      obtain ⟨m, rfl⟩ := Nat.exists_eq_add_one_of_ne_zero (Nat.ne_zero_of_lt hn)
      rw [Node.drawSecret, if_neg (by simp [h])]
      exact ih (Nat.le_of_succ_le_succ hn)

end Draws

/-- A node draws a private key if and only if few enough draws are rejected. -/
theorem exists_draws_iff :
    (∃ n ≤ m, Draws a n s (Node.drawSecret a m s)) ↔
      isValid a (Node.drawSecret a m s).1 = true := by
  constructor
  · rintro ⟨n, -, h⟩
    exact h.isValid
  · intro h
    induction m generalizing s with
    | zero => exact ⟨0, Nat.le_refl 0, .taken h⟩
    | succ m ih =>
        cases hfirst : isValid a (s.bytes privateSize).1 with
        | true =>
            rw [Node.drawSecret, if_pos hfirst]
            exact ⟨0, Nat.zero_le _, .taken hfirst⟩
        | false =>
            rw [Node.drawSecret, if_neg (by simp [hfirst])] at h ⊢
            obtain ⟨n, hn, hrest⟩ := ih h
            exact ⟨n + 1, Nat.succ_le_succ hn, .rejected hfirst hrest⟩

/-! ## Keys -/

/-- Bytes that are a private key have a public key. -/
theorem exists_derive_of_isValid {secret : List UInt8} (h : isValid a secret = true) :
    ∃ k, derive a secret = .ok k := by
  cases a with
  | ed25519 => exact ⟨_, rfl⟩
  | secp256k1 =>
      have hkey : Curve.Secp256k1.publicKey? secret = some _ := if_pos h
      rw [derive, hkey]
      exact ⟨_, rfl⟩

/-- A node writes down what it draws, and goes on behind it. -/
theorem newPrivateKey_eq (node : Node) (h : Draws a n node.random r) (hn : n ≤ Node.rejections) :
    node.newPrivateKey a = (encode a r.1, { node with random := r.2 }) := by
  rw [Node.newPrivateKey, h.drawSecret_eq hn]

/-- The text that a node generates is read as what was drawn, and has a public key of its
algorithm. -/
theorem publicKey_newPrivateKey (node : Node) (h : Draws a n node.random r)
    (hn : n ≤ Node.rejections) :
    parse a (node.newPrivateKey a).1 = .ok r.1 ∧
      ∃ k, publicKey a (node.newPrivateKey a).1 = .ok k ∧ k.WellFormed ∧ k.algorithm = a := by
  obtain ⟨k, hk⟩ := exists_derive_of_isValid h.isValid
  have hparse : parse a (encode a r.1) = .ok r.1 := parse_encode h.length_eq
  rw [newPrivateKey_eq node h hn]
  refine ⟨hparse, k, ?_, wellFormed_of_derive hk⟩
  rw [publicKey, hparse]
  exact hk

/-- Under curve 25519 the first draw is taken. -/
theorem draws_ed25519 (s : Stream) : Draws .ed25519 0 s (s.bytes privateSize) := .taken rfl

end Concord
