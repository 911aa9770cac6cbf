import Concord.Key.Error

/-!
# Raw keys

A raw key is the bytes of a public key under its algorithm, without any container.
Two sources that report the same key need not frame it alike, so raw keys are
compared by their ends: they *agree* when the algorithms are equal and the shorter
string of bytes is the end of the longer one.  An empty string is the end of
itself alone.
-/

namespace Concord

open Text

/-! ## Ends of byte strings -/

/-- Whether the shorter of two strings of bytes is the end of the longer. -/
def endsAlike (a b : List UInt8) : Bool :=
  if a.isEmpty || b.isEmpty then a.isEmpty && b.isEmpty
  else if a.length ≤ b.length then a.isSuffixOf b else b.isSuffixOf a

theorem endsAlike_refl (a : List UInt8) : endsAlike a a = true := by
  cases a with
  | nil => rfl
  | cons x a => simp [endsAlike]

/-- Strings of one length end alike only when they are equal. -/
theorem eq_of_endsAlike {a b : List UInt8} (hl : a.length = b.length)
    (h : endsAlike a b = true) : a = b := by
  cases a with
  | nil => exact (List.length_eq_zero_iff.1 hl.symm).symm
  | cons x a =>
    cases b with
    | nil => simp at hl
    | cons y b =>
      rw [endsAlike, if_neg (by simp), if_pos (Nat.le_of_eq hl)] at h
      exact (List.isSuffixOf_iff_suffix.1 h).eq_of_length hl

/-! ## Keys -/

/-- The bytes of a public key under its algorithm. -/
structure RawKey where
  algorithm : Algorithm
  bytes : List UInt8
  deriving Repr, DecidableEq

namespace RawKey

/-- The bytes in hexadecimal. -/
def hex (k : RawKey) : String :=
  encodeHex k.bytes

def shown (k : RawKey) : String :=
  "RawKeyView(" ++ k.algorithm.name ++ ", " ++ k.hex ++ ")"

/-- Two keys agree when their algorithms are equal and their bytes end alike. -/
def agrees (a b : RawKey) : Bool :=
  a.algorithm = b.algorithm && endsAlike a.bytes b.bytes

/-- A key has the size of its algorithm, and a compressed point one of its two
tags. -/
def WellFormed (k : RawKey) : Prop :=
  k.bytes.length = k.algorithm.publicSize ∧
    (k.algorithm = .secp256k1 → k.bytes.head? = some 2 ∨ k.bytes.head? = some 3)

instance (k : RawKey) : Decidable k.WellFormed :=
  inferInstanceAs (Decidable (_ ∧ _))

theorem agrees_refl (k : RawKey) : k.agrees k = true := by
  simp [agrees, endsAlike_refl]

end RawKey

end Concord
