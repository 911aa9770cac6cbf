import Concord.Key.Wire

/-!
# Key messages

The network carries a key as a message: a single key of either algorithm, a list
of keys, or a list with a threshold.  A message may also hold no key at all, and
a threshold may come without its list.

`KeyMessage.nest` counts the messages on the deepest path below a message.  A list
of keys is one of them, a threshold is another in front of its list, and every
child is one more.

`KeyMessage.bytes` is the canonical form: fields in the order of their tags, a zero
threshold left out, and an absent list left out but not an empty one.
-/

namespace Concord

open Key

/-- A key as the network carries it. -/
inductive KeyMessage where
  | empty
  /-- A key of curve 25519. -/
  | ed25519 (bytes : List UInt8)
  /-- A key of curve secp256k1. -/
  | secp256k1 (bytes : List UInt8)
  /-- A list of keys, all of which are required. -/
  | keyList (keys : List KeyMessage)
  /-- A list of keys of which a number is required. -/
  | threshold (required : UInt32) (keys : Option (List KeyMessage))
  deriving Repr

namespace KeyMessage

/-! ## Induction -/

/-- A property that a message has when its children have it. -/
structure Hereditary (p : KeyMessage → Prop) : Prop where
  /-- No key has the property. -/
  empty : p .empty
  /-- Keys of curve 25519 have it. -/
  ed25519 : ∀ b, p (.ed25519 b)
  /-- Keys of curve secp256k1 have it. -/
  secp256k1 : ∀ b, p (.secp256k1 b)
  keyList : ∀ ks, (∀ k ∈ ks, p k) → p (.keyList ks)
  /-- Thresholds without a list have it. -/
  bare : ∀ n, p (.threshold n none)
  /-- Thresholds over keys that have it have it. -/
  threshold : ∀ n ks, (∀ k ∈ ks, p k) → p (.threshold n (some ks))

mutual

/-- All messages have a property that passes from children to parents. -/
theorem Hereditary.all {p : KeyMessage → Prop} (h : Hereditary p) : ∀ m, p m
  | .empty => h.empty
  | .ed25519 b => h.ed25519 b
  | .secp256k1 b => h.secp256k1 b
  | .keyList ks => h.keyList ks (h.allOf ks)
  | .threshold n none => h.bare n
  | .threshold n (some ks) => h.threshold n ks (h.allOf ks)

/-- All children have a property that passes from children to parents. -/
theorem Hereditary.allOf {p : KeyMessage → Prop} (h : Hereditary p) :
    ∀ ks : List KeyMessage, ∀ k ∈ ks, p k
  | [], _, hk => absurd hk List.not_mem_nil
  | k :: ks, _, hk => by
    rcases List.mem_cons.1 hk with heq | hk
    · exact heq ▸ h.all k
    · exact h.allOf ks _ hk

end

/-! ## Nesting -/

mutual

/-- The number of messages on the deepest path below a message. -/
def nest : KeyMessage → Nat
  | .empty => 0
  | .ed25519 _ => 0
  | .secp256k1 _ => 0
  | .keyList ks => 1 + nestList ks
  | .threshold _ none => 1
  | .threshold _ (some ks) => 2 + nestList ks

/-- The greatest number of messages on a path that starts with a child. -/
def nestList : List KeyMessage → Nat
  | [] => 0
  | k :: ks => max (1 + nest k) (nestList ks)

end

/-! ## Canonical bytes -/

/-- A field whose value stands behind its length. -/
def field (tag : Nat) (value : List UInt8) : List UInt8 :=
  writeKey ⟨tag, .delimited⟩ ++ writeDelimited value

/-- The field of a threshold, left out for zero. -/
def thresholdField (required : UInt32) : List UInt8 :=
  if required = 0 then [] else writeKey ⟨1, .varint⟩ ++ writeVarint required.toNat

mutual

/-- The canonical bytes of a message. -/
def bytes : KeyMessage → List UInt8
  | .empty => []
  | .ed25519 b => field 2 b
  | .secp256k1 b => field 7 b
  | .keyList ks => field 6 (listBytes ks)
  | .threshold n none => field 5 (thresholdField n)
  | .threshold n (some ks) => field 5 (thresholdField n ++ field 2 (listBytes ks))

/-- The canonical bytes of the fields of a list of keys. -/
def listBytes : List KeyMessage → List UInt8
  | [] => []
  | k :: ks => field 1 (bytes k) ++ listBytes ks

end

/-! ## Equality -/

mutual

/-- Equality of messages is decidable. -/
def decEq : (a b : KeyMessage) → Decidable (a = b)
  | .empty, b => by cases b <;> first | exact isTrue rfl | exact isFalse (by simp)
  | .ed25519 x, b => by
    cases b with
    | ed25519 y => exact decidable_of_iff (x = y) (by simp)
    | _ => exact isFalse (by simp)
  | .secp256k1 x, b => by
    cases b with
    | secp256k1 y => exact decidable_of_iff (x = y) (by simp)
    | _ => exact isFalse (by simp)
  | .keyList xs, b => by
    cases b with
    | keyList ys => exact @decidable_of_iff _ (xs = ys) (by simp) (decEqList xs ys)
    | _ => exact isFalse (by simp)
  | .threshold n none, b => by
    cases b with
    | threshold m ys =>
      cases ys with
      | none => exact decidable_of_iff (n = m) (by simp)
      | some ys => exact isFalse (by simp)
    | _ => exact isFalse (by simp)
  | .threshold n (some xs), b => by
    cases b with
    | threshold m ys =>
      cases ys with
      | none => exact isFalse (by simp)
      | some ys =>
        exact @decidable_of_iff _ (n = m ∧ xs = ys) (by simp)
          (@instDecidableAnd _ _ _ (decEqList xs ys))
    | _ => exact isFalse (by simp)

/-- Equality of lists of messages is decidable. -/
def decEqList : (xs ys : List KeyMessage) → Decidable (xs = ys)
  | [], [] => isTrue rfl
  | [], _ :: _ => isFalse (by simp)
  | _ :: _, [] => isFalse (by simp)
  | x :: xs, y :: ys =>
    match decEq x y, decEqList xs ys with
    | isTrue h, isTrue hs => isTrue (by rw [h, hs])
    | isFalse h, _ => isFalse (by simp [h])
    | _, isFalse hs => isFalse (by simp [hs])

end

instance : DecidableEq KeyMessage := decEq

instance : Inhabited KeyMessage := ⟨.empty⟩

end KeyMessage

end Concord
