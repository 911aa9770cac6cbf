import Concord.Key.Encoded

/-!
# Key trees

A key tree is the structure of a key without any framing: single keys at the
leaves, lists with or without a threshold above them.  Trees decoded from two
sources can be compared whatever containers the sources use.

* `KeyTree.decode` reads a tree from the text of a key in any framing, and
  `KeyTree.encode` writes the text that the network uses: a single key behind its
  header, a list as a message.
* `KeyTree.agrees` compares two trees node by node and raw keys by their ends.
-/

namespace Concord

open Text

/-- The structure of a key. -/
inductive KeyTree where
  | single (key : RawKey)
  /-- A list of keys, with the number of them required if it is not all. -/
  | list (required : Option UInt32) (keys : List KeyTree)
  deriving Repr

namespace KeyTree

/-! ## Equality and induction -/

mutual

/-- Equality of trees is decidable. -/
def decEq : (a b : KeyTree) → Decidable (a = b)
  | .single a, .single b => decidable_of_iff (a = b) (by simp)
  | .single _, .list _ _ => isFalse (by simp)
  | .list _ _, .single _ => isFalse (by simp)
  | .list n xs, .list m ys =>
    match decEqList xs ys with
    | isTrue hs => decidable_of_iff (n = m) (by simp [hs])
    | isFalse hs => isFalse (by simp [hs])

/-- Equality of lists of trees is decidable. -/
def decEqList : (xs ys : List KeyTree) → Decidable (xs = ys)
  | [], [] => isTrue rfl
  | [], _ :: _ => isFalse (by simp)
  | _ :: _, [] => isFalse (by simp)
  | x :: xs, y :: ys =>
    match decEq x y, decEqList xs ys with
    | isTrue h, isTrue hs => isTrue (by rw [h, hs])
    | isFalse h, _ => isFalse (by simp [h])
    | _, isFalse hs => isFalse (by simp [hs])

end

instance : DecidableEq KeyTree := decEq

instance : Inhabited KeyTree := ⟨.list none []⟩

/-! ## From and to messages -/

mutual

def ofMessage : KeyMessage → Except KeyError KeyTree
  | .empty => .error .emptyKey
  | .ed25519 b => (RawKey.stripHeader .ed25519 b).map single
  | .secp256k1 b => (RawKey.stripHeader .secp256k1 b).map single
  | .keyList ks => (ofMessages ks).map (list none)
  | .threshold n none => .ok (.list (some n) [])
  | .threshold n (some ks) => (ofMessages ks).map (list (some n))

/-- The trees of messages, the first error if there is one. -/
def ofMessages : List KeyMessage → Except KeyError (List KeyTree)
  | [] => .ok []
  | m :: ms =>
    match ofMessage m with
    | .error e => .error e
    | .ok t => (ofMessages ms).map (t :: ·)

end

mutual

def toMessage : KeyTree → KeyMessage
  | .single k => .single k
  | .list required ts => .list required (toMessages ts)

def toMessages : List KeyTree → List KeyMessage
  | [] => []
  | t :: ts => toMessage t :: toMessages ts

end

/-! ## Texts -/

/-- The tree of a key given by its bytes. -/
def ofBytes (bytes : List UInt8) : Except KeyError KeyTree :=
  match KeyMessage.ofEncodedBytes bytes with
  | .error e => .error e
  | .ok m => ofMessage m

def decode (encoded : String) : Except KeyError KeyTree :=
  match KeyMessage.ofEncoded encoded with
  | .error e => .error e
  | .ok m => ofMessage m

/-- The bytes that the network uses for a tree. -/
def networkBytes : KeyTree → List UInt8
  | .single k => k.framed
  | .list required ts => (toMessage (.list required ts)).bytes

/-- The text that the network uses for a tree. -/
def encode (t : KeyTree) : String :=
  encodeHex t.networkBytes

/-! ## Comparison -/

mutual

/-- Two trees agree when they have one structure and their leaves agree. -/
def agrees : KeyTree → KeyTree → Bool
  | .single a, .single b => a.agrees b
  | .list n xs, .list m ys => decide (n = m) && agreeAll xs ys
  | _, _ => false

/-- Two lists of trees agree when they have one length and agree pairwise. -/
def agreeAll : List KeyTree → List KeyTree → Bool
  | [], [] => true
  | x :: xs, y :: ys => agrees x y && agreeAll xs ys
  | _, _ => false

end

mutual

theorem agrees_refl : (t : KeyTree) → t.agrees t = true
  | .single k => k.agrees_refl
  | .list n ts => by rw [agrees, agreeAll_refl ts, decide_eq_true rfl, Bool.and_self]

theorem agreeAll_refl : (ts : List KeyTree) → agreeAll ts ts = true
  | [] => rfl
  | t :: ts => by rw [agreeAll, agrees_refl t, agreeAll_refl ts, Bool.and_self]

end

/-! ## Measures -/

mutual

/-- The number of single keys in a tree. -/
def leafCount : KeyTree → Nat
  | .single _ => 1
  | .list _ ts => leafCounts ts

/-- The number of single keys in trees. -/
def leafCounts : List KeyTree → Nat
  | [] => 0
  | t :: ts => leafCount t + leafCounts ts

end

mutual

/-- The number of lists on the deepest path of a tree. -/
def depth : KeyTree → Nat
  | .single _ => 0
  | .list _ ts => 1 + depths ts

/-- The depth of the deepest of some trees. -/
def depths : List KeyTree → Nat
  | [] => 0
  | t :: ts => max (depth t) (depths ts)

end

mutual

def shown : KeyTree → String
  | .single k => k.shown
  | .list (some n) ts => "Threshold(" ++ decimal n.toNat ++ ", " ++ shownList (showns ts) ++ ")"
  | .list none ts => "KeyList(" ++ shownList (showns ts) ++ ")"

def showns : List KeyTree → List String
  | [] => []
  | t :: ts => shown t :: showns ts

end

end KeyTree

end Concord
