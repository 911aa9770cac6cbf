import Concord.Key.Algorithm
import Concord.Text.Quoted
import Concord.Text.Numeral

/-!
# Key specifications

A specification says which key to make: a single key of an algorithm, from material
that is given or is to be generated, or a list of specifications with or without a
threshold.  The list without children stands for "no key".

`KeySpec.validate` finds the first list, parents before children and children from
left to right, whose threshold is zero or exceeds its children.  Making a key does
not require it, since the network is the authority on thresholds and a check may
want to submit a bad one.

`KeySpec.leaves` is the sequence of single keys from left to right, which is all
that making the key asks of anyone.
-/

namespace Concord

open Text

/-! ## Specifications -/

/-- Where the bytes of a single key come from. -/
inductive Material where
  /-- A public key is given. -/
  | publicKey (encoded : String)
  /-- A private key is given, which signs. -/
  | privateKey (encoded : String)
  /-- A private key is to be generated, which signs. -/
  | fresh
  deriving Repr, DecidableEq

/-- Which key to make. -/
inductive KeySpec where
  | single (algorithm : Algorithm) (material : Material)
  /-- A list of keys, with the number of them required if it is not all. -/
  | list (children : List KeySpec) (required : Option UInt32)
  deriving Repr

namespace KeySpec

instance : Inhabited KeySpec := ⟨.list [] none⟩

mutual

/-- The single keys of a specification from left to right. -/
def leaves : KeySpec → List (Algorithm × Material)
  | .single a m => [(a, m)]
  | .list ss _ => leavesOf ss

/-- The single keys of specifications from left to right. -/
def leavesOf : List KeySpec → List (Algorithm × Material)
  | [] => []
  | s :: ss => leaves s ++ leavesOf ss

end

mutual

/-- The number of keys to be generated. -/
def freshCount : KeySpec → Nat
  | .single _ .fresh => 1
  | .single _ _ => 0
  | .list ss _ => freshCountOf ss

/-- The number of keys to be generated for specifications. -/
def freshCountOf : List KeySpec → Nat
  | [] => 0
  | s :: ss => freshCount s + freshCountOf ss

end

/-! ## Thresholds -/

/-- What is wrong with a threshold. -/
inductive ThresholdError where
  /-- No key is required. -/
  | zero
  | tooLarge (required : UInt32) (children : Nat)
  deriving Repr, DecidableEq

/-- The wording of each error. -/
def ThresholdError.message : ThresholdError → String
  | .zero => "Threshold must be at least 1"
  | .tooLarge required children =>
    "Threshold " ++ decimal required.toNat ++ " exceeds the " ++ decimal children ++
      " keys of the list"

/-- Checks a threshold against a number of children. -/
def checkThreshold (children : Nat) : Option UInt32 → Except ThresholdError Unit
  | none => .ok ()
  | some n =>
    if n = 0 then .error .zero
    else if children < n.toNat then .error (.tooLarge n children)
    else .ok ()

mutual

/-- Checks all thresholds of a specification. -/
def validate : KeySpec → Except ThresholdError Unit
  | .single _ _ => .ok ()
  | .list ss required =>
    match checkThreshold ss.length required with
    | .error e => .error e
    | .ok () => validateAll ss

/-- Checks all thresholds of specifications. -/
def validateAll : List KeySpec → Except ThresholdError Unit
  | [] => .ok ()
  | s :: ss =>
    match validate s with
    | .error e => .error e
    | .ok () => validateAll ss

end

/-! ## Shown specifications -/

def shownMaterial : Material → String
  | .publicKey encoded => "PublicKey(" ++ quoted encoded ++ ")"
  | .privateKey encoded => "PrivateKey(" ++ quoted encoded ++ ")"
  | .fresh => "Fresh"

mutual

def shown : KeySpec → String
  | .single a m => shownRecord "Single" [("algorithm", a.shown), ("material", shownMaterial m)]
  | .list ss required =>
    shownRecord "List" [("children", shownList (showns ss)),
      ("threshold", shownOption (required.map fun n => decimal n.toNat))]

def showns : List KeySpec → List String
  | [] => []
  | s :: ss => shown s :: showns ss

end

end KeySpec

end Concord
