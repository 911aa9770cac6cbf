import Concord.Key.Message

/-!
# Reading key messages

A message is read by merging its fields one after another into the message read so
far, which is empty at first.  A field of a single key replaces what is there.  A
field that holds a message is merged into what is there if that is of the same
kind: lists of keys are joined and a threshold is overwritten; otherwise it
replaces it.

Three kinds of message contain each other, and each has a step that merges one
field: `mergeKeyField`, `mergeListField` and `mergeThresholdField`.  The budget
shrinks with every message entered, which is the recursion they share.
-/

namespace Concord.KeyMessage

open Key

def nestingBudget : Nat := 100

/-- The keys that a list merges into. -/
def keysOf : KeyMessage → List KeyMessage
  | .keyList ks => ks
  | _ => []

/-- The threshold and the list that a threshold merges into. -/
def thresholdOf : KeyMessage → UInt32 × Option (List KeyMessage)
  | .threshold n ks => (n, ks)
  | _ => (0, none)

/-- The bytes of a single key, in the form of a field. -/
def readKeyBytes (form : WireForm) (rest : List UInt8) : WireResult (List UInt8) :=
  match expectForm .delimited form with
  | .error e => .error e
  | .ok () => readBytes rest

mutual

def mergeKeyField (budget : Nat) (m : KeyMessage) (bytes : List UInt8) :
    WireResult KeyMessage :=
  match readKey bytes with
  | .error e => .error e
  | .ok (key, rest) =>
    match key.tag with
    | 2 =>
      inField "KeyMessage.key" ((readKeyBytes key.form rest).map fun r => (.ed25519 r.1, r.2))
    | 7 =>
      inField "KeyMessage.key" ((readKeyBytes key.form rest).map fun r => (.secp256k1 r.1, r.2))
    | 6 =>
      inField "KeyMessage.key"
        (match expectForm .delimited key.form with
        | .error e => .error e
        | .ok () =>
          match budget with
          | 0 => refuse .recursionLimit
          | budget + 1 =>
            (readDelimited (mergeListField budget) m.keysOf rest).map
              fun r => (.keyList r.1, r.2))
    | 5 =>
      inField "KeyMessage.key"
        (match expectForm .delimited key.form with
        | .error e => .error e
        | .ok () =>
          match budget with
          | 0 => refuse .recursionLimit
          | budget + 1 =>
            (readDelimited (mergeThresholdField budget) m.thresholdOf rest).map
              fun r => (.threshold r.1.1 r.1.2, r.2))
    | tag => (skipField budget key.form tag rest).map fun rest => (m, rest)

/-- Merges a field of a list of keys into the keys read so far. -/
def mergeListField (budget : Nat) (ks : List KeyMessage) (bytes : List UInt8) :
    WireResult (List KeyMessage) :=
  match readKey bytes with
  | .error e => .error e
  | .ok (key, rest) =>
    match key.tag with
    | 1 =>
      inField "KeyListMessage.keys"
        (match expectForm .delimited key.form with
        | .error e => .error e
        | .ok () =>
          match budget with
          | 0 => refuse .recursionLimit
          | budget + 1 =>
            (readDelimited (mergeKeyField budget) .empty rest).map
              fun r => (ks ++ [r.1], r.2))
    | tag => (skipField budget key.form tag rest).map fun rest => (ks, rest)

/-- Merges a field of a threshold into the number and the list read so far. -/
def mergeThresholdField (budget : Nat) (t : UInt32 × Option (List KeyMessage))
    (bytes : List UInt8) : WireResult (UInt32 × Option (List KeyMessage)) :=
  match readKey bytes with
  | .error e => .error e
  | .ok (key, rest) =>
    match key.tag with
    | 1 =>
      inField "ThresholdKeyMessage.threshold"
        (match expectForm .varint key.form with
        | .error e => .error e
        | .ok () => (readVarint rest).map fun r => ((UInt32.ofNat r.1, t.2), r.2))
    | 2 =>
      inField "ThresholdKeyMessage.keys"
        (match expectForm .delimited key.form with
        | .error e => .error e
        | .ok () =>
          match budget with
          | 0 => refuse .recursionLimit
          | budget + 1 =>
            (readDelimited (mergeListField budget) (t.2.getD []) rest).map
              fun r => ((t.1, some r.1), r.2))
    | tag => (skipField budget key.form tag rest).map fun rest => (t, rest)

end

/-- The message that some bytes are. -/
def ofBytes (bytes : List UInt8) : Except WireError KeyMessage :=
  (mergeFields (mergeKeyField nestingBudget) 0 bytes.length .empty bytes).map Prod.fst

end Concord.KeyMessage
