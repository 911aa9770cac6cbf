import Concord.Source.Mirror
import Concord.Table

/-!
# A simulated mirror

A mirror in memory that lags behind.  Each record it holds is first unavailable for
a number of polls, then not indexed for a number of polls, and then what was set
last.  The polls of a record are counted for that record alone (`Shelf.poll`): keys
and fees are on two shelves, and polls of one record leave every other as it is.

Polls are counted in 32 bits.  The two delays of a record are never added, since
their sum may need more (`Delay.answer`).
-/

namespace Concord

/-! ## Shelves -/

/-- For how many polls a record is withheld. -/
structure Delay where
  /-- The polls for which it is unavailable. -/
  outage : UInt32
  /-- The polls after them for which it is not indexed. -/
  lag : UInt32
  deriving Repr, DecidableEq

/-- What is said of a record that is unavailable. -/
def outageText : String := "HTTP 503 Service Unavailable"

/-- The answer to the poll of a number, given the record. -/
def Delay.answer {α : Type} (d : Delay) (poll : UInt32) (record : Option α) : MirrorRecord α :=
  if poll ≤ d.outage then .unavailable outageText
  else if poll - d.outage ≤ d.lag then .notIndexed
  else
    match record with
    | some a => .found a
    | none => .notIndexed

/-- The records of one type, with the number of polls of each. -/
structure Shelf (κ α : Type) where
  records : Table κ α
  /-- The number of polls. -/
  polls : Table κ UInt32

namespace Shelf

variable {κ α : Type} [DecidableEq κ]

/-- The shelf without records. -/
def empty : Shelf κ α := ⟨.empty, .empty⟩

/-- Sets a record. -/
def put (s : Shelf κ α) (k : κ) (a : α) : Shelf κ α :=
  { s with records := s.records.put k a }

/-- The number of polls of a record. -/
def pollsOf (s : Shelf κ α) (k : κ) : UInt32 :=
  (s.polls.get? k).getD 0

/-- Counts a poll of a record. -/
def count (s : Shelf κ α) (k : κ) : Shelf κ α :=
  { s with polls := s.polls.put k (s.pollsOf k + 1) }

def poll (d : Delay) (s : Shelf κ α) (k : κ) : MirrorRecord α × Shelf κ α :=
  (d.answer (s.pollsOf k + 1) (s.records.get? k), s.count k)

@[simp] theorem pollsOf_count_self (s : Shelf κ α) (k : κ) :
    (s.count k).pollsOf k = s.pollsOf k + 1 := by
  simp [count, pollsOf]

theorem pollsOf_count_of_ne {s : Shelf κ α} {k l : κ} (h : l ≠ k) :
    (s.count k).pollsOf l = s.pollsOf l := by
  simp [count, pollsOf, Table.get?_put_of_ne h]

@[simp] theorem pollsOf_put (s : Shelf κ α) (k l : κ) (a : α) :
    (s.put k a).pollsOf l = s.pollsOf l := rfl

end Shelf

/-! ## The mirror -/

/-- The state of a simulated mirror. -/
structure LaggingMirror where
  /-- For how many polls each record is withheld. -/
  delay : Delay
  keys : Shelf Entity (Option ObservedKey)
  /-- The fees of tokens. -/
  fees : Shelf String MirrorFees

namespace LaggingMirror

/-- A mirror before anything is set. -/
def fresh (delay : Delay) : LaggingMirror := ⟨delay, .empty, .empty⟩

/-- Sets the key that will be reported for an entity. -/
def setKey (m : LaggingMirror) (e : Entity) (key : Option ObservedKey) : LaggingMirror :=
  { m with keys := m.keys.put e key }

/-- Sets the fees that will be reported for a token. -/
def setFees (m : LaggingMirror) (token : String) (fees : List CustomFee) : LaggingMirror :=
  { m with fees := m.fees.put token (.ofFees token fees) }

def pollKey (e : Entity) : Act LaggingMirror Failure (MirrorRecord (Option ObservedKey)) := do
  let m ← Act.state
  let r := m.keys.poll m.delay e
  Act.update fun m => { m with keys := r.2 }
  return r.1

def pollFees (token : String) : Act LaggingMirror Failure (MirrorRecord MirrorFees) := do
  let m ← Act.state
  let r := m.fees.poll m.delay token
  Act.update fun m => { m with fees := r.2 }
  return r.1

/-- The way to read a simulated mirror. -/
def reader : MirrorReader LaggingMirror := ⟨pollKey, pollFees⟩

end LaggingMirror

end Concord
