import Concord.Proofs.Act
import Concord.Simulated.Mirror
import Mathlib.Algebra.Group.Nat.Defs

/-!
# Histories of a simulated mirror

A mirror is told what to report and is polled, in any order and for any records.  What a
poll is answered depends on the *visits* of its own record alone: how often it has been
polled, and what was put there last.

* `Delay.due` says what a record is due at the poll of a number, in unbounded numbers.
  The mirror counts in 32 bits and never adds its two delays, and so gives what is due
  for as many polls as 32 bits can count (`Delay.answer_ofNat`).
* `Shelf.Polled` is what a shelf knows of a record, and `Shelf.Visited` is what it knows
  after the visits of that record.  A visit of another record leaves it as it is.
* `LaggingMirror.Reflects` says so of every record of both shelves, and every event of a
  history preserves it (`Reflects.perform`, `exists_reflects`).
* `LaggingMirror.exists_answers` puts these together.
-/

namespace Concord

/-! ## Visits of a record -/

/-- What happens to one record. -/
inductive Visit (α : Type) where
  /-- It is set. -/
  | put (a : α)
  | poll
  deriving Repr, DecidableEq

namespace Visit

variable {α : Type}

def isPoll : Visit α → Bool
  | .put _ => false
  | .poll => true

/-- What a visit sets. -/
def value? : Visit α → Option α
  | .put a => some a
  | .poll => none

/-- The number of polls among visits. -/
def polls (visits : List (Visit α)) : Nat := visits.countP isPoll

/-- What was set last. -/
def latest (visits : List (Visit α)) : Option α := (visits.filterMap value?).getLast?

variable (visits : List (Visit α)) (a : α)

@[simp] theorem polls_put : polls (visits ++ [.put a]) = polls visits := by
  simp [polls, isPoll]

@[simp] theorem polls_poll : polls (visits ++ [.poll]) = polls visits + 1 := by
  simp [polls, isPoll]

@[simp] theorem latest_put : latest (visits ++ [.put a]) = some a := by
  simp [latest, value?]

@[simp] theorem latest_poll : latest (visits ++ [.poll]) = latest visits := by
  simp [latest, value?]

end Visit

/-! ## What a record is due -/

namespace Delay

variable {α : Type}

/-- What a record is due at poll number `j`, given what it was set to last. -/
def due (d : Delay) (j : Nat) (record : Option α) : MirrorRecord α :=
  if j ≤ d.outage.toNat then .unavailable outageText
  else if j ≤ d.outage.toNat + d.lag.toNat then .notIndexed
  else record.elim .notIndexed .found

/-- As long as polls can be counted in 32 bits, each is answered with what is due. -/
theorem answer_ofNat (d : Delay) {j : Nat} (h : j < 2 ^ 32) (record : Option α) :
    d.answer (.ofNat j) record = d.due j record := by
  have hj : (UInt32.ofNat j).toNat = j := UInt32.toNat_ofNat_of_lt' h
  have houtage : UInt32.ofNat j ≤ d.outage ↔ j ≤ d.outage.toNat := by
    rw [UInt32.le_iff_toNat_le, hj]
  unfold answer due
  by_cases hle : j ≤ d.outage.toNat
  · rw [if_pos (houtage.2 hle), if_pos hle]
  · rw [if_neg (mt houtage.1 hle), if_neg hle]
    -- Behind the outage the difference of the two counts is their difference as numbers.
    have hsub : (UInt32.ofNat j - d.outage).toNat = j - d.outage.toNat := by
      rw [UInt32.toNat_sub_of_le _ _ (UInt32.le_iff_toNat_le.2 (by omega)), hj]
    have hlag : UInt32.ofNat j - d.outage ≤ d.lag ↔ j ≤ d.outage.toNat + d.lag.toNat := by
      rw [UInt32.le_iff_toNat_le, hsub]
      omega
    by_cases hwait : j ≤ d.outage.toNat + d.lag.toNat
    · rw [if_pos (hlag.2 hwait), if_pos hwait]
    · rw [if_neg (mt hlag.1 hwait), if_neg hwait]
      cases record <;> rfl

/-- The first poll for which a record is not withheld. -/
def threshold (d : Delay) : Nat := d.outage.toNat + d.lag.toNat + 1

/-- What is said of a record that is withheld at a poll. -/
def withheld (d : Delay) (j : Nat) : MirrorRecord α :=
  if j ≤ d.outage.toNat then .unavailable outageText else .notIndexed

variable {d : Delay} {j : Nat}

theorem due_of_threshold_le (h : d.threshold ≤ j) (a : α) : d.due j (some a) = .found a := by
  rw [threshold] at h
  rw [due, if_neg (by omega), if_neg (by omega)]
  rfl

theorem due_of_lt_threshold (h : j < d.threshold) (record : Option α) :
    d.due j record = d.withheld j := by
  rw [threshold] at h
  rw [due, withheld, if_pos (show j ≤ d.outage.toNat + d.lag.toNat by omega)]

end Delay

/-! ## Shelves after visits -/

namespace Shelf

variable {κ α : Type} [DecidableEq κ]

/-- What a shelf knows of a record. -/
structure Polled (s : Shelf κ α) (k : κ) (n : Nat) (record : Option α) : Prop where
  /-- Its polls are counted, as far as 32 bits go. -/
  polls : s.pollsOf k = .ofNat n
  /-- What it was set to last. -/
  record : s.records.get? k = record

/-- What a shelf knows of a record after its visits. -/
abbrev Visited (s : Shelf κ α) (k : κ) (visits : List (Visit α)) : Prop :=
  s.Polled k (Visit.polls visits) (Visit.latest visits)

variable {s : Shelf κ α} {k l : κ} {n : Nat} {record : Option α} {visits : List (Visit α)}
  {a : α}

theorem Polled.count (h : s.Polled k n record) : (s.count k).Polled k (n + 1) record where
  polls := by
    rw [pollsOf_count_self, h.polls, UInt32.ofNat_add]
    rfl
  record := h.record

theorem Polled.poll (h : s.Polled k n record) (d : Delay) :
    (s.poll d k).1 = d.answer (.ofNat (n + 1)) record := by
  rw [Shelf.poll, h.polls, h.record, UInt32.ofNat_add]
  rfl

/-- A shelf after a number of polls of a record. -/
def countTimes (s : Shelf κ α) (k : κ) : Nat → Shelf κ α
  | 0 => s
  | n + 1 => (s.countTimes k n).count k

theorem Polled.countTimes (h : s.Polled k 0 record) (n : Nat) :
    (s.countTimes k n).Polled k n record := by
  induction n with
  | zero => exact h
  | succ n ih => exact ih.count

theorem Polled.toNat_polls (h : s.Polled k n record) (hfew : n < 2 ^ 32) :
    (s.pollsOf k).toNat = n := by
  rw [h.polls, UInt32.toNat_ofNat_of_lt' hfew]

theorem visited_empty (k : κ) : (empty : Shelf κ α).Visited k [] := ⟨rfl, rfl⟩

theorem Visited.idle (h : s.Visited k visits) : s.Visited k (visits ++ (none.toList)) := by
  rwa [Option.toList_none, List.append_nil]

/-- What is put in the place of one record is a visit of that record. -/
theorem Visited.put (h : s.Visited l visits) (k : κ) (a : α) :
    (s.put k a).Visited l (visits ++ (if k = l then some (.put a) else none).toList) := by
  by_cases hk : k = l
  · subst hk
    rw [if_pos rfl]
    refine ⟨?_, ?_⟩
    · rw [pollsOf_put, h.polls, Option.toList_some, Visit.polls_put]
    · rw [Option.toList_some, Visit.latest_put]
      exact Table.get?_put_self ..
  · rw [if_neg hk, Option.toList_none, List.append_nil]
    exact ⟨h.polls, (Table.get?_put_of_ne (Ne.symm hk)).trans h.record⟩

theorem Visited.count (h : s.Visited l visits) (k : κ) :
    (s.count k).Visited l (visits ++ (if k = l then some .poll else none).toList) := by
  by_cases hk : k = l
  · subst hk
    rw [if_pos rfl, Option.toList_some, Visited, Visit.polls_poll, Visit.latest_poll]
    exact Polled.count h
  · rw [if_neg hk, Option.toList_none, List.append_nil]
    exact ⟨(pollsOf_count_of_ne (Ne.symm hk)).trans h.polls, h.record⟩

/-- The next poll of a record is answered with what the record is due. -/
theorem Visited.poll (h : s.Visited k visits) (d : Delay)
    (hfew : Visit.polls visits + 1 < 2 ^ 32) :
    (s.poll d k).1 = d.due (Visit.polls visits + 1) (Visit.latest visits) := by
  rw [Polled.poll h, d.answer_ofNat hfew]

/-- What the next poll is answered depends on the visits alone. -/
theorem Visited.poll_eq {t : Shelf κ α} (hs : s.Visited k visits) (ht : t.Visited k visits)
    (d : Delay) : (s.poll d k).1 = (t.poll d k).1 := by
  rw [Polled.poll hs, Polled.poll ht]

end Shelf

/-! ## Histories -/

namespace LaggingMirror

/-- What is done with a mirror. -/
inductive Event where
  /-- The key of an entity is set. -/
  | setKey (e : Entity) (key : Option ObservedKey)
  /-- The fees of a token are set. -/
  | setFees (token : String) (fees : List CustomFee)
  | pollKey (e : Entity)
  | pollFees (token : String)

/-- Does to a mirror what an event says, whatever a poll is answered. -/
def perform : Event → Act LaggingMirror Failure Unit
  | .setKey e key => Act.update (·.setKey e key)
  | .setFees token fees => Act.update (·.setFees token fees)
  | .pollKey e => do
    let _ ← reader.key e
    return ()
  | .pollFees token => do
    let _ ← reader.fees token
    return ()

/-- Does one thing after another, the first of the history first. -/
def performAll : List Event → Act LaggingMirror Failure Unit
  | [] => return ()
  | event :: history => do
    perform event
    performAll history

/-- What an event is to the key of an entity, if anything. -/
def keyVisit? (e : Entity) : Event → Option (Visit (Option ObservedKey))
  | .setKey f key => if f = e then some (.put key) else none
  | .pollKey f => if f = e then some .poll else none
  | _ => none

/-- What an event is to the fees of a token, if anything.  They are set as the mirror
renders them. -/
def feesVisit? (token : String) : Event → Option (Visit MirrorFees)
  | .setFees t fees => if t = token then some (.put (.ofFees t fees)) else none
  | .pollFees t => if t = token then some .poll else none
  | _ => none

def keyVisits (e : Entity) (history : List Event) : List (Visit (Option ObservedKey)) :=
  history.filterMap (keyVisit? e)

def feesVisits (token : String) (history : List Event) : List (Visit MirrorFees) :=
  history.filterMap (feesVisit? token)

theorem pollKey_apply (e : Entity) (m : LaggingMirror) (journal : List Record) :
    reader.key e ⟨m, journal⟩
      = .ok (m.keys.poll m.delay e).1 ⟨{ m with keys := m.keys.count e }, journal⟩ := rfl

theorem pollFees_apply (token : String) (m : LaggingMirror) (journal : List Record) :
    reader.fees token ⟨m, journal⟩
      = .ok (m.fees.poll m.delay token).1 ⟨{ m with fees := m.fees.count token }, journal⟩ := rfl

/-- A mirror that knows of every record what its visits in a history make of it. -/
structure Reflects (d : Delay) (history : List Event) (m : LaggingMirror) : Prop where
  delay : m.delay = d
  keys : ∀ e, m.keys.Visited e (keyVisits e history)
  fees : ∀ token, m.fees.Visited token (feesVisits token history)

theorem reflects_fresh (d : Delay) : Reflects d [] (fresh d) :=
  ⟨rfl, fun e => Shelf.visited_empty e, fun token => Shelf.visited_empty token⟩

variable {d : Delay} {history : List Event} {m : LaggingMirror}

theorem keyVisits_concat (e : Entity) (history : List Event) (event : Event) :
    keyVisits e (history ++ [event]) = keyVisits e history ++ (keyVisit? e event).toList := by
  cases h : keyVisit? e event <;> simp [keyVisits, h]

theorem feesVisits_concat (token : String) (history : List Event) (event : Event) :
    feesVisits token (history ++ [event])
      = feesVisits token history ++ (feesVisit? token event).toList := by
  cases h : feesVisit? token event <;> simp [feesVisits, h]

/-- An event visits one record of one shelf. -/
theorem Reflects.perform (h : Reflects d history m) (event : Event) (journal : List Record) :
    ∃ m', perform event ⟨m, journal⟩ = .ok () ⟨m', journal⟩ ∧
      Reflects d (history ++ [event]) m' := by
  -- For every record of the shelf the visits grow by what the event is to it, and those of the
  -- other shelf by nothing.
  cases event with
  | setKey e key =>
      refine ⟨m.setKey e key, rfl, h.delay, fun f => ?_, fun token => ?_⟩
      · rw [keyVisits_concat]
        exact (h.keys f).put e key
      · rw [feesVisits_concat]
        exact (h.fees token).idle
  | setFees token fees =>
      refine ⟨m.setFees token fees, rfl, h.delay, fun e => ?_, fun t => ?_⟩
      · rw [keyVisits_concat]
        exact (h.keys e).idle
      · rw [feesVisits_concat]
        exact (h.fees t).put token (.ofFees token fees)
  | pollKey e =>
      refine ⟨{ m with keys := m.keys.count e }, rfl, h.delay, fun f => ?_, fun token => ?_⟩
      · rw [keyVisits_concat]
        exact (h.keys f).count e
      · rw [feesVisits_concat]
        exact (h.fees token).idle
  | pollFees token =>
      refine ⟨{ m with fees := m.fees.count token }, rfl, h.delay, fun e => ?_, fun t => ?_⟩
      · rw [keyVisits_concat]
        exact (h.keys e).idle
      · rw [feesVisits_concat]
        exact (h.fees t).count token

theorem Reflects.performAll (later : List Event) (h : Reflects d history m)
    (journal : List Record) :
    ∃ m', performAll later ⟨m, journal⟩ = .ok () ⟨m', journal⟩ ∧
      Reflects d (history ++ later) m' := by
  induction later generalizing history m with
  | nil => exact ⟨m, rfl, by rwa [List.append_nil]⟩
  | cons event later ih =>
      obtain ⟨m', hperform, h'⟩ := h.perform event journal
      obtain ⟨m'', hrest, h''⟩ := ih h'
      refine ⟨m'', ?_, by rwa [List.append_assoc] at h''⟩
      rw [LaggingMirror.performAll, Act.bind_ok hperform]
      exact hrest

/-- A history, performed on a fresh mirror, leads to a mirror. -/
def Reaches (d : Delay) (history : List Event) (m : LaggingMirror) : Prop :=
  performAll history ⟨fresh d, []⟩ = .ok () ⟨m, []⟩

theorem exists_reaches (d : Delay) (history : List Event) : ∃ m, Reaches d history m := by
  obtain ⟨m, hperform, -⟩ := (reflects_fresh d).performAll history []
  exact ⟨m, hperform⟩

/-- Wherever a history leads, the mirror there reflects it. -/
theorem Reaches.reflects (h : Reaches d history m) : Reflects d history m := by
  obtain ⟨m', hperform, hreflects⟩ := (reflects_fresh d).performAll history []
  rw [Reaches, hperform] at h
  cases h
  exact hreflects

/-! ## Polls of one record -/

/-- A mirror after a number of polls of the key of an entity. -/
def pollKeyTimes (m : LaggingMirror) (e : Entity) (n : Nat) : LaggingMirror :=
  { m with keys := m.keys.countTimes e n }

/-- A mirror after a number of polls of the fees of a token. -/
def pollFeesTimes (m : LaggingMirror) (token : String) (n : Nat) : LaggingMirror :=
  { m with fees := m.fees.countTimes token n }

/-- A key that is polled again and again gets the answers of its polls in order. -/
theorem follows_key {m : LaggingMirror} {e : Entity} {record : Option (Option ObservedKey)}
    (h : m.keys.Polled e 0 record) :
    Act.Follows (reader.key e) (fun j => .ok (m.delay.answer (.ofNat j) record))
      (fun n w => w = m.pollKeyTimes e n) (fun n w => w = m.pollKeyTimes e n) := by
  refine Act.follows_states fun n journal => ⟨journal, ?_⟩
  rw [pollKey_apply, ← (h.countTimes n).poll m.delay]
  rfl

/-- So do the fees of a token. -/
theorem follows_fees {m : LaggingMirror} {token : String} {record : Option MirrorFees}
    (h : m.fees.Polled token 0 record) :
    Act.Follows (reader.fees token) (fun j => .ok (m.delay.answer (.ofNat j) record))
      (fun n w => w = m.pollFeesTimes token n) (fun n w => w = m.pollFeesTimes token n) := by
  refine Act.follows_states fun n journal => ⟨journal, ?_⟩
  rw [pollFees_apply, ← (h.countTimes n).poll m.delay]
  rfl

/-! ## Answers -/

/-- What is known of a record of a mirror that has had some visits: the number of polls it
reports, and what the next poll is answered. -/
structure Answered {α : Type} (d : Delay) (visits : List (Visit α)) (polls : UInt32)
    (poll : Act LaggingMirror Failure (MirrorRecord α)) (m : LaggingMirror) : Prop where
  polls : Visit.polls visits < 2 ^ 32 → polls.toNat = Visit.polls visits
  due : Visit.polls visits + 1 < 2 ^ 32 → ∀ journal, ∃ m', poll ⟨m, journal⟩
    = .ok (d.due (Visit.polls visits + 1) (Visit.latest visits)) ⟨m', journal⟩

/-- Two mirrors answer the next poll of a record alike. -/
def AnswersAlike {α : Type} (poll : Act LaggingMirror Failure (MirrorRecord α))
    (m n : LaggingMirror) : Prop :=
  ∀ journal, ∃ r m' n', poll ⟨m, journal⟩ = .ok r ⟨m', journal⟩ ∧
    poll ⟨n, journal⟩ = .ok r ⟨n', journal⟩

/-- A poll is answered from a shelf. -/
def AnswersFrom {κ α : Type} [DecidableEq κ] (s : Shelf κ α) (d : Delay) (k : κ)
    (poll : Act LaggingMirror Failure (MirrorRecord α)) (m : LaggingMirror) : Prop :=
  ∀ journal, ∃ m', poll ⟨m, journal⟩ = .ok (s.poll d k).1 ⟨m', journal⟩

theorem Reflects.answersFrom_keys (h : Reflects d history m) (e : Entity) :
    AnswersFrom m.keys d e (reader.key e) m := by
  intro journal
  rw [pollKey_apply, h.delay]
  exact ⟨_, rfl⟩

theorem Reflects.answersFrom_fees (h : Reflects d history m) (token : String) :
    AnswersFrom m.fees d token (reader.fees token) m := by
  intro journal
  rw [pollFees_apply, h.delay]
  exact ⟨_, rfl⟩

section

variable {κ α : Type} [DecidableEq κ] {s t : Shelf κ α} {k : κ} {visits : List (Visit α)}
  {poll : Act LaggingMirror Failure (MirrorRecord α)} {n : LaggingMirror}

theorem AnswersFrom.answered (h : AnswersFrom s d k poll m) (hs : s.Visited k visits) :
    Answered d visits (s.pollsOf k) poll m where
  polls := hs.toNat_polls
  due hfew journal := by
    rw [← hs.poll d hfew]
    exact h journal

/-- Two shelves that know the same visits of a record answer its poll alike. -/
theorem AnswersFrom.alike (hm : AnswersFrom s d k poll m) (hn : AnswersFrom t d k poll n)
    (hs : s.Visited k visits) (ht : t.Visited k visits) :
    s.pollsOf k = t.pollsOf k ∧ AnswersAlike poll m n := by
  refine ⟨hs.polls.trans ht.polls.symm, fun journal => ?_⟩
  obtain ⟨m', hpoll⟩ := hm journal
  obtain ⟨n', hpoll'⟩ := hn journal
  exact ⟨_, m', n', hpoll, (hs.poll_eq ht d) ▸ hpoll'⟩

end

/-- Every history leads to a mirror that reports how often a record was polled and answers
the next poll of any record with what its visits are due.  Two histories with the same visits
of a record are answered alike when it is polled, whatever else is in them. -/
theorem exists_answers (d : Delay) (history : List Event) :
    ∃ m, Reaches d history m ∧
      (∀ e, Answered d (keyVisits e history) (m.keys.pollsOf e) (reader.key e) m) ∧
      (∀ token,
        Answered d (feesVisits token history) (m.fees.pollsOf token) (reader.fees token) m) ∧
      ∀ other n, Reaches d other n →
        (∀ e, keyVisits e history = keyVisits e other →
          m.keys.pollsOf e = n.keys.pollsOf e ∧ AnswersAlike (reader.key e) m n) ∧
        ∀ token, feesVisits token history = feesVisits token other →
          m.fees.pollsOf token = n.fees.pollsOf token ∧
            AnswersAlike (reader.fees token) m n := by
  obtain ⟨m, hreaches⟩ := exists_reaches d history
  have hm : Reflects d history m := hreaches.reflects
  refine ⟨m, hreaches, fun e => (hm.answersFrom_keys e).answered (hm.keys e),
    fun token => (hm.answersFrom_fees token).answered (hm.fees token), fun other n hother => ?_⟩
  have hn : Reflects d other n := hother.reflects
  refine ⟨fun e hvisits => ?_, fun token hvisits => ?_⟩
  · exact (hm.answersFrom_keys e).alike (hn.answersFrom_keys e) (hvisits ▸ hm.keys e) (hn.keys e)
  · exact (hm.answersFrom_fees token).alike (hn.answersFrom_fees token)
      (hvisits ▸ hm.fees token) (hn.fees token)

/-- Behind an outage of one poll a record is not indexed for `2 ^ 32 - 1` more.  The sum of
the two delays would be zero in 32 bits. -/
theorem exists_answers_of_long_lag :
    ∃ m m', Reaches ⟨1, 4294967295⟩
        [.setFees "0.0.9" [], .pollFees "0.0.9", .pollKey (.token "0.0.9")] m ∧
      (m.fees.pollsOf "0.0.9").toNat = 1 ∧
      reader.fees "0.0.9" ⟨m, []⟩ = .ok .notIndexed ⟨m', []⟩ := by
  obtain ⟨m, hreaches, -, hfees, -⟩ := exists_answers ⟨1, 4294967295⟩
    [.setFees "0.0.9" [], .pollFees "0.0.9", .pollKey (.token "0.0.9")]
  obtain ⟨m', hpoll⟩ := (hfees "0.0.9").due (by decide) []
  exact ⟨m, m', hreaches, (hfees "0.0.9").polls (by decide), hpoll⟩

end LaggingMirror

end Concord
