import Concord.Assert.Key
import Concord.Proofs.Assert.Replay

/-!
# The assertion about the key of an entity

What an answer of either side tells of a key is said by two relations, with one case for
every kind of answer: `ConsensusReads` and `MirrorReads`.  An assertion passes when it sees
the expected key in one probe on both sides, after the consensus side reported it at once
(`verifyKey_settled`).

* `KeyTree.MatchedBy` says when a key that may be absent is the one expected.
* `KeyCarried` says that both sides report the expected key in a probe.
-/

namespace Concord

open Act (Follows Counts BothSound BothBroken sideBySide readOff)

/-! ## What answers tell -/

/-- What is read off an answer of the consensus side: the tree of the key, none if there
is no key, or why there is nothing to read. -/
inductive ConsensusReads :
    Except Failure (Option String) → Except Failure (Option KeyTree) → Prop where
  | failed {cause} : ConsensusReads (.error cause) (.error cause)
  | absent : ConsensusReads (.ok none) (.ok none)
  | decoded {text t} (h : KeyTree.decode text = .ok t) :
      ConsensusReads (.ok (some text)) (.ok (some t))
  | undecodable {text err} (h : KeyTree.decode text = .error err) :
      ConsensusReads (.ok (some text))
        (.error (.within "Failed to decode consensus key" (.key err)))

/-- What is read off an answer of the mirror.  That a record is not indexed yet and that
the mirror cannot answer now are no faults. -/
inductive MirrorReads : Except Failure (MirrorRecord (Option ObservedKey)) →
    Except Failure (MirrorRecord (Option KeyTree)) → Prop where
  | failed {cause} : MirrorReads (.error cause) (.error cause)
  | notIndexed : MirrorReads (.ok .notIndexed) (.ok .notIndexed)
  | unavailable {reason} : MirrorReads (.ok (.unavailable reason)) (.ok (.unavailable reason))
  | absent : MirrorReads (.ok (.found none)) (.ok (.found none))
  | decoded {key t} (h : ObservedKey.tree key = .ok t) :
      MirrorReads (.ok (.found (some key))) (.ok (.found (some t)))
  | undecodable {key err} (h : ObservedKey.tree key = .error err) :
      MirrorReads (.ok (.found (some key)))
        (.error (.within "Failed to decode mirror key" (.key err)))

theorem treeOf_ok {κ : Type} {decode : κ → Except KeyError KeyTree} {context : String} {k : κ}
    {t : KeyTree} (h : decode k = .ok t) : treeOf decode context (some k) = .ok (some t) := by
  rw [treeOf, h]
  rfl

theorem treeOf_error {κ : Type} {decode : κ → Except KeyError KeyTree} {context : String}
    {k : κ} {err : KeyError} (h : decode k = .error err) :
    treeOf decode context (some k) = .error (.within context (.key err)) := by
  rw [treeOf, h]
  rfl

/-- The relation says what the reader of the consensus side makes of an answer. -/
theorem bind_consensusTree_iff {answer : Except Failure (Option String)}
    {x : Except Failure (Option KeyTree)} :
    answer.bind consensusTree = x ↔ ConsensusReads answer x := by
  constructor
  · rintro rfl
    cases answer with
    | error cause => exact .failed
    | ok key =>
        cases key with
        | none => exact .absent
        | some text =>
            rw [Except.bind, consensusTree]
            cases hdecode : KeyTree.decode text with
            | ok t =>
                rw [treeOf_ok hdecode]
                exact .decoded hdecode
            | error err =>
                rw [treeOf_error hdecode]
                exact .undecodable hdecode
  · intro h
    cases h with
    | failed => rfl
    | absent => rfl
    | decoded hdecode =>
        rw [Except.bind, consensusTree, treeOf_ok hdecode]
    | undecodable hdecode =>
        rw [Except.bind, consensusTree, treeOf_error hdecode]

/-- The relation says what the reader of the mirror makes of an answer. -/
theorem bind_mirrorTree_iff {answer : Except Failure (MirrorRecord (Option ObservedKey))}
    {x : Except Failure (MirrorRecord (Option KeyTree))} :
    answer.bind mirrorTree = x ↔ MirrorReads answer x := by
  constructor
  · rintro rfl
    cases answer with
    | error cause => exact .failed
    | ok record =>
        cases record with
        | notIndexed => exact .notIndexed
        | unavailable reason => exact .unavailable
        | found key =>
            cases key with
            | none => exact .absent
            | some key =>
                rw [Except.bind, mirrorTree]
                cases hdecode : ObservedKey.tree key with
                | ok t =>
                    rw [treeOf_ok hdecode]
                    exact .decoded hdecode
                | error err =>
                    rw [treeOf_error hdecode]
                    exact .undecodable hdecode
  · intro h
    cases h with
    | failed => rfl
    | notIndexed => rfl
    | unavailable => rfl
    | absent => rfl
    | decoded hdecode =>
        rw [Except.bind, mirrorTree, treeOf_ok hdecode, Except.map]
    | undecodable hdecode =>
        rw [Except.bind, mirrorTree, treeOf_error hdecode, Except.map]

/-! ## The expected key -/

/-- A key that may be absent is the one expected.  No key is what is expected of a list
without children only. -/
inductive KeyTree.MatchedBy (expected : KeyTree) : Option KeyTree → Prop where
  | key {t} (h : expected.agrees t = true) : MatchedBy expected (some t)
  | none {required} (h : expected = .list required []) : MatchedBy expected none

theorem keyExpected_iff {expected : KeyTree} {t : Option KeyTree} :
    keyExpected expected t = true ↔ expected.MatchedBy t := by
  constructor
  · intro h
    cases t with
    | some t => exact .key h
    | none =>
        cases expected with
        | single k => cases h
        | list required ts =>
            cases ts with
            | nil => exact .none rfl
            | cons t ts => cases h
  · intro h
    cases h with
    | key h => exact h
    | none h =>
        subst h
        rfl

/-- An answer of the consensus side shows the expected key. -/
def ConsensusCarries (expected : KeyTree) (answer : Except Failure (Option String)) : Prop :=
  ∃ t, ConsensusReads answer (.ok t) ∧ expected.MatchedBy t

/-- An answer of the mirror shows the expected key.  It has to be a record that was found. -/
def MirrorCarries (expected : KeyTree)
    (answer : Except Failure (MirrorRecord (Option ObservedKey))) : Prop :=
  ∃ t, MirrorReads answer (.ok (.found t)) ∧ expected.MatchedBy t

/-- The faults of the answers of the consensus side. -/
abbrev ConsensusFault (keys : Nat → Except Failure (Option String)) (n : Nat)
    (cause : Failure) : Prop :=
  ConsensusReads (keys n) (.error cause)

/-- The faults of the answers of the mirror. -/
abbrev MirrorFault (reports : Nat → Except Failure (MirrorRecord (Option ObservedKey)))
    (n : Nat) (cause : Failure) : Prop :=
  MirrorReads (reports n) (.error cause)

/-- Probe number `j` sees the expected key on both sides. -/
def KeyCarried (expected : KeyTree) (keys : Nat → Except Failure (Option String))
    (reports : Nat → Except Failure (MirrorRecord (Option ObservedKey))) (j : Nat) : Prop :=
  ConsensusCarries expected (keys (j + 1)) ∧ MirrorCarries expected (reports j)

theorem keysAgree_iff {expected : KeyTree} {t : Option KeyTree}
    {m : MirrorRecord (Option KeyTree)} : keysAgree expected t m = true ↔
      expected.MatchedBy t ∧ ∃ u, m = .found u ∧ expected.MatchedBy u := by
  cases m with
  | notIndexed => simp [keysAgree]
  | unavailable reason => simp [keysAgree]
  | found u => simp [keysAgree, keyExpected_iff]

section

variable {expected : KeyTree} {keys : Nat → Except Failure (Option String)}
  {reports : Nat → Except Failure (MirrorRecord (Option ObservedKey))}

theorem consensusCarries_iff {n : Nat} : ConsensusCarries expected (keys n) ↔
    ∃ t, readOff consensusTree keys n = .ok t ∧ keyExpected expected t = true := by
  simp only [ConsensusCarries, readOff, bind_consensusTree_iff, keyExpected_iff]

theorem good_iff_keyCarried {j : Nat} :
    Check.Good (keysAgree expected) (readOff consensusTree keys) (readOff mirrorTree reports) j ↔
      KeyCarried expected keys reports j := by
  simp only [Check.Good, keysAgree_iff, readOff, bind_consensusTree_iff, bind_mirrorTree_iff]
  constructor
  · rintro ⟨t, m, ht, hm, hmatch, u, rfl, hmatch'⟩
    exact ⟨⟨t, ht, hmatch⟩, u, hm, hmatch'⟩
  · rintro ⟨⟨t, ht, hmatch⟩, u, hu, hmatch'⟩
    exact ⟨t, .found u, ht, hu, hmatch, u, rfl, hmatch'⟩

/-- What is left of an assertion in terms of what is read off the answers. -/
theorem settledBy_keyCheck_iff {label : String} {b : Budget} {o : Except Failure Unit}
    {reads polls : Nat} {before after : Clock} :
    Settled
        (∃ t, readOff consensusTree keys 1 = .ok t ∧ keyExpected expected t = true)
        (Check.Good (keysAgree expected) (readOff consensusTree keys)
          (readOff mirrorTree reports))
        (fun n cause => readOff consensusTree keys n = .error cause)
        (fun n cause => readOff mirrorTree reports n = .error cause)
        label b o reads polls before after ↔
      Settled (ConsensusCarries expected (keys 1)) (KeyCarried expected keys reports)
        (ConsensusFault keys) (MirrorFault reports) label b o reads polls before after := by
  have hgood : Check.Good (keysAgree expected) (readOff consensusTree keys)
      (readOff mirrorTree reports) = KeyCarried expected keys reports :=
    funext fun j => propext good_iff_keyCarried
  rw [hgood, ← consensusCarries_iff]
  simp only [readOff, bind_consensusTree_iff, bind_mirrorTree_iff]

/-! ## The assertion -/

theorem follows_keyCheck (expected : KeyTree)
    (keys : Context → Entity → Nat → Except Failure (Option String))
    (fees : Context → String → Nat → Except Failure (List CustomFee))
    (reports : Entity → Nat → Except Failure (MirrorRecord (Option ObservedKey)))
    (schedules : String → Nat → Except Failure (MirrorRecord MirrorFees)) (ctx : Context)
    (e : Entity) :
    Follows (keyCheck (.replay keys fees) (.replay reports schedules) ctx e expected).probe
      (sideBySide (readOff consensusTree (keys ctx e)) (readOff mirrorTree (reports e)))
      (BothSound Counts Counts)
      (BothBroken (readOff consensusTree (keys ctx e)) Counts Counts) :=
  ((Act.follows_replay (keys ctx e)).reading consensusTree).both
    ((Act.follows_replay (reports e)).reading mirrorTree)

/-- Once the expected key is read, the assertion has the shape of all assertions. -/
theorem verifyKey_of_decode {σ μ : Type} {c : ConsensusReader σ} {m : MirrorReader μ}
    {ctx : Context} {budget : Budget} {e : Entity} {text : String}
    (h : KeyTree.decode text = .ok expected) :
    verifyKey c m ctx budget e text
      = expecting (readConsensusTree c ctx e) (keyExpected expected)
        (fun observed => .plain (keyMismatchText e observed expected))
        (keyCheck c m ctx e expected) ctx budget := by
  rw [verifyKey, h, Clock.beside_eq_within (Act.within Part.first (readConsensusTree c ctx e))]
  rfl

/-- An expected key that cannot be read ends the assertion before anything else is. -/
theorem verifyKey_of_undecodable {σ μ : Type} {c : ConsensusReader σ} {m : MirrorReader μ}
    {ctx : Context} {budget : Budget} {e : Entity} {text : String} {err : KeyError}
    (h : KeyTree.decode text = .error err) (s : Traced ((σ × μ) × Clock)) :
    verifyKey c m ctx budget e text s
      = .error (.within "Failed to decode expected key" (.key err)) s := by
  rw [verifyKey, h]
  rfl

end

/-- What is left of the assertion that an entity carries a key, for every expected text
and every sequence of answers of either side.

It passes exactly when the text is that of a tree, the first answer of the consensus side
shows it, and a probe is made that sees it on both sides.  If the text is that of no tree
nothing is read at all. -/
theorem verifyKey_settled (keys : Context → Entity → Nat → Except Failure (Option String))
    (fees : Context → String → Nat → Except Failure (List CustomFee))
    (reports : Entity → Nat → Except Failure (MirrorRecord (Option ObservedKey)))
    (schedules : String → Nat → Except Failure (MirrorRecord MirrorFees)) (ctx : Context)
    (budget : Budget) (e : Entity) (text : String) (clock : Clock) (journal : List Record) :
    ∃ o reads polls after written,
      verifyKey (.replay keys fees) (.replay reports schedules) ctx budget e text
          ⟨((0, 0), clock), journal⟩
        = Act.ofExcept o ⟨((reads, polls), after), written⟩ ∧
      (o = .ok () ↔ ∃ expected, KeyTree.decode text = .ok expected ∧
        ConsensusCarries expected (keys ctx e 1) ∧
        ∃ k, Check.Made
            (Check.Faultless (ConsensusFault (keys ctx e)) (MirrorFault (reports e)))
            (KeyCarried expected (keys ctx e) (reports e)) budget.attempts k ∧
          KeyCarried expected (keys ctx e) (reports e) k) ∧
      (∀ err, KeyTree.decode text = .error err →
        o = .error (.within "Failed to decode expected key" (.key err)) ∧ reads = 0 ∧
          polls = 0 ∧ after = clock) ∧
      ∀ expected, KeyTree.decode text = .ok expected →
        Settled (ConsensusCarries expected (keys ctx e 1))
          (KeyCarried expected (keys ctx e) (reports e)) (ConsensusFault (keys ctx e))
          (MirrorFault (reports e)) (e.display ++ " key") budget o reads polls clock after := by
  cases hdecode : KeyTree.decode text with
  | error err =>
      refine ⟨.error (.within "Failed to decode expected key" (.key err)), 0, 0, clock, journal,
        verifyKey_of_undecodable hdecode _, ?_, ?_, ?_⟩
      · simp
      · intro err' h
        cases h
        exact ⟨rfl, rfl, rfl, rfl⟩
      · intro expected h
        cases h
  | ok expected =>
      obtain ⟨o, reads, polls, after, written, hrun, hsettled⟩ :=
        expecting_settledBy (keyExpected expected)
          (fun observed => .plain (keyMismatchText e observed expected))
          ((Act.follows_replay (keys ctx e)).reading consensusTree)
          (follows_keyCheck expected keys fees reports schedules ctx e)
          ctx budget clock journal
      have hsettled : Settled (ConsensusCarries expected (keys ctx e 1))
          (KeyCarried expected (keys ctx e) (reports e)) (ConsensusFault (keys ctx e))
          (MirrorFault (reports e)) (e.display ++ " key") budget o reads polls clock after :=
        settledBy_keyCheck_iff.1 hsettled
      refine ⟨o, reads, polls, after, written, ?_, ?_, ?_, ?_⟩
      · rw [verifyKey_of_decode hdecode]
        exact hrun
      · rw [hsettled.ok_iff]
        constructor
        · intro h
          exact ⟨expected, rfl, h⟩
        · rintro ⟨expected', heq, h⟩
          cases heq
          exact h
      · intro err h
        cases h
      · intro expected' heq
        cases heq
        exact hsettled

end Concord
