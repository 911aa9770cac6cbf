import Concord.Proofs.Assert.Fees
import Concord.Proofs.Assert.Key
import Concord.Proofs.Source.Rest

/-!
# Assertions over a mirror that is not always there

An assertion that reads the mirror over HTTP makes one exchange with each probe.  A transient
exchange uses up that probe and nothing else; an exchange that is fatal ends the run, unless a
probe before it was satisfied (`Persists`).  So a mirror that never comes back is asked as often
as the budget says, and the assertion times out (`verify_persists`).

`KeyTold` and `KeyFatal` say what an exchange tells of a key, and `FeesTold` and `FeesFatal` what
it tells of fees.  A record without the member is one of an entity that has no key, or no fees.
-/

namespace Concord

open Act (Follows Reached Counts BothSound BothBroken sideBySide readOff)
open Http (Outcome Query Delivered)
open RestMirror (Transient Shows Told Fatal PartRead FeesMember MalformedFees partOf)

/-! ## What is left of a run -/

/-- What exchanges along a sequence leave of a run that ended in `o` after `probes` of them. -/
structure Persists (transient fatal satisfied : Nat → Prop) (label : String) (attempts : Nat)
    (o : Except Failure Unit) (probes : Nat) : Prop where
  one_le : 1 ≤ probes
  le_attempts : probes ≤ attempts
  /-- A transient exchange neither fails the run nor satisfies the check. -/
  neither : ∀ j, transient j → ¬ fatal j ∧ ¬ satisfied j
  /-- It is followed by another exchange while attempts remain. -/
  retried : ∀ j, transient j → j ≤ probes → j < attempts → j + 1 ≤ probes
  /-- The run ended in a failed probe exactly at the first fatal exchange, if no probe before it
  was satisfied. -/
  failed_iff : ∀ j, (∃ cause, o = .error (.probe label j cause)) ↔
    Check.Made (fun i => ¬ fatal i) satisfied attempts j ∧ fatal j
  ok_iff : o = .ok () ↔
    ∃ k, Check.Made (fun i => ¬ fatal i) satisfied attempts k ∧ satisfied k
  /-- No exchange is made after one that is fatal or satisfies the check. -/
  last : ∀ k, Check.Made (fun i => ¬ fatal i) satisfied attempts k →
    fatal k ∨ satisfied k → probes = k
  timeout_iff : (∃ c m, o = .error (.timeout label attempts c m)) ↔
    ∀ j, 1 ≤ j → j ≤ attempts → ¬ fatal j ∧ ¬ satisfied j
  /-- Transient exchanges alone use up the budget, and no more than the budget. -/
  spent : (∀ j, 1 ≤ j → j ≤ attempts → transient j) →
    probes = attempts ∧ ∃ c m, o = .error (.timeout label attempts c m)

/-- Behind transient exchanges another is made while the budget lasts. -/
theorem Persists.made_of_transient {transient fatal satisfied : Nat → Prop} {label : String}
    {attempts k probes : Nat} {o : Except Failure Unit}
    (h : Persists transient fatal satisfied label attempts o probes) (hone : 1 ≤ k)
    (hle : k ≤ attempts) (hall : ∀ j, 1 ≤ j → j < k → transient j) :
    Check.Made (fun i => ¬ fatal i) satisfied attempts k where
  one_le := hone
  le_limit := hle
  earlier j hpos hlt := h.neither j (hall j hpos hlt)

section

variable {σ μ ω α β : Type} {left : Nat → Except Failure α} {right : Nat → Except Failure β}
  {transient fatal satisfied : Nat → Prop}

/-- The mirror is the only side that fails, and its answers are told apart. -/
structure OneSided (agrees : α → β → Bool) (left : Nat → Except Failure α)
    (right : Nat → Except Failure β) (transient fatal satisfied : Nat → Prop) : Prop where
  left_ok : ∀ n, ∃ a, left n = .ok a
  fatal_iff : ∀ n, (∃ cause, right n = .error cause) ↔ fatal n
  good_iff : ∀ n, Check.Good agrees left right n ↔ satisfied n
  neither : ∀ n, transient n → ¬ fatal n ∧ ¬ satisfied n

namespace OneSided

variable {agrees : α → β → Bool}

theorem clean_iff (h : OneSided agrees left right transient fatal satisfied) (n : Nat) :
    Check.Clean left right n ↔ ¬ fatal n := by
  obtain ⟨a, ha⟩ := h.left_ok (n + 1)
  rw [← h.fatal_iff]
  constructor
  · intro hclean
    exact hclean.2
  · intro hright
    exact ⟨by simp [ha], hright⟩

theorem made_iff (h : OneSided agrees left right transient fatal satisfied) {limit k : Nat} :
    Check.Made (Check.Clean left right) (Check.Good agrees left right) limit k ↔
      Check.Made (fun i => ¬ fatal i) satisfied limit k := by
  have hclean : Check.Clean left right = fun i => ¬ fatal i :=
    funext fun n => propext (h.clean_iff n)
  have hgood : Check.Good agrees left right = satisfied :=
    funext fun n => propext (h.good_iff n)
  rw [hclean, hgood]

theorem not_ends_iff (h : OneSided agrees left right transient fatal satisfied) {n : Nat} :
    ¬ Check.Ends agrees (sideBySide left right n) ↔ ¬ fatal n ∧ ¬ satisfied n := by
  rw [Check.not_ends_iff, h.clean_iff, h.good_iff]

theorem not_ends (h : OneSided agrees left right transient fatal satisfied) {n : Nat}
    (hn : transient n) : ¬ Check.Ends agrees (sideBySide left right n) :=
  h.not_ends_iff.2 (h.neither n hn)

theorem exists_error (h : OneSided agrees left right transient fatal satisfied) {n : Nat} :
    (∃ cause, sideBySide left right n = .error cause) ↔ fatal n := by
  obtain ⟨a, ha⟩ := h.left_ok (n + 1)
  rw [← h.fatal_iff]
  simp only [Act.sideBySide_eq_error_iff, ha, reduceCtorEq, false_or, Except.ok.injEq,
    exists_eq', true_and]

end OneSided

section

variable {check : Check ω α β} {attempts k : Nat}

/-- A run without an exchange that ends it uses up the budget and times out. -/
theorem OneSided.timeout (h : OneSided check.agrees left right transient fatal satisfied)
    (hlast : Check.LastProbe check.agrees (sideBySide left right) 0 attempts k)
    (hnone : ∀ j, 1 ≤ j → j ≤ attempts → ¬ fatal j ∧ ¬ satisfied j) :
    k = attempts ∧ ∃ c m, check.verdict k (sideBySide left right k)
      = .error (.timeout check.label attempts c m) := by
  have hends : ¬ Check.Ends check.agrees (sideBySide left right k) :=
    h.not_ends_iff.2 (hnone k hlast.done_lt hlast.le_limit)
  obtain rfl : k = attempts := hlast.ends.resolve_left hends
  obtain ⟨a, m, hr, hagree⟩ := Check.exists_of_not_ends hends
  exact ⟨rfl, _, _, Check.verdict_eq_timeout_iff.2
    ⟨rfl, a, m, hr, Bool.eq_false_iff.2 hagree, rfl, rfl⟩⟩

/-- The last probe tells what is left of a run over a mirror that fails. -/
theorem OneSided.persists (h : OneSided check.agrees left right transient fatal satisfied)
    (hlast : Check.LastProbe check.agrees (sideBySide left right) 0 attempts k) :
    Persists transient fatal satisfied check.label attempts
      (check.verdict k (sideBySide left right k)) k where
  one_le := hlast.done_lt
  le_attempts := hlast.le_limit
  neither := h.neither
  retried := by
    intro j hj hle hlt
    rcases Nat.lt_or_eq_of_le hle with hless | rfl
    · exact hless
    · have hlimit := hlast.ends.resolve_left (h.not_ends hj)
      omega
  failed_iff := by
    intro j
    rw [← h.made_iff, ← h.exists_error]
    constructor
    · rintro ⟨cause, ho⟩
      obtain ⟨rfl, hr⟩ := Check.verdict_eq_probe_iff.1 ho
      exact ⟨hlast.made, cause, hr⟩
    · rintro ⟨hmade, cause, hr⟩
      obtain rfl : k = j := hlast.unique (hmade.lastProbe_of_error hr)
      exact ⟨cause, Check.verdict_eq_probe_iff.2 ⟨rfl, hr⟩⟩
  ok_iff := by
    rw [hlast.verdict_eq_ok_iff]
    simp only [h.made_iff, h.good_iff]
  last := by
    intro j hmade hend
    rw [← h.made_iff] at hmade
    rw [← h.exists_error, ← h.good_iff] at hend
    rcases hend with ⟨cause, hr⟩ | hgood
    · exact hlast.unique (hmade.lastProbe_of_error hr)
    · exact hlast.unique (hmade.lastProbe_of_good hgood)
  timeout_iff := by
    constructor
    · rintro ⟨c, m, ho⟩ j hone hle
      obtain ⟨rfl, a, n, hr, hagree, -⟩ := Check.verdict_eq_timeout_iff.1 ho
      rw [← h.not_ends_iff]
      rcases Nat.lt_or_eq_of_le hle with hless | rfl
      · exact hlast.earlier j hone hless
      · rw [hr]
        exact Bool.eq_false_iff.1 hagree
    · intro hnone
      exact (h.timeout hlast hnone).2
  spent := by
    intro hall
    exact h.timeout hlast fun j hone hle => h.neither j (hall j hone hle)

end

/-! ## Runs -/

/-- An assertion whose first answer is as expected makes one exchange with each probe, and sleeps
in between. -/
theorem expecting_persists {holds : α → Bool} {mismatch : α → Failure}
    {first : Act Nat Failure α} {check : Check (Nat × List Query) α β} {q : Query}
    (h : OneSided check.agrees left right transient fatal satisfied)
    (hfirst : Follows first left Counts Counts)
    (hprobe : Follows check.probe (sideBySide left right) (BothSound Counts (Delivered q))
      (BothBroken left Counts (Delivered q)))
    (hexpected : ∃ a, left 1 = .ok a ∧ holds a = true) (ctx : Context) (budget : Budget)
    (clock : Clock) (journal : List Record) :
    ∃ o probes written,
      expecting first holds mismatch check ctx budget ⟨((0, []), clock), journal⟩
        = Act.ofExcept o ⟨((1 + probes, List.replicate probes q),
            clock.sleepTimes (probes - 1) (check.budget.getD budget).interval), written⟩ ∧
      Persists transient fatal satisfied check.label (check.budget.getD budget).attempts o
        probes := by
  obtain ⟨a, hanswer, hholds⟩ := hexpected
  obtain ⟨⟨n, written⟩, hact, rfl⟩ := hfirst.ok (s := ⟨0, journal⟩) rfl hanswer
  obtain ⟨⟨⟨⟨reads, sent⟩, after⟩, later⟩, k, hlast, hrun, hclock, hreached⟩ :=
    Check.run_follows hprobe ctx budget ⟨((1, []), clock), written⟩ ⟨rfl, rfl⟩
  have hstate : reads = 1 + k ∧ sent = List.replicate k q := by
    obtain ⟨b, hb⟩ := h.left_ok (k + 1)
    cases hr : sideBySide left right k with
    | ok p =>
        rw [hr] at hreached
        exact ⟨hreached.1.trans (Nat.add_comm k 1), hreached.2⟩
    | error cause =>
        rw [hr] at hreached
        obtain ⟨hreads, hsent⟩ := hreached
        rw [hb] at hsent
        exact ⟨hreads.trans (Nat.add_comm k 1), hsent⟩
  obtain ⟨rfl, rfl⟩ := hstate
  obtain rfl : after = _ := hclock
  refine ⟨check.verdict k (sideBySide left right k), k, later, ?_, h.persists hlast⟩
  rw [expecting_ok (s := ⟨((0, []), clock), journal⟩) hact, hholds]
  exact hrun

end

/-! ## What exchanges tell of a key -/

/-- What the member of the key tells. -/
inductive KeyMember : Option Json → Option KeyTree → Prop where
  | absent : KeyMember none none
  | null : KeyMember (some .null) none
  | key {v report t} (hne : v ≠ .null) (hreport : ObservedKey.ofJson v = .ok report)
      (htree : report.tree = .ok t) : KeyMember (some v) (some t)

inductive MalformedKey : Option Json → Prop where
  | shape {v err} (hne : v ≠ .null) (h : ObservedKey.ofJson v = .error err) :
      MalformedKey (some v)
  | undecodable {v report err} (hne : v ≠ .null) (hreport : ObservedKey.ofJson v = .ok report)
      (htree : report.tree = .error err) : MalformedKey (some v)

/-- The exchange brought a record of an entity with this key. -/
abbrev KeyTold (e : Entity) : Outcome → Option KeyTree → Prop :=
  Told e.kind.mirrorKeyMember KeyMember

abbrev KeyFatal (e : Entity) : Outcome → Prop :=
  Fatal e.kind.mirrorKeyMember MalformedKey

/-- The exchange brought a record of a token with these fees. -/
abbrev FeesTold : Outcome → MirrorFees → Prop :=
  Told "custom_fees" FeesMember

abbrev FeesFatal : Outcome → Prop :=
  Fatal "custom_fees" MalformedFees

/-- The tree of the key in a record. -/
def keyTreeIn (e : Entity) (record : Json) : Except Failure (Option KeyTree) :=
  (RestMirror.keyIn e record).bind (treeOf ObservedKey.tree "Failed to decode mirror key")

theorem bind_mirrorTree_partOf (url : String) (e : Entity) (o : Outcome) :
    (partOf (RestMirror.keyIn e) url e o).bind mirrorTree = partOf (keyTreeIn e) url e o := by
  rw [partOf, partOf]
  cases (RestMirror.ofOutcome url e o).1 with
  | error cause => rfl
  | ok r =>
      cases r with
      | notIndexed => rfl
      | unavailable reason => rfl
      | found record =>
          simp only [Except.bind, RestMirror.partIn, keyTreeIn]
          cases RestMirror.keyIn e record with
          | error cause => rfl
          | ok key => rfl

theorem keyIn_eq {e : Entity} {record v : Json} {report : ObservedKey}
    (hmember : record.get? e.kind.mirrorKeyMember = some v) (hne : v ≠ .null)
    (hreport : ObservedKey.ofJson v = .ok report) :
    RestMirror.keyIn e record = .ok (some report) := by
  rw [RestMirror.keyIn, hmember]
  simp only [hreport]

theorem partRead_keyTreeIn (e : Entity) :
    PartRead (keyTreeIn e) e.kind.mirrorKeyMember KeyMember MalformedKey where
  ok := by
    intro record t h
    generalize hmember : record.get? e.kind.mirrorKeyMember = v at h
    cases h with
    | absent =>
        rw [keyTreeIn, RestMirror.keyIn, hmember]
        rfl
    | null =>
        rw [keyTreeIn, RestMirror.keyIn, hmember]
        rfl
    | key hne hreport htree =>
        rw [keyTreeIn, keyIn_eq hmember hne hreport]
        exact treeOf_ok htree
  error := by
    intro record h
    generalize hmember : record.get? e.kind.mirrorKeyMember = v at h
    cases h with
    | shape hne herr =>
        rw [keyTreeIn, RestMirror.keyIn, hmember]
        simp only [herr]
        exact ⟨_, rfl⟩
    | undecodable hne hreport htree =>
        rw [keyTreeIn, keyIn_eq hmember hne hreport]
        exact ⟨_, treeOf_error htree⟩
  total := by
    intro v
    cases v with
    | none => exact .inl ⟨none, .absent⟩
    | some v =>
        by_cases hnull : v = .null
        · subst hnull
          exact .inl ⟨none, .null⟩
        · cases hreport : ObservedKey.ofJson v with
          | error err => exact .inr (.shape hnull hreport)
          | ok report =>
              cases htree : report.tree with
              | ok t => exact .inl ⟨some t, .key hnull hreport htree⟩
              | error err => exact .inr (.undecodable hnull hreport htree)

/-! ## The assertions -/

section

variable {keys : Nat → Except Failure (Option String)} {fees : Nat → Except Failure (List CustomFee)}
  {outcomes : Nat → Outcome} {url : String} {e : Entity}

/-- Probe number `j` sees the expected key on both sides. -/
def KeySeen (expected : KeyTree) (e : Entity) (keys : Nat → Except Failure (Option String))
    (outcomes : Nat → Outcome) (j : Nat) : Prop :=
  ConsensusCarries expected (keys (j + 1)) ∧
    ∃ t, KeyTold e (outcomes j) t ∧ expected.MatchedBy t

/-- Both sides have the expected fees in probe number `j`. -/
def FeesSeen (expected : List CustomFee) (fees : Nat → Except Failure (List CustomFee))
    (outcomes : Nat → Outcome) (j : Nat) : Prop :=
  ∃ c m, fees (j + 1) = .ok c ∧ FeesTold (outcomes j) m ∧ sameFees expected c = true ∧
    feesAgree expected m = true

theorem oneSided_keys {expected : KeyTree} (h : ∀ n, ∃ t, ConsensusReads (keys n) (.ok t)) :
    OneSided (keysAgree expected) (readOff consensusTree keys)
      (readOff mirrorTree fun n => partOf (RestMirror.keyIn e) url e (outcomes n))
      (fun n => Transient (outcomes n)) (fun n => KeyFatal e (outcomes n))
      (KeySeen expected e keys outcomes) := by
  have hreads := (partRead_keyTreeIn e).reads url e
  have hright : ∀ n, readOff mirrorTree
      (fun n => partOf (RestMirror.keyIn e) url e (outcomes n)) n
        = partOf (keyTreeIn e) url e (outcomes n) := fun n =>
    bind_mirrorTree_partOf url e (outcomes n)
  have hgood : ∀ n, Check.Good (keysAgree expected) (readOff consensusTree keys)
      (readOff mirrorTree fun n => partOf (RestMirror.keyIn e) url e (outcomes n)) n ↔
        KeySeen expected e keys outcomes n := by
    intro n
    rw [KeySeen, consensusCarries_iff]
    simp only [Check.Good, hright, keysAgree_iff, keyExpected_iff]
    constructor
    · rintro ⟨t, m, ht, hm, hmatch, u, rfl, hmatch'⟩
      exact ⟨⟨t, ht, hmatch⟩, u, hreads.found_iff.1 hm, hmatch'⟩
    · rintro ⟨⟨t, ht, hmatch⟩, u, hu, hmatch'⟩
      exact ⟨t, .found u, ht, hreads.found_iff.2 hu, hmatch, u, rfl, hmatch'⟩
  refine ⟨?_, ?_, hgood, ?_⟩
  · intro n
    obtain ⟨t, ht⟩ := h n
    exact ⟨t, bind_consensusTree_iff.2 ht⟩
  · intro n
    rw [hright]
    exact hreads.error_iff
  · intro n htransient
    refine ⟨hreads.not_fatal_of_transient htransient, ?_⟩
    rintro ⟨-, t, htold, -⟩
    exact hreads.not_told_of_transient htransient t htold

theorem oneSided_fees {expected : List CustomFee} (h : ∀ n, ∃ c, fees n = .ok c) :
    OneSided (schedulesAgree expected) fees
      (fun n => partOf (RestMirror.feesIn e) url e (outcomes n))
      (fun n => Transient (outcomes n)) (fun n => FeesFatal (outcomes n))
      (FeesSeen expected fees outcomes) := by
  have hreads := (RestMirror.partRead_feesIn e).reads url e
  have hgood : ∀ n, Check.Good (schedulesAgree expected) fees
      (fun n => partOf (RestMirror.feesIn e) url e (outcomes n)) n ↔
        FeesSeen expected fees outcomes n := by
    intro n
    rw [good_iff_feesCarried]
    constructor
    · rintro ⟨c, m, hc, hm, hagree⟩
      exact ⟨c, m, hc, hreads.found_iff.1 hm, hagree⟩
    · rintro ⟨c, m, hc, hm, hagree⟩
      exact ⟨c, m, hc, hreads.found_iff.2 hm, hagree⟩
  refine ⟨h, fun n => hreads.error_iff, hgood, ?_⟩
  intro n htransient
  refine ⟨hreads.not_fatal_of_transient htransient, ?_⟩
  rintro ⟨c, m, -, htold, -⟩
  exact hreads.not_told_of_transient htransient m htold

end

section

variable (m : RestMirror) (keys : Context → Entity → Nat → Except Failure (Option String))
  (fees : Context → String → Nat → Except Failure (List CustomFee)) (outcomes : Nat → Outcome)
  (ctx : Context)

theorem follows_keyCheck_rest (e : Entity) (expected : KeyTree) :
    Follows (keyCheck (.replay keys fees) (m.reader (.replay outcomes)) ctx e expected).probe
      (sideBySide (readOff consensusTree (keys ctx e))
        (readOff mirrorTree fun n =>
          partOf (RestMirror.keyIn e) (m.addressOf e).display e (outcomes n)))
      (BothSound Counts (Delivered (.get (m.addressOf e))))
      (BothBroken (readOff consensusTree (keys ctx e)) Counts
        (Delivered (.get (m.addressOf e)))) :=
  ((Act.follows_replay (keys ctx e)).reading consensusTree).both
    ((m.follows_key e outcomes).reading mirrorTree)

theorem follows_feesCheck_rest (token : String) (expected : List CustomFee) :
    Follows
      (feesCheck (.replay keys fees) (m.reader (.replay outcomes)) ctx token expected).probe
      (sideBySide (fees ctx token) fun n =>
        partOf (RestMirror.feesIn (.token token)) (m.addressOf (.token token)).display
          (.token token) (outcomes n))
      (BothSound Counts (Delivered (.get (m.addressOf (.token token)))))
      (BothBroken (fees ctx token) Counts (Delivered (.get (m.addressOf (.token token))))) :=
  (Act.follows_replay (fees ctx token)).both (m.follows_fees token outcomes)

end

/-- The exchange brought a record in which a member is absent or `null`. -/
def Lacks (member : String) (o : Outcome) : Prop :=
  ∃ record, Shows o record ∧
    (record.get? member = none ∨ record.get? member = some .null)

section

variable {url : String} {e : Entity} {o : Outcome}

theorem partOf_keyIn_of_lacks (h : Lacks e.kind.mirrorKeyMember o) :
    partOf (RestMirror.keyIn e) url e o = .ok (.found none) := by
  obtain ⟨record, hshows, hmember⟩ := h
  rw [partOf, RestMirror.ofOutcome_of_shows url e hshows, Except.bind, RestMirror.partIn,
    RestMirror.keyIn]
  rcases hmember with hmember | hmember
  · rw [hmember]
    rfl
  · rw [hmember]
    rfl

theorem partOf_feesIn_of_lacks (h : Lacks "custom_fees" o) :
    partOf (RestMirror.feesIn e) url e o = .ok (.found .empty) := by
  refine ((RestMirror.partRead_feesIn e).reads url e).of_told ?_
  obtain ⟨record, hshows, hmember | hmember⟩ := h
  · exact ⟨record, hshows, hmember ▸ .absent⟩
  · exact ⟨record, hshows, hmember ▸ .null⟩

end

/-- A mirror that does not answer, then fails, and then has what is given. -/
def lateRecord (text : String) : Nat → Outcome
  | 1 => .timedOut
  | 2 => .answered ⟨503⟩ .broken
  | _ => .answered ⟨200⟩ (.complete text)

/-- A mirror in the clear, on the host of that name. -/
def hostedMirror : RestMirror := ⟨⟨.http, "", .name "mirror", none, [], "", none, none⟩⟩

end Concord
