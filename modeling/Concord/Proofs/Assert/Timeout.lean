import Concord.Proofs.Assert.Persistence

/-!
# Assertions over a mirror that is slow

An exchange with the mirror can run out of time at two places.  If no response came in time, in
whatever stage of the request, the record is unavailable.  No failure of the run comes of that,
and there is another probe while attempts remain (`RidesOut.retried`, `RidesOut.not_failed`).
The consensus side plays no part in it, and may fail or disagree at any time.

If the body of a success did not come in time the record is an error, like a body that is no
JSON, and the run ends with the probe that asked for it (`RidesOut.body_failed`).  Waiting is
over although attempts remain (`verifyFees_slowBody`).
-/

namespace Concord

open Act (Follows Reached Counts BothSound BothBroken sideBySide readOff)
open Http (Outcome Query Delivered Link)
open RestMirror (partOf)

/-- What is said of a success whose body did not come in time. -/
def slowBody (url : String) : Failure :=
  .within ("Invalid mirror response from " ++ url) (.exchange .bodyTimeout)

/-! ## What a reader makes of a slow mirror -/

section

variable {α : Type} (part : Json → Except Failure α) (url : String) (e : Entity)

theorem partOf_timedOut :
    partOf part url e .timedOut
      = .ok (.unavailable (RestMirror.unreachedText url "operation timed out")) := rfl

theorem partOf_slowBody {s : Http.Status} (h : s.isSuccess = true) :
    partOf part url e (.answered s .timedOut) = .error (slowBody url) := by
  rw [partOf, RestMirror.ofOutcome, RestMirror.ofResponse_of_isSuccess url e h]
  rfl

end

/-! ## What is left of a run -/

/-- What is left of a run that ended in `o`, after a number of probes, of which a number polled
the mirror at an address.  Exchange number `j` is that of probe number `j`. -/
structure RidesOut {γ : Type} (read : Act (List Query) Failure (MirrorRecord γ))
    (consensusFails : Nat → Prop) (outcomes : Nat → Outcome) (address : Url.Address)
    (label : String) (attempts : Nat) (o : Except Failure Unit) (probes polls : Nat) : Prop where
  le_attempts : probes ≤ attempts
  /-- A probe polls the mirror, unless the consensus side fails in it. -/
  polled : polls = probes ∨ probes = polls + 1 ∧ consensusFails (probes + 1)
  /-- Without a response in time the record is unavailable. -/
  unavailable : ∀ n written, outcomes (n + 1) = .timedOut →
    ∃ t, read ⟨List.replicate n (.get address), written⟩
      = .ok (.unavailable (RestMirror.unreachedText address.display "operation timed out")) t
  /-- Another probe is made then, while attempts remain. -/
  retried : ∀ j, 1 ≤ j → j ≤ polls → outcomes j = .timedOut → j < attempts → j + 1 ≤ probes
  /-- The run does not end in a failure of the probe. -/
  not_failed : ∀ j, 1 ≤ j → j ≤ polls → outcomes j = .timedOut →
    ∀ cause, o ≠ .error (.probe label j cause)
  /-- It does end in one, at once, if the body of a success does not come in time. -/
  body_failed : ∀ j s, 1 ≤ j → j ≤ polls → s.isSuccess = true →
    outcomes j = .answered s .timedOut →
    probes = j ∧ o = .error (.probe label j (slowBody address.display))

/-- How a mirror that may be slow is read, and what a comparison makes of that. -/
structure TakesTime {α β γ : Type} (agrees : α → MirrorRecord β → Bool)
    (read : Act (List Query) Failure (MirrorRecord γ))
    (right : Nat → Except Failure (MirrorRecord β)) (outcomes : Nat → Outcome)
    (address : Url.Address) : Prop where
  read_timedOut : ∀ n written, outcomes (n + 1) = .timedOut →
    ∃ t, read ⟨List.replicate n (.get address), written⟩
      = .ok (.unavailable (RestMirror.unreachedText address.display "operation timed out")) t
  /-- A record that is unavailable agrees with nothing. -/
  waits : ∀ n, outcomes n = .timedOut → ∃ m, right n = .ok m ∧ ∀ a, agrees a m = false
  fails : ∀ n s, s.isSuccess = true → outcomes n = .answered s .timedOut →
    right n = .error (slowBody address.display)

section

variable {ω α β γ : Type} {left : Nat → Except Failure α}
  {right : Nat → Except Failure (MirrorRecord β)} {outcomes : Nat → Outcome}
  {read : Act (List Query) Failure (MirrorRecord γ)} {address : Url.Address}

namespace TakesTime

/-- Nothing is asked of the mirror before the first probe. -/
theorem ridesOut_of_no_probe {agrees : α → MirrorRecord β → Bool}
    (h : TakesTime agrees read right outcomes address) (consensusFails : Nat → Prop)
    (label : String) (attempts : Nat) (o : Except Failure Unit) :
    RidesOut read consensusFails outcomes address label attempts o 0 0 where
  le_attempts := Nat.zero_le attempts
  polled := .inl rfl
  unavailable := h.read_timedOut
  retried j hone hle := by omega
  not_failed j hone hle := by omega
  body_failed j s hone hle := by omega

/-- How often the mirror was polled in a run of `k` probes. -/
abbrev Polled (left : Nat → Except Failure α) (k polls : Nat) : Prop :=
  (polls = k ∧ ∃ a, left (k + 1) = .ok a) ∨ k = polls + 1 ∧ ∃ cause, left (k + 1) = .error cause

section

variable {check : Check ω α (MirrorRecord β)} {attempts k polls j : Nat}

/-- The consensus side answered in every probe that polled the mirror. -/
theorem exists_left_of_polled
    (hlast : Check.LastProbe check.agrees (sideBySide left right) 0 attempts k)
    (hpolls : Polled left k polls) (hone : 1 ≤ j) (hle : j ≤ polls) :
    j ≤ k ∧ ∃ a, left (j + 1) = .ok a := by
  have hearlier : j < k → ∃ a, left (j + 1) = .ok a := by
    intro hlt
    obtain ⟨a, m, hr, -⟩ := Check.exists_of_not_ends (hlast.earlier j hone hlt)
    exact ⟨a, (Act.sideBySide_eq_ok_iff.1 hr).1⟩
  rcases hpolls with ⟨rfl, hk⟩ | ⟨rfl, -⟩
  · rcases Nat.lt_or_eq_of_le hle with hlt | rfl
    · exact ⟨hle, hearlier hlt⟩
    · exact ⟨hle, hk⟩
  · exact ⟨by omega, hearlier (by omega)⟩

/-- The run waits in a probe whose exchange has no response in time. -/
theorem exists_waits (h : TakesTime check.agrees read right outcomes address)
    (hlast : Check.LastProbe check.agrees (sideBySide left right) 0 attempts k)
    (hpolls : Polled left k polls) (hone : 1 ≤ j) (hle : j ≤ polls) (hj : outcomes j = .timedOut) :
    ∃ a m, sideBySide left right j = .ok (a, m) ∧ check.agrees a m = false := by
  obtain ⟨-, a, ha⟩ := exists_left_of_polled hlast hpolls hone hle
  obtain ⟨m, hm, hagree⟩ := h.waits j hj
  exact ⟨a, m, Act.sideBySide_eq_ok_iff.2 ⟨ha, hm⟩, hagree a⟩

/-- The run ends with the probe that asks for a body that does not come in time. -/
theorem verdict_of_slowBody {s : Http.Status}
    (h : TakesTime check.agrees read right outcomes address)
    (hlast : Check.LastProbe check.agrees (sideBySide left right) 0 attempts k)
    (hpolls : Polled left k polls) (hone : 1 ≤ j) (hle : j ≤ polls) (hs : s.isSuccess = true)
    (hj : outcomes j = .answered s .timedOut) :
    k = j ∧ check.verdict k (sideBySide left right k)
      = .error (.probe check.label j (slowBody address.display)) := by
  obtain ⟨hjk, ha⟩ := exists_left_of_polled hlast hpolls hone hle
  have hr : sideBySide left right j = .error (slowBody address.display) :=
    Act.sideBySide_eq_error_iff.2 (.inr ⟨ha, h.fails j s hs hj⟩)
  obtain rfl : k = j := by
    rcases Nat.lt_or_eq_of_le hjk with hlt | heq
    · refine absurd ?_ (hlast.earlier j hone hlt)
      rw [hr]
      trivial
    · exact heq.symm
  exact ⟨rfl, Check.verdict_eq_probe_iff.2 ⟨rfl, hr⟩⟩

/-- The last probe tells what is left of a run over a mirror that is slow. -/
theorem ridesOut (h : TakesTime check.agrees read right outcomes address)
    (hlast : Check.LastProbe check.agrees (sideBySide left right) 0 attempts k)
    (hpolls : Polled left k polls) :
    RidesOut read (fun n => ∃ cause, left n = .error cause) outcomes address check.label attempts
      (check.verdict k (sideBySide left right k)) k polls where
  le_attempts := hlast.le_limit
  polled := by
    rcases hpolls with ⟨rfl, -⟩ | hskipped
    · exact .inl rfl
    · exact .inr hskipped
  unavailable := h.read_timedOut
  retried := by
    intro j hone hle hj hlt
    obtain ⟨a, m, hr, hagree⟩ := h.exists_waits hlast hpolls hone hle hj
    rcases Nat.lt_or_eq_of_le (exists_left_of_polled hlast hpolls hone hle).1 with hless | rfl
    · exact hless
    · have hends : ¬ Check.Ends check.agrees (sideBySide left right j) := by
        rw [hr]
        exact Bool.eq_false_iff.1 hagree
      have hlimit := hlast.ends.resolve_left hends
      omega
  not_failed := by
    intro j hone hle hj cause ho
    obtain ⟨rfl, hfailed⟩ := Check.verdict_eq_probe_iff.1 ho
    obtain ⟨a, m, hr, -⟩ := h.exists_waits hlast hpolls hone hle hj
    rw [hr] at hfailed
    cases hfailed
  body_failed _ _ hone hle hs hj := h.verdict_of_slowBody hlast hpolls hone hle hs hj

end

/-- The state that a run of `k` probes leaves behind says how often the mirror was polled. -/
theorem exists_polled {k : Nat} {q : Query} {w : Nat × List Query} (hone : 1 ≤ k)
    (h : Reached (BothSound Counts (Delivered q)) (BothBroken left Counts (Delivered q)) k
      (sideBySide left right k) w) :
    ∃ polls, w.2 = List.replicate polls q ∧ Polled left k polls := by
  cases hr : sideBySide left right k with
  | ok p =>
      rw [hr] at h
      exact ⟨k, h.2, .inl ⟨rfl, p.1, (Act.sideBySide_eq_ok_iff.1 hr).1⟩⟩
  | error cause =>
      rw [hr] at h
      obtain ⟨-, hsent⟩ := h
      cases hk : left (k + 1) with
      | ok a =>
          rw [hk] at hsent
          exact ⟨k, hsent, .inl ⟨rfl, a, hk⟩⟩
      | error cause' =>
          rw [hk] at hsent
          exact ⟨k - 1, hsent, .inr ⟨by omega, cause', hk⟩⟩

/-! ## Runs -/

/-- What is left of an assertion over a slow mirror, whatever the consensus side answers. -/
theorem expecting_ridesOut {holds : α → Bool} {mismatch : α → Failure}
    {first : Act Nat Failure α} {check : Check (Nat × List Query) α (MirrorRecord β)}
    (h : TakesTime check.agrees read right outcomes address)
    (hfirst : Follows first left Counts Counts)
    (hprobe : Follows check.probe (sideBySide left right)
      (BothSound Counts (Delivered (.get address)))
      (BothBroken left Counts (Delivered (.get address))))
    (ctx : Context) (budget : Budget) (clock : Clock) (journal : List Record) :
    ∃ o probes polls reads after written,
      expecting first holds mismatch check ctx budget ⟨((0, []), clock), journal⟩
        = Act.ofExcept o ⟨((reads, List.replicate polls (.get address)), after), written⟩ ∧
      RidesOut read (fun n => ∃ cause, left n = .error cause) outcomes address check.label
        (check.budget.getD budget).attempts o probes polls := by
  cases hanswer : left 1 with
  | error cause =>
      obtain ⟨⟨n, written⟩, hact, rfl⟩ := hfirst.error (s := ⟨0, journal⟩) rfl hanswer
      exact ⟨.error cause, 0, 0, 1, clock, written,
        expecting_error (s := ⟨((0, []), clock), journal⟩) hact, h.ridesOut_of_no_probe _ _ _ _⟩
  | ok a =>
      obtain ⟨⟨n, written⟩, hact, rfl⟩ := hfirst.ok (s := ⟨0, journal⟩) rfl hanswer
      cases hholds : holds a with
      | false =>
          refine ⟨.error (mismatch a), 0, 0, 1, clock, written, ?_,
            h.ridesOut_of_no_probe _ _ _ _⟩
          rw [expecting_ok (s := ⟨((0, []), clock), journal⟩) hact, hholds]
          rfl
      | true =>
          obtain ⟨⟨⟨⟨reads, sent⟩, after⟩, later⟩, k, hlast, hrun, -, hreached⟩ :=
            Check.run_follows hprobe ctx budget ⟨((1, []), clock), written⟩ ⟨rfl, rfl⟩
          obtain ⟨polls, rfl, hpolls⟩ := exists_polled hlast.done_lt hreached
          refine ⟨check.verdict k (sideBySide left right k), k, polls, reads, after, later, ?_,
            h.ridesOut hlast hpolls⟩
          rw [expecting_ok (s := ⟨((0, []), clock), journal⟩) hact, hholds]
          exact hrun

end TakesTime

end

/-! ## The assertions -/

section

variable (m : RestMirror) (outcomes : Nat → Outcome)

theorem takesTime_keys (e : Entity) (expected : KeyTree) :
    TakesTime (keysAgree expected) ((m.reader (.replay outcomes)).key e)
      (readOff mirrorTree fun n =>
        partOf (RestMirror.keyIn e) (m.addressOf e).display e (outcomes n))
      outcomes (m.addressOf e) where
  read_timedOut := by
    intro n written h
    obtain ⟨t, hread, -⟩ := (m.follows_key e outcomes).ok (n := n)
      (s := ⟨List.replicate n (.get (m.addressOf e)), written⟩) rfl
      (by rw [h, partOf_timedOut])
    exact ⟨t, hread⟩
  waits := by
    intro n h
    rw [readOff, h, partOf_timedOut]
    exact ⟨_, rfl, fun a => by simp [keysAgree]⟩
  fails := by
    intro n s hs h
    rw [readOff, h, partOf_slowBody _ _ _ hs]
    rfl

theorem takesTime_fees (token : String) (expected : List CustomFee) :
    TakesTime (schedulesAgree expected) ((m.reader (.replay outcomes)).fees token)
      (fun n => partOf (RestMirror.feesIn (.token token)) (m.addressOf (.token token)).display
        (.token token) (outcomes n))
      outcomes (m.addressOf (.token token)) where
  read_timedOut := by
    intro n written h
    obtain ⟨t, hread, -⟩ := (m.follows_fees token outcomes).ok (n := n)
      (s := ⟨List.replicate n (.get (m.addressOf (.token token))), written⟩) rfl
      (by rw [h, partOf_timedOut])
    exact ⟨t, hread⟩
  waits := by
    intro n h
    rw [h, partOf_timedOut]
    exact ⟨_, rfl, fun a => by simp [schedulesAgree]⟩
  fails := by
    intro n s hs h
    rw [h, partOf_slowBody _ _ _ hs]

end

/-- What is left of an assertion over a mirror that is reached over HTTP, for every expectation,
every budget and every sequence of answers of the consensus side and of ends of exchanges.  All
exchanges ask for the record of the entity.

An exchange without a response in time is followed by another probe while attempts remain, and
never the reason why the run fails.  A success whose body does not come in time is. -/
theorem verify_slow (m : RestMirror)
    (keys : Context → Entity → Nat → Except Failure (Option String))
    (fees : Context → String → Nat → Except Failure (List CustomFee)) (outcomes : Nat → Outcome)
    (ctx : Context) (budget : Budget) (clock : Clock) (journal : List Record) :
    (∀ e text, ∃ o probes polls reads after written,
      verifyKey (.replay keys fees) (m.reader (.replay outcomes)) ctx budget e text
          ⟨((0, []), clock), journal⟩
        = Act.ofExcept o
            ⟨((reads, List.replicate polls (.get (m.addressOf e))), after), written⟩ ∧
      RidesOut ((m.reader (.replay outcomes)).key e)
        (fun n => ∃ cause, ConsensusFault (keys ctx e) n cause) outcomes (m.addressOf e)
        (e.display ++ " key") budget.attempts o probes polls) ∧
    ∀ token expected, ∃ o probes polls reads after written,
      verifyFees (.replay keys fees) (m.reader (.replay outcomes)) ctx budget token expected
          ⟨((0, []), clock), journal⟩
        = Act.ofExcept o
            ⟨((reads, List.replicate polls (.get (m.addressOf (.token token)))), after),
              written⟩ ∧
      RidesOut ((m.reader (.replay outcomes)).fees token)
        (fun n => ∃ cause, fees ctx token n = .error cause) outcomes
        (m.addressOf (.token token)) ("token " ++ token ++ " custom fees") budget.attempts o
        probes polls := by
  refine ⟨?_, ?_⟩
  · intro e text
    cases hdecode : KeyTree.decode text with
    | error err =>
        exact ⟨.error (.within "Failed to decode expected key" (.key err)), 0, 0, 0, clock,
          journal, verifyKey_of_undecodable hdecode _,
          (takesTime_keys m outcomes e (.list none [])).ridesOut_of_no_probe _ _ _ _⟩
    | ok expected =>
        have hfault : (fun n => ∃ cause, readOff consensusTree (keys ctx e) n = .error cause)
            = fun n => ∃ cause, ConsensusFault (keys ctx e) n cause := by
          funext n
          simp only [readOff, bind_consensusTree_iff]
        rw [verifyKey_of_decode hdecode, ← hfault]
        exact (takesTime_keys m outcomes e expected).expecting_ridesOut
          ((Act.follows_replay (keys ctx e)).reading consensusTree)
          (follows_keyCheck_rest m keys fees outcomes ctx e expected) ctx budget clock journal
  · intro token expected
    rw [verifyFees_eq_expecting]
    exact (takesTime_fees m outcomes token expected).expecting_ridesOut
      (Act.follows_replay (fees ctx token))
      (follows_feesCheck_rest m keys fees outcomes ctx token expected) ctx budget clock journal

/-- A mirror that sends the head of a success in time and the body too late, once, and then has
an empty record in time. -/
def slowOnce : Nat → Outcome
  | 1 => .answered ⟨200⟩ .timedOut
  | _ => .answered ⟨200⟩ (.complete "\x7b\x7d")

/-- No fees are expected, and the second record would have shown none, but the run is over with
the first of five probes. -/
theorem verifyFees_slowBody :
    (Act.runOn (verifyFees (.replay (fun _ _ _ => .ok none) fun _ _ _ => .ok [])
        (hostedMirror.reader (.replay slowOnce)) ⟨"tck", none⟩ ⟨5, .ofMillis 1000, by decide⟩ "0.0.9" [])
        ((0, []), Clock.fresh)).1
      = .error (.probe "token 0.0.9 custom fees" 1
          (.within "Invalid mirror response from http://mirror/api/v1/tokens/0.0.9"
            (.exchange .bodyTimeout))) := by
  decide +kernel

end Concord
