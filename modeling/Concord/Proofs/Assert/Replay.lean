import Concord.Proofs.Poll.Run
import Concord.Source.Consensus
import Concord.Source.Mirror

/-!
# Assertions over sequences of answers

An assertion reads the consensus side at once and then polls both sides.  This module
says what is left of one when all that is known of either side is the sequence of its
answers.

* `ConsensusReader.replay` and `MirrorReader.replay` give the answers of the sequence that
  belongs to what is asked, and count all that they give.
* `expecting` is the shape that assertions have.  Probe number `j` reads consensus answer
  number `j + 1`, since the first is read at once, and mirror answer number `j`.
* `Settled` is what an assertion leaves behind: the sequences say how it ends, how many
  answers of either side it reads and how often the clock sleeps.
-/

namespace Concord

open Act (Follows Reached Counts BothSound BothBroken sideBySide)

/-! ## Readers that give the answers of sequences -/

/-- The consensus side that answers along sequences, one for each thing that is asked. -/
def ConsensusReader.replay (keys : Context → Entity → Nat → Except Failure (Option String))
    (fees : Context → String → Nat → Except Failure (List CustomFee)) :
    ConsensusReader Nat where
  key ctx e := Act.replay (keys ctx e)
  fees ctx token := Act.replay (fees ctx token)

/-- The mirror that answers along sequences. -/
def MirrorReader.replay
    (reports : Entity → Nat → Except Failure (MirrorRecord (Option ObservedKey)))
    (schedules : String → Nat → Except Failure (MirrorRecord MirrorFees)) :
    MirrorReader Nat where
  key e := Act.replay (reports e)
  fees token := Act.replay (schedules token)

variable {σ μ ω α β : Type}

/-! ## Probes that are made -/

namespace Check

/-- A run gets to probe number `k`: it is within the budget, and of the probes before it
every one was clean and none was good. -/
structure Made (clean good : Nat → Prop) (limit k : Nat) : Prop where
  one_le : 1 ≤ k
  le_limit : k ≤ limit
  /-- No probe before it ended the run. -/
  earlier : ∀ j, 1 ≤ j → j < k → clean j ∧ ¬ good j

variable {agrees : α → β → Bool} {left : Nat → Except Failure α}
  {right : Nat → Except Failure β} {limit k : Nat}

/-- Neither side has a fault in probe number `j`, given the faults of its answers. -/
def Faultless (consensusFault mirrorFault : Nat → Failure → Prop) (j : Nat) : Prop :=
  (¬ ∃ cause, consensusFault (j + 1) cause) ∧ ¬ ∃ cause, mirrorFault j cause

/-- Neither side gave an error in probe number `j`. -/
abbrev Clean (left : Nat → Except Failure α) (right : Nat → Except Failure β) : Nat → Prop :=
  Faultless (fun n cause => left n = .error cause) (fun n cause => right n = .error cause)

/-- Probe number `j` read what agrees. -/
def Good (agrees : α → β → Bool) (left : Nat → Except Failure α)
    (right : Nat → Except Failure β) (j : Nat) : Prop :=
  ∃ a m, left (j + 1) = .ok a ∧ right j = .ok m ∧ agrees a m = true

/-- A good probe has an outcome that agrees. -/
theorem good_iff : Good agrees left right k ↔
    ∃ a m, sideBySide left right k = .ok (a, m) ∧ agrees a m = true := by
  constructor
  · rintro ⟨a, m, ha, hm, hagree⟩
    exact ⟨a, m, by rw [sideBySide, ha, hm], hagree⟩
  · rintro ⟨a, m, hr, hagree⟩
    obtain ⟨ha, hm⟩ := Act.sideBySide_eq_ok_iff.1 hr
    exact ⟨a, m, ha, hm, hagree⟩

/-- A probe does not end a run when it is clean and not good. -/
theorem not_ends_iff : ¬ Ends agrees (sideBySide left right k) ↔
    Clean left right k ∧ ¬ Good agrees left right k := by
  rw [good_iff]
  constructor
  · intro h
    obtain ⟨a, m, hr, hagree⟩ := exists_of_not_ends h
    obtain ⟨ha, hm⟩ := Act.sideBySide_eq_ok_iff.1 hr
    refine ⟨⟨by simp [ha], by simp [hm]⟩, ?_⟩
    rintro ⟨c, n, hr', hagree'⟩
    rw [hr] at hr'
    cases hr'
    exact hagree hagree'
  · rintro ⟨⟨hleft, hright⟩, hgood⟩ hends
    cases hr : sideBySide left right k with
    | ok p =>
        rw [hr] at hends
        exact hgood ⟨p.1, p.2, hr, hends⟩
    | error e =>
        rcases Act.sideBySide_eq_error_iff.1 hr with ha | ⟨-, hb⟩
        · exact hleft ⟨e, ha⟩
        · exact hright ⟨e, hb⟩

theorem Made.lastProbe
    (h : Made (Clean left right) (Good agrees left right) limit k)
    (hends : Ends agrees (sideBySide left right k)) :
    LastProbe agrees (sideBySide left right) 0 limit k where
  done_lt := h.one_le
  le_limit := h.le_limit
  earlier j h1 h2 := not_ends_iff.2 (h.earlier j h1 h2)
  ends := Or.inl hends

theorem LastProbe.made (h : LastProbe agrees (sideBySide left right) 0 limit k) :
    Made (Clean left right) (Good agrees left right) limit k where
  one_le := h.done_lt
  le_limit := h.le_limit
  earlier j h1 h2 := not_ends_iff.1 (h.earlier j h1 h2)

theorem Made.lastProbe_of_good
    (h : Made (Clean left right) (Good agrees left right) limit k)
    (hgood : Good agrees left right k) :
    LastProbe agrees (sideBySide left right) 0 limit k := by
  refine h.lastProbe ?_
  obtain ⟨a, m, hr, hagree⟩ := good_iff.1 hgood
  rw [hr]
  exact hagree

theorem Made.lastProbe_of_error {cause : Failure}
    (h : Made (Clean left right) (Good agrees left right) limit k)
    (hr : sideBySide left right k = .error cause) :
    LastProbe agrees (sideBySide left right) 0 limit k := by
  refine h.lastProbe ?_
  rw [hr]
  trivial

/-- A run with a given last probe ends well exactly when a good probe is made. -/
theorem LastProbe.verdict_eq_ok_iff {check : Check ω α β}
    (h : LastProbe check.agrees (sideBySide left right) 0 limit k) :
    check.verdict k (sideBySide left right k) = .ok () ↔
      ∃ l, Made (Clean left right) (Good check.agrees left right) limit l ∧
        Good check.agrees left right l := by
  rw [Check.verdict_eq_ok_iff, ← good_iff]
  constructor
  · intro hgood
    exact ⟨k, h.made, hgood⟩
  · rintro ⟨l, hmade, hgood⟩
    obtain rfl : k = l := h.unique (hmade.lastProbe_of_good hgood)
    exact hgood

end Check

/-! ## The shape of an assertion -/

/-- Reads the consensus side at once and goes on with a check on both sides if it reports
what is expected. -/
def expecting (first : Act σ Failure α) (holds : α → Bool) (mismatch : α → Failure)
    (check : Check (σ × μ) α β) (ctx : Context) (budget : Budget) :
    Act ((σ × μ) × Clock) Failure Unit := do
  let observed ← Act.within Part.first (Act.within Part.first first)
  if holds observed then check.run ctx budget else throw (mismatch observed)

section

variable {first : Act σ Failure α} {holds : α → Bool} {mismatch : α → Failure}
  {check : Check (σ × μ) α β} {ctx : Context} {budget : Budget}
  {s : Traced ((σ × μ) × Clock)} {t : Traced σ}

theorem expecting_error {cause : Failure}
    (h : first ⟨s.state.1.1, s.journal⟩ = .error cause t) :
    expecting first holds mismatch check ctx budget s
      = .error cause ⟨((t.state, s.state.1.2), s.state.2), t.journal⟩ := by
  have hinner : Act.within Part.first first ⟨s.state.1, s.journal⟩
      = .error cause ⟨(t.state, s.state.1.2), t.journal⟩ := Act.within_error h
  rw [expecting, Act.bind_error (Act.within_error hinner)]
  rfl

/-- Once the consensus side is read, what it reports decides how to go on. -/
theorem expecting_ok {a : α} (h : first ⟨s.state.1.1, s.journal⟩ = .ok a t) :
    expecting first holds mismatch check ctx budget s
      = (if holds a then check.run ctx budget else throw (mismatch a))
        ⟨((t.state, s.state.1.2), s.state.2), t.journal⟩ := by
  have hinner : Act.within Part.first first ⟨s.state.1, s.journal⟩
      = .ok a ⟨(t.state, s.state.1.2), t.journal⟩ := Act.within_ok h
  rw [expecting, Act.bind_ok (Act.within_ok hinner)]
  rfl

end

/-! ## What an assertion leaves behind -/

/-- What is left of an assertion: it ended in `o`, after `reads` answers of the consensus
side and `polls` answers of the mirror, and moved the clock from `before` to `after`.

`expected` says that the first answer of the consensus side was as expected, and `good j`
that probe number `j` saw what is expected on both sides.  `consensusFault n` and
`mirrorFault n` are the faults of answer number `n` of either side. -/
structure Settled (expected : Prop) (good : Nat → Prop)
    (consensusFault mirrorFault : Nat → Failure → Prop) (label : String) (b : Budget)
    (o : Except Failure Unit) (reads polls : Nat) (before after : Clock) : Prop where
  /-- It ended well exactly when the first answer was as expected and a good probe was
  made. -/
  ok_iff : o = .ok () ↔ expected ∧
    ∃ k, Check.Made (Check.Faultless consensusFault mirrorFault) good b.attempts k ∧ good k
  /-- Up to the good probe, every probe read an answer of either side. -/
  agreed : expected → ∀ k,
    Check.Made (Check.Faultless consensusFault mirrorFault) good b.attempts k → good k →
    reads = 1 + k ∧ polls = k ∧ after = before.sleepTimes (k - 1) b.interval
  /-- A fault of the consensus side in a probe ended the assertion before the mirror was
  read in that probe. -/
  consensus_failed : expected → ∀ k cause,
    Check.Made (Check.Faultless consensusFault mirrorFault) good b.attempts k →
    consensusFault (k + 1) cause →
    o = .error (.probe label k cause) ∧ reads = 1 + k ∧ polls = k - 1 ∧
      after = before.sleepTimes (k - 1) b.interval
  /-- So did a fault of the mirror, once it was read. -/
  mirror_failed : expected → ∀ k cause,
    Check.Made (Check.Faultless consensusFault mirrorFault) good b.attempts k →
    (¬ ∃ cause, consensusFault (k + 1) cause) → mirrorFault k cause →
    o = .error (.probe label k cause) ∧ reads = 1 + k ∧ polls = k ∧
      after = before.sleepTimes (k - 1) b.interval
  /-- If the first answer was not as expected the mirror was never read. -/
  unexpected : ¬ expected → o ≠ .ok () ∧ reads = 1 ∧ polls = 0 ∧ after = before

section

variable {holds : α → Bool} {mismatch : α → Failure} {left : Nat → Except Failure α}
  {right : Nat → Except Failure β}

/-- What an assertion leaves behind, in terms of the sequences themselves. -/
abbrev SettledBy (holds : α → Bool) (check : Check ω α β) (left : Nat → Except Failure α)
    (right : Nat → Except Failure β) (b : Budget) (o : Except Failure Unit)
    (reads polls : Nat) (before after : Clock) : Prop :=
  Settled (∃ a, left 1 = .ok a ∧ holds a = true) (Check.Good check.agrees left right)
    (fun n cause => left n = .error cause) (fun n cause => right n = .error cause)
    check.label b o reads polls before after

/-- Nothing is left but one answer when it was not as expected. -/
theorem settledBy_of_unexpected {check : Check ω α β} {b : Budget} {e : Failure}
    (h : ¬ ∃ a, left 1 = .ok a ∧ holds a = true) (before : Clock) :
    SettledBy holds check left right b (.error e) 1 0 before before where
  ok_iff := by
    constructor
    · intro ho
      cases ho
    · intro hexpected
      exact absurd hexpected.1 h
  agreed hexpected := absurd hexpected h
  consensus_failed hexpected := absurd hexpected h
  mirror_failed hexpected := absurd hexpected h
  unexpected _ := ⟨by simp, rfl, rfl, rfl⟩

/-- The last probe settles an assertion once the first answer is as expected. -/
theorem settledBy_of_lastProbe {check : Check ω α β} {b : Budget} {a : α} {k : Nat}
    {w : Nat × Nat} (h : left 1 = .ok a) (hholds : holds a = true)
    (hlast : Check.LastProbe check.agrees (sideBySide left right) 0 b.attempts k)
    (hreached : Reached (BothSound Counts Counts) (BothBroken left Counts Counts) k
      (sideBySide left right k) w) (before : Clock) :
    SettledBy holds check left right b (check.verdict k (sideBySide left right k)) w.1 w.2
      before (before.sleepTimes (k - 1) b.interval) := by
  have hexpected : ∃ a, left 1 = .ok a ∧ holds a = true := ⟨a, h, hholds⟩
  refine ⟨?_, ?_, ?_, ?_, ?_⟩
  · constructor
    · intro ho
      exact ⟨hexpected, hlast.verdict_eq_ok_iff.1 ho⟩
    · intro hgood
      exact hlast.verdict_eq_ok_iff.2 hgood.2
  · intro _ l hmade hgood
    obtain rfl : k = l := hlast.unique (hmade.lastProbe_of_good hgood)
    obtain ⟨c, m, hr, -⟩ := Check.good_iff.1 hgood
    rw [hr] at hreached
    exact ⟨hreached.1.trans (Nat.add_comm k 1), hreached.2, rfl⟩
  · intro _ l cause hmade hfault
    have hr : sideBySide left right l = .error cause :=
      Act.sideBySide_eq_error_iff.2 (Or.inl hfault)
    obtain rfl : k = l := hlast.unique (hmade.lastProbe_of_error hr)
    rw [hr] at hreached ⊢
    obtain ⟨hreads, hpolls⟩ := hreached
    rw [hfault] at hpolls
    exact ⟨rfl, hreads.trans (Nat.add_comm k 1), hpolls, rfl⟩
  · intro _ l cause hmade hclean hfault
    obtain ⟨c, hc⟩ : ∃ c, left (l + 1) = .ok c := Act.exists_eq_ok_of_no_error hclean
    have hr : sideBySide left right l = .error cause :=
      Act.sideBySide_eq_error_iff.2 (Or.inr ⟨⟨c, hc⟩, hfault⟩)
    obtain rfl : k = l := hlast.unique (hmade.lastProbe_of_error hr)
    rw [hr] at hreached ⊢
    obtain ⟨hreads, hpolls⟩ := hreached
    rw [hc] at hpolls
    exact ⟨rfl, hreads.trans (Nat.add_comm k 1), hpolls, rfl⟩
  · intro hnot
    exact absurd hexpected hnot

/-- An assertion on two sides that answer along sequences is settled by them. -/
theorem expecting_settledBy (holds : α → Bool) (mismatch : α → Failure)
    {first : Act Nat Failure α} {check : Check (Nat × Nat) α β}
    (hfirst : Follows first left Counts Counts)
    (hprobe : Follows check.probe (sideBySide left right) (BothSound Counts Counts)
      (BothBroken left Counts Counts))
    (ctx : Context) (budget : Budget) (clock : Clock) (journal : List Record) :
    ∃ o reads polls after written,
      expecting first holds mismatch check ctx budget ⟨((0, 0), clock), journal⟩
        = Act.ofExcept o ⟨((reads, polls), after), written⟩ ∧
      SettledBy holds check left right (check.budget.getD budget) o reads polls clock
        after := by
  cases hanswer : left 1 with
  | error cause =>
      obtain ⟨⟨n, written⟩, hact, rfl⟩ := hfirst.error (s := ⟨0, journal⟩) rfl hanswer
      exact ⟨.error cause, 1, 0, clock, written,
        expecting_error (s := ⟨((0, 0), clock), journal⟩) hact,
        settledBy_of_unexpected (by simp [hanswer]) clock⟩
  | ok a =>
      obtain ⟨⟨n, written⟩, hact, rfl⟩ := hfirst.ok (s := ⟨0, journal⟩) rfl hanswer
      cases hholds : holds a with
      | false =>
          refine ⟨.error (mismatch a), 1, 0, clock, written, ?_,
            settledBy_of_unexpected (by simp [hanswer, hholds]) clock⟩
          rw [expecting_ok (s := ⟨((0, 0), clock), journal⟩) hact, hholds]
          rfl
      | true =>
          obtain ⟨⟨⟨⟨reads, polls⟩, after⟩, later⟩, k, hlast, hrun, hclock, hreached⟩ :=
            Check.run_follows hprobe ctx budget ⟨((1, 0), clock), written⟩ ⟨rfl, rfl⟩
          refine ⟨check.verdict k (sideBySide left right k), reads, polls, after, later, ?_, ?_⟩
          · rw [expecting_ok (s := ⟨((0, 0), clock), journal⟩) hact, hholds]
            exact hrun
          · obtain rfl : after = _ := hclock
            exact settledBy_of_lastProbe hanswer hholds hlast hreached clock

end

end Concord
