import Concord.Poll.Check
import Concord.Proofs.Act

/-!
# Runs of a check

A run of a check is decided by the outcomes of its probes.  It makes probes up to the
first whose outcome *ends* it, being a failure or a reading that agrees, and if there is
none it makes all that its budget allows (`Check.LastProbe`).  The outcome of the last
probe made is all that the end of the run tells (`Check.verdict`).

* `exists_pollsTo` and `run_follows` say so of any probe that follows a sequence of
  outcomes.  Such a probe may read a state of any kind: two families of predicates say
  where the state is after a number of probes, and they are what a run carries along.
* `LastProbe.ran` tells the three ends of a run apart and counts its sleeps.

A run is opened at its first probe in the same way on every clock.  The runs followed here
are those on a clock that goes on.
-/

namespace Concord

/-! ## Sleeping several times -/

namespace Clock

/-- A clock on which a number of equal sleeps have been made. -/
def sleepTimes (c : Clock) (n : Nat) (d : Duration) : Clock :=
  ⟨c.elapsed + n * d.nanos, c.sleeps ++ List.replicate n d⟩

@[simp] theorem sleepTimes_zero (c : Clock) (d : Duration) : c.sleepTimes 0 d = c := by
  simp [sleepTimes]

theorem sleepTimes_sleep (c : Clock) (n : Nat) (d : Duration) :
    (c.sleep d).sleepTimes n d = c.sleepTimes (n + 1) d := by
  have helapsed : c.elapsed + d.nanos + n * d.nanos = c.elapsed + (n + 1) * d.nanos := by
    rw [Nat.succ_mul]
    omega
  simp [sleepTimes, List.replicate_succ, helapsed]

end Clock

namespace Check

open Act (Follows Reached Counts)

variable {ω α β : Type}

/-! ## The last probe of a run -/

/-- An outcome ends a run: the probe failed, or what it read agrees. -/
def Ends (agrees : α → β → Bool) : Except Failure (α × β) → Prop
  | .error _ => True
  | .ok (a, m) => agrees a m = true

theorem exists_of_not_ends {agrees : α → β → Bool} {o : Except Failure (α × β)}
    (h : ¬ Ends agrees o) : ∃ a m, o = .ok (a, m) ∧ agrees a m ≠ true := by
  cases o with
  | error e => exact absurd trivial h
  | ok p => exact ⟨p.1, p.2, rfl, h⟩

/-- Of the probes behind number `done`, up to number `limit`, the one with which a run
ends: the first whose outcome ends it, and the last of all if there is none. -/
structure LastProbe (agrees : α → β → Bool) (r : Nat → Except Failure (α × β))
    (done limit k : Nat) : Prop where
  /-- It has not been made yet. -/
  done_lt : done < k
  /-- It is within the budget. -/
  le_limit : k ≤ limit
  /-- No outcome before it ends the run. -/
  earlier : ∀ j, done < j → j < k → ¬ Ends agrees (r j)
  /-- It ends the run, or the budget does. -/
  ends : Ends agrees (r k) ∨ k = limit

namespace LastProbe

variable {agrees : α → β → Bool} {r : Nat → Except Failure (α × β)} {done limit k : Nat}

theorem of_ends (hle : done + 1 ≤ limit) (h : Ends agrees (r (done + 1))) :
    LastProbe agrees r done limit (done + 1) where
  done_lt := Nat.lt_succ_self done
  le_limit := hle
  earlier j h1 h2 := by omega
  ends := Or.inl h

theorem of_not_ends (hn : ¬ Ends agrees (r (done + 1)))
    (h : LastProbe agrees r (done + 1) limit k) : LastProbe agrees r done limit k where
  done_lt := Nat.lt_of_succ_lt h.done_lt
  le_limit := h.le_limit
  earlier j h1 h2 := by
    by_cases hj : j = done + 1
    · exact hj ▸ hn
    · exact h.earlier j (by omega) h2
  ends := h.ends

theorem unique {l : Nat} (hk : LastProbe agrees r done limit k)
    (hl : LastProbe agrees r done limit l) : k = l := by
  rcases Nat.lt_trichotomy k l with hlt | heq | hgt
  · rcases hk.ends with hends | hlimit
    · exact absurd hends (hl.earlier k hk.done_lt hlt)
    · have := hl.le_limit
      omega
  · exact heq
  · rcases hl.ends with hends | hlimit
    · exact absurd hends (hk.earlier l hl.done_lt hgt)
    · have := hk.le_limit
      omega

end LastProbe

/-! ## Steps of a run -/

section

variable {κ ε : Type} [Timer κ ε] {ctx : Context} {b : Budget} {check : Check ω α β}
  {left attempt : Nat} {s : Traced (ω × κ)} {t : Traced ω}

theorem pollFrom_failed {cause : Failure}
    (h : check.probe ⟨s.state.1, s.journal⟩ = .error cause t) :
    pollFrom ctx b check left attempt s = Timer.fail (.probe check.label attempt cause)
      ⟨(t.state, s.state.2),
        t.journal ++ [⟨.error, failedText ctx check.label attempt cause⟩]⟩ := by
  rw [pollFrom, Act.bind_ok (Act.attempt_error (Act.within_error h))]
  rfl

theorem pollFrom_agreed {a : α} {m : β} (h : check.probe ⟨s.state.1, s.journal⟩ = .ok (a, m) t)
    (hagree : check.agrees a m = true) :
    pollFrom ctx b check left attempt s = .ok ()
      ⟨(t.state, s.state.2), t.journal ++ [⟨.debug, agreedText ctx check.label attempt⟩]⟩ := by
  rw [pollFrom, Act.bind_ok (Act.attempt_ok (Act.within_ok h))]
  simp only [hagree, if_true]
  rfl

/-- A probe that reads what does not agree spends the budget if none is left. -/
theorem pollFrom_spent {a : α} {m : β} (h : check.probe ⟨s.state.1, s.journal⟩ = .ok (a, m) t)
    (hagree : check.agrees a m ≠ true) :
    pollFrom ctx b check 0 attempt s
      = Timer.fail (.timeout check.label attempt (check.shownConsensus a) (check.shownMirror m))
        ⟨(t.state, s.state.2), t.journal ++ [⟨.error, spentText ctx check.label attempt⟩]⟩ := by
  rw [pollFrom, Act.bind_ok (Act.attempt_ok (Act.within_ok h))]
  simp only [hagree]
  rfl

/-- If a probe is left the clock sleeps and the run goes on. -/
theorem pollFrom_waiting {a : α} {m : β} (h : check.probe ⟨s.state.1, s.journal⟩ = .ok (a, m) t)
    (hagree : check.agrees a m ≠ true) :
    pollFrom ctx b check (left + 1) attempt s
      = (Act.within Part.second (Timer.sleep b.interval) >>= fun _ =>
          pollFrom ctx b check left (attempt + 1))
        ⟨(t.state, s.state.2), t.journal ++ [⟨.warn, waitingText ctx check.label attempt b⟩]⟩ := by
  rw [pollFrom, Act.bind_ok (Act.attempt_ok (Act.within_ok h))]
  simp only [hagree]
  rfl

end

/-- On a clock that goes on so does every run that waits. -/
theorem pollFrom_waiting_clock {ctx : Context} {b : Budget} {check : Check ω α β}
    {left attempt : Nat} {s : Traced (ω × Clock)} {t : Traced ω} {a : α} {m : β}
    (h : check.probe ⟨s.state.1, s.journal⟩ = .ok (a, m) t) (hagree : check.agrees a m ≠ true) :
    pollFrom ctx b check (left + 1) attempt s
      = pollFrom ctx b check left (attempt + 1)
        ⟨(t.state, s.state.2.sleep b.interval),
          t.journal ++ [⟨.warn, waitingText ctx check.label attempt b⟩]⟩ :=
  pollFrom_waiting h hagree

/-! ## Polling along a sequence -/

/-- How a run ends whose last probe is number `k` with a given outcome. -/
def verdict (check : Check ω α β) (k : Nat) : Except Failure (α × β) → Except Failure Unit
  | .error cause => .error (.probe check.label k cause)
  | .ok (a, m) =>
    if check.agrees a m then .ok ()
    else .error (.timeout check.label k (check.shownConsensus a) (check.shownMirror m))

/-- Polling, with `n` probes made and `left` left behind the next, ends with probe
number `k` and leaves `t` behind. -/
structure PollsTo (ctx : Context) (b : Budget) (check : Check ω α β)
    (r : Nat → Except Failure (α × β)) (sound broken : Nat → ω → Prop) (left n : Nat)
    (s t : Traced (ω × Clock)) (k : Nat) : Prop where
  /-- The probe is the last. -/
  last : LastProbe check.agrees r n (n + left + 1) k
  /-- Its outcome is what polling ends in. -/
  ends : pollFrom ctx b check left (n + 1) s = Act.ofExcept (check.verdict k (r k)) t
  /-- The clock slept between the probes. -/
  clock : t.state.2 = s.state.2.sleepTimes (k - (n + 1)) b.interval
  /-- The state is that after the probe. -/
  reached : Reached sound broken k (r k) t.state.1

section

variable {ctx : Context} {b : Budget} {check : Check ω α β}
  {r : Nat → Except Failure (α × β)} {sound broken : Nat → ω → Prop}

/-- Polling ends with the next probe if that ends it, however many are left. -/
theorem pollsTo_of_ends (hf : Follows check.probe r sound broken) {left n : Nat}
    {s : Traced (ω × Clock)} (hs : sound n s.state.1)
    (hends : Ends check.agrees (r (n + 1))) :
    ∃ t, PollsTo ctx b check r sound broken left n s t (n + 1) := by
  have hlast : LastProbe check.agrees r n (n + left + 1) (n + 1) :=
    .of_ends (by omega) hends
  cases hr : r (n + 1) with
  | error cause =>
      obtain ⟨t, hprobe, hbroken⟩ := hf.error (s := ⟨s.state.1, s.journal⟩) hs hr
      refine ⟨⟨(t.state, s.state.2),
        t.journal ++ [⟨.error, failedText ctx check.label (n + 1) cause⟩]⟩, hlast, ?_, ?_, ?_⟩
      · rw [pollFrom_failed hprobe, hr]
        rfl
      · simp
      · rw [hr]
        exact hbroken
  | ok p =>
      obtain ⟨t, hprobe, hsound⟩ := hf.ok (s := ⟨s.state.1, s.journal⟩) hs hr
      have hagree : check.agrees p.1 p.2 = true := by
        rw [hr] at hends
        exact hends
      refine ⟨⟨(t.state, s.state.2),
        t.journal ++ [⟨.debug, agreedText ctx check.label (n + 1)⟩]⟩, hlast, ?_, ?_, ?_⟩
      · rw [pollFrom_agreed hprobe hagree, hr, verdict, if_pos hagree]
        rfl
      · simp
      · rw [hr]
        exact hsound

/-- The last probe that the budget allows ends polling in any case. -/
theorem pollsTo_of_spent (hf : Follows check.probe r sound broken) {n : Nat}
    {s : Traced (ω × Clock)} (hs : sound n s.state.1)
    (hends : ¬ Ends check.agrees (r (n + 1))) :
    ∃ t, PollsTo ctx b check r sound broken 0 n s t (n + 1) := by
  obtain ⟨a, m, hr, hagree⟩ := exists_of_not_ends hends
  obtain ⟨t, hprobe, hsound⟩ := hf.ok (s := ⟨s.state.1, s.journal⟩) hs hr
  have hlast : LastProbe check.agrees r n (n + 0 + 1) (n + 1) :=
    ⟨Nat.lt_succ_self n, by omega, fun j h1 h2 => by omega, Or.inr rfl⟩
  refine ⟨⟨(t.state, s.state.2),
    t.journal ++ [⟨.error, spentText ctx check.label (n + 1)⟩]⟩, hlast, ?_, ?_, ?_⟩
  · rw [pollFrom_spent hprobe hagree, hr, verdict, if_neg hagree]
    rfl
  · simp
  · rw [hr]
    exact hsound

/-- Otherwise polling goes on, and what it ends in is what it ends in from there. -/
theorem exists_pollsTo_of_waiting (hf : Follows check.probe r sound broken) {left n : Nat}
    {s : Traced (ω × Clock)} (hs : sound n s.state.1)
    (hends : ¬ Ends check.agrees (r (n + 1)))
    (hnext : ∀ s : Traced (ω × Clock), sound (n + 1) s.state.1 →
      ∃ t k, PollsTo ctx b check r sound broken left (n + 1) s t k) :
    ∃ t k, PollsTo ctx b check r sound broken (left + 1) n s t k := by
  obtain ⟨a, m, hr, hagree⟩ := exists_of_not_ends hends
  obtain ⟨t, hprobe, hsound⟩ := hf.ok (s := ⟨s.state.1, s.journal⟩) hs hr
  obtain ⟨u, k, hk⟩ := hnext ⟨(t.state, s.state.2.sleep b.interval),
    t.journal ++ [⟨.warn, waitingText ctx check.label (n + 1) b⟩]⟩ hsound
  have hlt : n + 1 < k := hk.last.done_lt
  refine ⟨u, k, ?_, ?_, ?_, hk.reached⟩
  · rw [show n + (left + 1) + 1 = n + 1 + left + 1 by omega]
    exact .of_not_ends hends hk.last
  · rw [pollFrom_waiting_clock hprobe hagree]
    exact hk.ends
  · rw [hk.clock, Clock.sleepTimes_sleep, show k - (n + 1 + 1) + 1 = k - (n + 1) by omega]

/-- Polling ends, from wherever it starts. -/
theorem exists_pollsTo (hf : Follows check.probe r sound broken) :
    ∀ (left n : Nat) (s : Traced (ω × Clock)), sound n s.state.1 →
      ∃ t k, PollsTo ctx b check r sound broken left n s t k := by
  intro left
  -- The induction is on the probes left.  What it carries from one probe to the next is that
  -- the state is where it should be after the number of probes made.
  induction left with
  | zero =>
      intro n s hs
      by_cases hends : Ends check.agrees (r (n + 1))
      · obtain ⟨t, ht⟩ := pollsTo_of_ends hf hs hends
        exact ⟨t, n + 1, ht⟩
      · obtain ⟨t, ht⟩ := pollsTo_of_spent hf hs hends
        exact ⟨t, n + 1, ht⟩
  | succ left ih =>
      intro n s hs
      by_cases hends : Ends check.agrees (r (n + 1))
      · obtain ⟨t, ht⟩ := pollsTo_of_ends hf hs hends
        exact ⟨t, n + 1, ht⟩
      · exact exists_pollsTo_of_waiting hf hs hends fun u hu => ih (n + 1) u hu

/-! ## Runs -/

/-- A run from the start ends with the first probe that ends it, or with the last that
the budget allows. -/
theorem run_follows (hf : Follows check.probe r sound broken) (ctx : Context)
    (budget : Budget) (s : Traced (ω × Clock)) (hs : sound 0 s.state.1) :
    ∃ t k, LastProbe check.agrees r 0 (check.budget.getD budget).attempts k ∧
      check.run ctx budget s = Act.ofExcept (check.verdict k (r k)) t ∧
      t.state.2 = s.state.2.sleepTimes (k - 1) (check.budget.getD budget).interval ∧
      Reached sound broken k (r k) t.state.1 := by
  have hpolls : ∃ t k, PollsTo ctx (check.budget.getD budget) check r sound broken
      ((check.budget.getD budget).attempts - 1) 0 s t k := exists_pollsTo hf _ 0 s hs
  obtain ⟨t, k, hk⟩ := hpolls
  have hpos := (check.budget.getD budget).attempts_pos
  refine ⟨t, k, ?_, hk.ends, hk.clock, hk.reached⟩
  have hlast := hk.last
  rwa [show 0 + ((check.budget.getD budget).attempts - 1) + 1
    = (check.budget.getD budget).attempts by omega] at hlast

end

/-! ## The three ends of a run -/

section

variable {check : Check ω α β} {o : Except Failure (α × β)} {k : Nat}

theorem verdict_ok_of_agrees {a : α} {m : β} (h : check.agrees a m = true) :
    check.verdict k (.ok (a, m)) = .ok () := by
  rw [verdict, if_pos h]

theorem verdict_ok_of_not_agrees {a : α} {m : β} (h : check.agrees a m = false) :
    check.verdict k (.ok (a, m))
      = .error (.timeout check.label k (check.shownConsensus a) (check.shownMirror m)) := by
  rw [verdict, if_neg (by simp [h])]

theorem verdict_eq_ok_iff :
    check.verdict k o = .ok () ↔ ∃ a m, o = .ok (a, m) ∧ check.agrees a m = true := by
  constructor
  · intro h
    cases o with
    | error e => cases h
    | ok p =>
        cases hagree : check.agrees p.1 p.2 with
        | true => exact ⟨p.1, p.2, rfl, hagree⟩
        | false =>
            rw [verdict_ok_of_not_agrees hagree] at h
            cases h
  · rintro ⟨a, m, rfl, hagree⟩
    exact verdict_ok_of_agrees hagree

theorem verdict_eq_probe_iff {j : Nat} {e : Failure} :
    check.verdict k o = .error (.probe check.label j e) ↔ j = k ∧ o = .error e := by
  constructor
  · intro h
    cases o with
    | error e' =>
        cases h
        exact ⟨rfl, rfl⟩
    | ok p =>
        cases hagree : check.agrees p.1 p.2 with
        | true =>
            rw [verdict_ok_of_agrees hagree] at h
            cases h
        | false =>
            rw [verdict_ok_of_not_agrees hagree] at h
            cases h
  · rintro ⟨rfl, rfl⟩
    rfl

/-- A run ends in a timeout on a reading that does not agree, which the timeout shows. -/
theorem verdict_eq_timeout_iff {n : Nat} {c d : String} :
    check.verdict k o = .error (.timeout check.label n c d) ↔
      n = k ∧ ∃ a m, o = .ok (a, m) ∧ check.agrees a m = false ∧
        c = check.shownConsensus a ∧ d = check.shownMirror m := by
  constructor
  · intro h
    cases o with
    | error e => cases h
    | ok p =>
        cases hagree : check.agrees p.1 p.2 with
        | true =>
            rw [verdict_ok_of_agrees hagree] at h
            cases h
        | false =>
            rw [verdict_ok_of_not_agrees hagree] at h
            cases h
            exact ⟨rfl, p.1, p.2, rfl, hagree, rfl, rfl⟩
  · rintro ⟨rfl, a, m, rfl, hagree, rfl, rfl⟩
    exact verdict_ok_of_not_agrees hagree

end

/-! ## Runs over a sequence of outcomes -/

/-- The check with a probe that gives the outcomes of a sequence. -/
def replaying (check : Check ω α β) (r : Nat → Except Failure (α × β)) : Check Nat α β where
  label := check.label
  probe := Act.replay r
  agrees := check.agrees
  budget := check.budget
  shownConsensus := check.shownConsensus
  shownMirror := check.shownMirror

theorem follows_replaying (check : Check ω α β) (r : Nat → Except Failure (α × β)) :
    Follows (check.replaying r).probe r Counts Counts :=
  Act.follows_replay r

theorem nanos_of_totalWait? {b : Budget} {w : Duration} (h : b.totalWait? = some w) :
    w.nanos = (b.attempts - 1) * b.interval.nanos := by
  rw [Duration.ofNanos?_eq_some_iff.1 h, Nat.mul_comm]

/-- What is left of a run under a budget: it ended in `o`, after `k` probes with the
outcomes of a sequence, and moved the clock from `before` to `after`. -/
structure Ran (check : Check ω α β) (r : Nat → Except Failure (α × β)) (b : Budget)
    (o : Except Failure Unit) (k : Nat) (before after : Clock) : Prop where
  /-- Probing stopped with the first outcome that ends a run, or with the budget. -/
  last : LastProbe check.agrees r 0 b.attempts k
  /-- The clock slept between two probes and nowhere else. -/
  sleeps : after.sleeps = before.sleeps ++ List.replicate (k - 1) b.interval
  /-- The run ended well exactly when the last probe read what agrees. -/
  ok_iff : o = .ok () ↔ ∃ a m, r k = .ok (a, m) ∧ check.agrees a m = true
  /-- It ended in a failed probe exactly when the last one failed, with its cause. -/
  probe_iff : ∀ j e, o = .error (.probe check.label j e) ↔ j = k ∧ r k = .error e
  /-- It timed out exactly when the whole budget of probes went by, the last of which read
  what does not agree.  The timeout shows what that probe read. -/
  timeout_iff : ∀ n c d, o = .error (.timeout check.label n c d) ↔
    n = b.attempts ∧ k = b.attempts ∧ ∃ a m, r b.attempts = .ok (a, m) ∧
      check.agrees a m = false ∧ c = check.shownConsensus a ∧ d = check.shownMirror m
  /-- The time that went by is that of the sleeps. -/
  elapsed : after.elapsed = before.elapsed + (k - 1) * b.interval.nanos
  /-- It is never more than the total wait of the budget. -/
  le_totalWait : ∀ w, b.totalWait? = some w →
    after.elapsed ≤ before.elapsed + w.nanos
  /-- A timeout takes the total wait of the budget. -/
  eq_totalWait : ∀ w, b.totalWait? = some w → ∀ n c d,
    o = .error (.timeout check.label n c d) →
      after.elapsed = before.elapsed + w.nanos

/-- The last probe, the end it leads to and the sleeps of a run say all that is left of
it. -/
theorem LastProbe.ran {check : Check ω α β} {r : Nat → Except Failure (α × β)} {b : Budget}
    {k : Nat} (h : LastProbe check.agrees r 0 b.attempts k) (before : Clock) :
    Ran check r b (check.verdict k (r k)) k before (before.sleepTimes (k - 1) b.interval) := by
  have hle : (k - 1) * b.interval.nanos ≤ (b.attempts - 1) * b.interval.nanos :=
    Nat.mul_le_mul_right _ (Nat.sub_le_sub_right h.le_limit 1)
  have htimeout : ∀ n c d, check.verdict k (r k) = .error (.timeout check.label n c d) ↔
      n = b.attempts ∧ k = b.attempts ∧ ∃ a m, r b.attempts = .ok (a, m) ∧
        check.agrees a m = false ∧ c = check.shownConsensus a ∧ d = check.shownMirror m := by
    intro n c d
    rw [verdict_eq_timeout_iff]
    constructor
    · rintro ⟨rfl, a, m, hr, hagree, hc, hd⟩
      have hk : n = b.attempts := by
        rcases h.ends with hends | hlimit
        · rw [hr] at hends
          exact absurd hends (by simp [Ends, hagree])
        · exact hlimit
      rw [hk] at hr
      exact ⟨hk, hk, a, m, hr, hagree, hc, hd⟩
    · rintro ⟨hn, hk, hread⟩
      rw [hk]
      exact ⟨hn, hread⟩
  refine ⟨h, rfl, verdict_eq_ok_iff, fun j e => verdict_eq_probe_iff, htimeout, rfl, ?_, ?_⟩
  · intro w hw
    rw [nanos_of_totalWait? hw]
    exact Nat.add_le_add_left hle _
  · intro w hw n c d ho
    obtain ⟨-, hk, -⟩ := (htimeout n c d).1 ho
    rw [nanos_of_totalWait? hw, ← hk]
    rfl

end Check

end Concord
