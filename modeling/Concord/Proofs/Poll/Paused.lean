import Concord.Proofs.Poll.Run

/-!
# Runs on a paused clock

A paused clock shows a duration, so it may be too small for the sleeps of a run.  A run on it
is compared with the run on a clock that shows the same and goes on (`PausedClock.toClock`).
Both make the same probes until the paused clock is full.  If that does not happen they end
alike; otherwise the run on the paused clock breaks off (`EndsAs`, `run_endsAs`).

`run_replaying` puts this together with what runs on a clock that goes on leave behind: the
probes and the sleeps of a run over any sequence of outcomes, and which of its three ends it
comes to.  The time of the sleeps alone decides whether a paused clock holds it.
-/

namespace Concord

/-! ## The same run on two clocks -/

namespace PausedClock

variable {ω : Type}

/-- The clock that shows the same and goes on. -/
def toClock (c : PausedClock) : Clock := ⟨c.elapsed.nanos, c.sleeps⟩

/-- A state with the clock that goes on in the place of a paused one. -/
def onClock (s : Traced (ω × PausedClock)) : Traced (ω × Clock) :=
  ⟨(s.state.1, s.state.2.toClock), s.journal⟩

theorem toClock_sleep {c : PausedClock} {d elapsed : Duration}
    (h : c.elapsed.add? d = some elapsed) :
    (⟨elapsed, c.sleeps ++ [d]⟩ : PausedClock).toClock = c.toClock.sleep d := by
  rw [toClock, Duration.ofNanos?_eq_some_iff.1 h]
  rfl

/-- A paused clock is left at `after` by a run that slept from `before` on for `d` each time,
`n` times and once more than the clock could take.  On a clock that goes on the run would have
gone on to `later`. -/
structure BrokeOff (d : Duration) (n : Nat) (before after : PausedClock) (later : Clock) :
    Prop where
  elapsed : after.elapsed.nanos = before.elapsed.nanos + n * d.nanos
  /-- The sleep that was too long is recorded, too. -/
  sleeps : after.sleeps = before.sleeps ++ List.replicate (n + 1) d
  full : Duration.limit ≤ before.elapsed.nanos + (n + 1) * d.nanos
  le_later : before.elapsed.nanos + (n + 1) * d.nanos ≤ later.elapsed

/-- How a run ends that sleeps for `d` each time on a paused clock, given how it ends on the
clock that shows the same and goes on. -/
inductive EndsAs (d : Duration) (before : PausedClock)
    (free : EStateM.Result Failure (Traced (ω × Clock)) Unit)
    (paused : EStateM.Result Halt (Traced (ω × PausedClock)) Unit) : Prop where
  /-- It ends in the same way, and both clocks show the same. -/
  | alike (o : Except Failure Unit) (t : Traced (ω × PausedClock))
      (hfree : free = Act.ofExcept o (onClock t))
      (hpaused : paused = Act.ofExcept (o.mapError .failed) t)
  /-- It breaks off. -/
  | brokeOff (o : Except Failure Unit) (u : Traced (ω × Clock)) (n : Nat)
      (t : Traced (ω × PausedClock)) (hfree : free = Act.ofExcept o u)
      (hpaused : paused = .error (.panicked Duration.overflowText) t)
      (h : BrokeOff d n before t.state.2 u.state.2)

/-- A clock that breaks off at once is one that breaks off after a sleep. -/
theorem BrokeOff.after_sleep {d elapsed : Duration} {n : Nat} {c after : PausedClock}
    {later : Clock} (hsleep : c.elapsed.add? d = some elapsed)
    (h : BrokeOff d n ⟨elapsed, c.sleeps ++ [d]⟩ after later) :
    BrokeOff d (n + 1) c after later := by
  have helapsed : elapsed.nanos = c.elapsed.nanos + d.nanos :=
    Duration.ofNanos?_eq_some_iff.1 hsleep
  have hmore : ∀ m, elapsed.nanos + m * d.nanos = c.elapsed.nanos + (m + 1) * d.nanos := by
    intro m
    rw [helapsed, Nat.succ_mul]
    omega
  refine ⟨h.elapsed.trans (hmore n), ?_, (hmore (n + 1)) ▸ h.full, (hmore (n + 1)) ▸ h.le_later⟩
  rw [h.sleeps, List.append_assoc, List.singleton_append, ← List.replicate_succ]

end PausedClock

namespace Check

open PausedClock

variable {ω α β : Type} {ctx : Context} {b : Budget} {check : Check ω α β} {left attempt : Nat}

/-! ## What a step does on every clock -/

/-- What the next probe comes to, whatever the clock is: the run ends there, or it sleeps and
goes on. -/
inductive Step (ctx : Context) (b : Budget) (check : Check ω α β) (left attempt : Nat) (w : ω)
    (journal : List Record) : Prop where
  | ends (o : Except Failure Unit) (t : Traced ω)
      (h : ∀ {κ ε : Type} [Timer κ ε] (c : κ),
        pollFrom ctx b check left attempt ⟨(w, c), journal⟩
          = Timer.beside (Act.ofExcept o) ⟨(t.state, c), t.journal⟩)
  | waits (rest : Nat) (hleft : left = rest + 1) (t : Traced ω)
      (h : ∀ {κ ε : Type} [Timer κ ε] (c : κ),
        pollFrom ctx b check left attempt ⟨(w, c), journal⟩
          = (Act.within Part.second (Timer.sleep b.interval) >>= fun _ =>
              pollFrom ctx b check rest (attempt + 1)) ⟨(t.state, c), t.journal⟩)

theorem step (ctx : Context) (b : Budget) (check : Check ω α β) (left attempt : Nat) (w : ω)
    (journal : List Record) : Step ctx b check left attempt w journal := by
  cases hprobe : check.probe ⟨w, journal⟩ with
  | error cause t =>
      exact .ends (.error (.probe check.label attempt cause))
        ⟨t.state, t.journal ++ [⟨.error, failedText ctx check.label attempt cause⟩]⟩
        fun c => pollFrom_failed (s := ⟨(w, c), journal⟩) hprobe
  | ok p t =>
      by_cases hagree : check.agrees p.1 p.2 = true
      · exact .ends (.ok ())
          ⟨t.state, t.journal ++ [⟨.debug, agreedText ctx check.label attempt⟩]⟩
          fun c => pollFrom_agreed (s := ⟨(w, c), journal⟩) hprobe hagree
      · cases left with
        | zero =>
            exact .ends (.error (.timeout check.label attempt (check.shownConsensus p.1)
                (check.shownMirror p.2)))
              ⟨t.state, t.journal ++ [⟨.error, spentText ctx check.label attempt⟩]⟩
              fun c => pollFrom_spent (s := ⟨(w, c), journal⟩) hprobe hagree
        | succ rest =>
            exact .waits rest rfl
              ⟨t.state, t.journal ++ [⟨.warn, waitingText ctx check.label attempt b⟩]⟩
              fun c => pollFrom_waiting (s := ⟨(w, c), journal⟩) hprobe hagree

/-- On a clock that goes on every run ends, and the clock never goes back. -/
theorem exists_pollFrom_clock (ctx : Context) (b : Budget) (check : Check ω α β)
    (left attempt : Nat) (s : Traced (ω × Clock)) :
    ∃ o t, pollFrom ctx b check left attempt s = Act.ofExcept o t ∧
      s.state.2.elapsed ≤ t.state.2.elapsed := by
  induction left generalizing attempt s with
  | zero =>
      cases step ctx b check 0 attempt s.state.1 s.journal with
      | ends o t h =>
          exact ⟨o, ⟨(t.state, s.state.2), t.journal⟩,
            (h s.state.2).trans (Clock.beside_ofExcept o _), Nat.le_refl _⟩
      | waits rest hleft => cases hleft
  | succ left ih =>
      cases step ctx b check (left + 1) attempt s.state.1 s.journal with
      | ends o t h =>
          exact ⟨o, ⟨(t.state, s.state.2), t.journal⟩,
            (h s.state.2).trans (Clock.beside_ofExcept o _), Nat.le_refl _⟩
      | waits rest hleft t h =>
          cases hleft
          obtain ⟨o, u, hrest, hle⟩ :=
            ih (attempt + 1) ⟨(t.state, s.state.2.sleep b.interval), t.journal⟩
          exact ⟨o, u, (h s.state.2).trans hrest, Nat.le_trans (Nat.le_add_right _ _) hle⟩

/-! ## Runs on a paused clock -/

theorem endsAs_of_ends {d : Duration} {s : Traced (ω × PausedClock)} {o : Except Failure Unit}
    {t : Traced ω}
    (h : ∀ {κ ε : Type} [Timer κ ε] (c : κ),
      pollFrom ctx b check left attempt ⟨(s.state.1, c), s.journal⟩
        = Timer.beside (Act.ofExcept o) ⟨(t.state, c), t.journal⟩) :
    EndsAs d s.state.2 (pollFrom ctx b check left attempt (onClock s))
      (pollFrom ctx b check left attempt s) :=
  .alike o ⟨(t.state, s.state.2), t.journal⟩
    ((h s.state.2.toClock).trans (Clock.beside_ofExcept o _))
    ((h s.state.2).trans (PausedClock.beside_ofExcept o _))

/-- A run breaks off at a sleep that is too long for the clock. -/
theorem endsAs_of_overflow {rest : Nat} {s : Traced (ω × PausedClock)} {t : Traced ω}
    (h : ∀ {κ ε : Type} [Timer κ ε] (c : κ),
      pollFrom ctx b check left attempt ⟨(s.state.1, c), s.journal⟩
        = (Act.within Part.second (Timer.sleep b.interval) >>= fun _ =>
            pollFrom ctx b check rest (attempt + 1)) ⟨(t.state, c), t.journal⟩)
    (hfull : s.state.2.elapsed.add? b.interval = none) :
    EndsAs b.interval s.state.2 (pollFrom ctx b check left attempt (onClock s))
      (pollFrom ctx b check left attempt s) := by
  obtain ⟨o, u, hrest, hle⟩ := exists_pollFrom_clock ctx b check rest (attempt + 1)
    ⟨(t.state, s.state.2.toClock.sleep b.interval), t.journal⟩
  have hlimit : Duration.limit ≤ s.state.2.elapsed.nanos + b.interval.nanos :=
    Duration.ofNanos?_eq_none_iff.1 hfull
  refine .brokeOff o u 0
    ⟨(t.state, ⟨s.state.2.elapsed, s.state.2.sleeps ++ [b.interval]⟩), t.journal⟩
    ((h s.state.2.toClock).trans hrest) ?_ ⟨by simp, rfl, by simpa using hlimit, ?_⟩
  · exact (h s.state.2).trans (Act.bind_error (Act.within_error (sleep_of_overflow hfull)))
  · rw [Nat.zero_add, Nat.one_mul]
    exact hle

/-- A run sleeps on both clocks and goes on if the paused clock can take the sleep. -/
theorem endsAs_of_sleep {rest : Nat} {s : Traced (ω × PausedClock)} {t : Traced ω}
    {elapsed : Duration}
    (h : ∀ {κ ε : Type} [Timer κ ε] (c : κ),
      pollFrom ctx b check left attempt ⟨(s.state.1, c), s.journal⟩
        = (Act.within Part.second (Timer.sleep b.interval) >>= fun _ =>
            pollFrom ctx b check rest (attempt + 1)) ⟨(t.state, c), t.journal⟩)
    (hsleep : s.state.2.elapsed.add? b.interval = some elapsed)
    (hrest : ∀ u : Traced (ω × PausedClock), EndsAs b.interval u.state.2
      (pollFrom ctx b check rest (attempt + 1) (onClock u))
      (pollFrom ctx b check rest (attempt + 1) u)) :
    EndsAs b.interval s.state.2 (pollFrom ctx b check left attempt (onClock s))
      (pollFrom ctx b check left attempt s) := by
  have hslept : onClock ⟨(t.state, ⟨elapsed, s.state.2.sleeps ++ [b.interval]⟩), t.journal⟩
      = ⟨(t.state, s.state.2.toClock.sleep b.interval), t.journal⟩ := by
    rw [onClock, toClock_sleep hsleep]
  have hfree : pollFrom ctx b check left attempt (onClock s)
      = pollFrom ctx b check rest (attempt + 1)
        (onClock ⟨(t.state, ⟨elapsed, s.state.2.sleeps ++ [b.interval]⟩), t.journal⟩) := by
    rw [hslept]
    exact h s.state.2.toClock
  have hpaused : pollFrom ctx b check left attempt s
      = pollFrom ctx b check rest (attempt + 1)
        ⟨(t.state, ⟨elapsed, s.state.2.sleeps ++ [b.interval]⟩), t.journal⟩ :=
    (h s.state.2).trans (Act.bind_ok (Act.within_ok (sleep_of_add? hsleep)))
  rw [hfree, hpaused]
  cases hrest ⟨(t.state, ⟨elapsed, s.state.2.sleeps ++ [b.interval]⟩), t.journal⟩ with
  | alike o u hfree hpaused => exact .alike o u hfree hpaused
  | brokeOff o u n v hfree hpaused hbroke =>
      exact .brokeOff o u (n + 1) v hfree hpaused (hbroke.after_sleep hsleep)

/-- Polling on a paused clock ends as it does on the clock that goes on, or breaks off. -/
theorem pollFrom_endsAs (left attempt : Nat) (s : Traced (ω × PausedClock)) :
    EndsAs b.interval s.state.2 (pollFrom ctx b check left attempt (onClock s))
      (pollFrom ctx b check left attempt s) := by
  induction left generalizing attempt s with
  | zero =>
      cases step ctx b check 0 attempt s.state.1 s.journal with
      | ends o t h => exact endsAs_of_ends h
      | waits rest hleft => cases hleft
  | succ left ih =>
      cases step ctx b check (left + 1) attempt s.state.1 s.journal with
      | ends o t h => exact endsAs_of_ends h
      | waits rest hleft t h =>
          cases hleft
          cases hsleep : s.state.2.elapsed.add? b.interval with
          | none => exact endsAs_of_overflow h hsleep
          | some elapsed => exact endsAs_of_sleep h hsleep (ih (attempt + 1))

theorem run_endsAs (check : Check ω α β) (ctx : Context) (budget : Budget)
    (s : Traced (ω × PausedClock)) :
    EndsAs (check.budget.getD budget).interval s.state.2 (check.run ctx budget (onClock s))
      (check.run ctx budget s) :=
  pollFrom_endsAs _ _ s

/-! ## Runs over a sequence of outcomes -/

/-- On a clock that goes on, every sequence of outcomes leaves behind what `Ran` says. -/
theorem exists_run_clock (check : Check ω α β) (r : Nat → Except Failure (α × β))
    (ctx : Context) (budget : Budget) (clock : Clock) (journal : List Record) :
    ∃ o k after written,
      (check.replaying r).run ctx budget ⟨(0, clock), journal⟩
        = Act.ofExcept o ⟨(k, after), written⟩ ∧
      Ran check r (check.budget.getD budget) o k clock after := by
  obtain ⟨⟨⟨n, after⟩, written⟩, k, hlast, hrun, hclock, hreached⟩ :=
    run_follows (follows_replaying check r) ctx budget ⟨(0, clock), journal⟩ rfl
  obtain rfl : n = k := hreached.eq_of_counts
  obtain rfl : after = clock.sleepTimes (n - 1) (check.budget.getD budget).interval := hclock
  have hlast : LastProbe check.agrees r 0 (check.budget.getD budget).attempts n := hlast
  exact ⟨check.verdict n (r n), n, _, written, hrun, hlast.ran clock⟩

/-- Every sequence of outcomes, under every budget, leaves what `Ran` says behind: the
number of probes made, which the state counts, the end of the run, and the sleeps.

So it does on a paused clock, if the time after the run is a duration.  Otherwise the run
breaks off. -/
theorem run_replaying (check : Check ω α β) (r : Nat → Except Failure (α × β)) (ctx : Context)
    (budget : Budget) (journal : List Record) :
    (∀ clock : Clock, ∃ o k after written,
      (check.replaying r).run ctx budget ⟨(0, clock), journal⟩
        = Act.ofExcept o ⟨(k, after), written⟩ ∧
      Ran check r (check.budget.getD budget) o k clock after) ∧
    ∀ clock : PausedClock, ∃ o k after,
      Ran check r (check.budget.getD budget) o k clock.toClock after ∧
      (after.elapsed < Duration.limit ∧
          (∃ paused written, paused.toClock = after ∧
            (check.replaying r).run ctx budget ⟨(0, clock), journal⟩
              = Act.ofExcept (o.mapError Halt.failed) ⟨(k, paused), written⟩) ∨
        Duration.limit ≤ after.elapsed ∧
          ∃ n t, (check.replaying r).run ctx budget ⟨(0, clock), journal⟩
              = .error (.panicked Duration.overflowText) t ∧
            BrokeOff (check.budget.getD budget).interval n clock t.state.2 after) := by
  refine ⟨fun clock => exists_run_clock check r ctx budget clock journal, fun clock => ?_⟩
  obtain ⟨o, k, after, written, hrun, hran⟩ :=
    exists_run_clock check r ctx budget clock.toClock journal
  refine ⟨o, k, after, hran, ?_⟩
  have hends : EndsAs (check.budget.getD budget).interval clock
      ((check.replaying r).run ctx budget ⟨(0, clock.toClock), journal⟩)
      ((check.replaying r).run ctx budget ⟨(0, clock), journal⟩) :=
    run_endsAs (check.replaying r) ctx budget ⟨(0, clock), journal⟩
  cases hends with
  | alike o' t hfree hpaused =>
      obtain ⟨rfl, ht⟩ := Act.ofExcept_inj (hrun.symm.trans hfree)
      cases ht
      exact .inl ⟨t.state.2.elapsed.nanos_lt, t.state.2, t.journal, rfl, hpaused⟩
  | brokeOff o' u n t hfree hpaused hbroke =>
      obtain ⟨rfl, ht⟩ := Act.ofExcept_inj (hrun.symm.trans hfree)
      cases ht
      exact .inr ⟨Nat.le_trans hbroke.full hbroke.le_later, n, t, hpaused, hbroke⟩

end Check

end Concord
