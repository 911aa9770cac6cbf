import Concord.Act
import Concord.Failure
import Concord.Poll.Duration

/-!
# Clocks

A run needs of a clock that it can sleep on it (`Timer`).  There are two kinds of clocks.

* A `Clock` comes to the end of every sleep, as real time does.
* A `PausedClock` moves only when something sleeps on it or it is moved, and a sleep on it
  takes no real time.  The time that it shows is a duration, so a sleep that is too long
  for it breaks the program off (`Halt.panicked`).

Both record the sleeps on them, so that what a run would have waited can be read off.
-/

namespace Concord

variable {ω κ ε α : Type}

/-! ## What a run needs of a clock -/

/-- A clock of a type `κ`, on which a run may end in an error of type `ε`. -/
class Timer (κ : Type) (ε : outParam Type) where
  /-- Sleeps for a time. -/
  sleep : Duration → Act κ ε Unit
  /-- The error that a failure is. -/
  ofFailure : Failure → ε

namespace Timer

variable [Timer κ ε]

/-- Ends in a failure. -/
def fail (f : Failure) : Act (ω × κ) ε α := throw (@ofFailure κ ε _ f)

/-- Runs an action beside the clock. -/
def beside (act : Act ω Failure α) : Act (ω × κ) ε α :=
  Act.within Part.first (Act.mapError (@ofFailure κ ε _) act)

end Timer

/-! ## Clocks that go on -/

/-- A clock on which every sleep comes to its end. -/
structure Clock where
  /-- The nanoseconds since the clock was made. -/
  elapsed : Nat
  /-- The sleeps on the clock, oldest first. -/
  sleeps : List Duration
  deriving Repr, DecidableEq

namespace Clock

/-- A clock that has just been made. -/
def fresh : Clock := ⟨0, []⟩

def sleep (c : Clock) (d : Duration) : Clock :=
  ⟨c.elapsed + d.nanos, c.sleeps ++ [d]⟩

@[simp] theorem elapsed_sleep (c : Clock) (d : Duration) :
    (c.sleep d).elapsed = c.elapsed + d.nanos := rfl

@[simp] theorem sleeps_sleep (c : Clock) (d : Duration) :
    (c.sleep d).sleeps = c.sleeps ++ [d] := rfl

instance : Timer Clock Failure where
  sleep d := Act.update fun c => c.sleep d
  ofFailure := id

/-- Failures stay what they are beside a clock that goes on. -/
theorem beside_eq_within (act : Act ω Failure α) :
    (Timer.beside act : Act (ω × Clock) Failure α) = Act.within Part.first act := by
  funext s
  rw [Timer.beside, Act.within, Act.within, Act.mapError]
  cases act ⟨Part.first.get s.state, s.journal⟩ <;> rfl

theorem beside_ofExcept (o : Except Failure α) (s : Traced (ω × Clock)) :
    (Timer.beside (Act.ofExcept o) : Act (ω × Clock) Failure α) s = Act.ofExcept o s := by
  cases o <;> rfl

end Clock

/-! ## Paused clocks -/

/-- How a run on a paused clock may end badly. -/
inductive Halt where
  /-- What the run is for failed. -/
  | failed (failure : Failure)
  /-- The program broke off. -/
  | panicked (text : String)
  deriving Repr, DecidableEq

/-- A clock that moves only when it is told to. -/
structure PausedClock where
  /-- The time since the clock was made. -/
  elapsed : Duration
  /-- The sleeps on the clock, oldest first. -/
  sleeps : List Duration
  deriving Repr, DecidableEq

namespace PausedClock

/-- A clock that has just been made. -/
def fresh : PausedClock := ⟨.zero, []⟩

/-- Moves a clock. -/
def advance (d : Duration) : Act PausedClock Halt Unit := do
  let c ← Act.state
  match c.elapsed.add? d with
  | some elapsed => Act.update fun c => { c with elapsed }
  | none => throw (.panicked Duration.overflowText)

/-- Sleeps on a clock.  The sleep is recorded before the clock moves. -/
def sleep (d : Duration) : Act PausedClock Halt Unit := do
  Act.update fun c => { c with sleeps := c.sleeps ++ [d] }
  advance d

instance : Timer PausedClock Halt where
  sleep := sleep
  ofFailure := .failed

theorem beside_ofExcept (o : Except Failure α) (s : Traced (ω × PausedClock)) :
    (Timer.beside (Act.ofExcept o) : Act (ω × PausedClock) Halt α) s
      = Act.ofExcept (o.mapError .failed) s := by
  cases o <;> rfl

/-- A sleep moves a clock whose time stays a duration. -/
theorem sleep_of_add? {s : Traced PausedClock} {d elapsed : Duration}
    (h : s.state.elapsed.add? d = some elapsed) :
    sleep d s = .ok () ⟨⟨elapsed, s.state.sleeps ++ [d]⟩, s.journal⟩ := by
  show (match s.state.elapsed.add? d with
    | some elapsed => Act.update fun c : PausedClock => { c with elapsed }
    | none => throw (.panicked Duration.overflowText) : Act PausedClock Halt Unit) _ = _
  rw [h]
  rfl

/-- A sleep that is too long is recorded, and the clock does not move. -/
theorem sleep_of_overflow {s : Traced PausedClock} {d : Duration}
    (h : s.state.elapsed.add? d = none) :
    sleep d s = .error (.panicked Duration.overflowText)
      ⟨⟨s.state.elapsed, s.state.sleeps ++ [d]⟩, s.journal⟩ := by
  show (match s.state.elapsed.add? d with
    | some elapsed => Act.update fun c : PausedClock => { c with elapsed }
    | none => throw (.panicked Duration.overflowText) : Act PausedClock Halt Unit) _ = _
  rw [h]
  rfl

end PausedClock

end Concord
