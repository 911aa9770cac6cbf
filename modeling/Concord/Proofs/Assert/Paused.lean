import Concord.Assert.Fees
import Concord.Assert.Key
import Concord.Proofs.Poll.Paused

/-!
# Assertions on a paused clock

What is known of an assertion on a clock that goes on is known of it on a paused clock, too:
it ends there as it does on the clock that shows the same and goes on, unless the sleeps are
more than the paused clock can hold and it breaks off (`verifyKey_endsAs`, `verifyFees_endsAs`).
What an assertion does beside the clock is the same on both (`EndsAs.beside`).
-/

namespace Concord

open PausedClock

variable {ω σ μ α : Type} {d : Duration}

/-! ## Beside the clock -/

/-- An action beside the clock leaves both clocks alone. -/
theorem PausedClock.EndsAs.beside {act : Act ω Failure α}
    {free : α → Act (ω × Clock) Failure Unit} {paused : α → Act (ω × PausedClock) Halt Unit}
    {s : Traced (ω × PausedClock)}
    (hrest : ∀ a w journal, EndsAs d s.state.2 (free a (onClock ⟨(w, s.state.2), journal⟩))
      (paused a ⟨(w, s.state.2), journal⟩)) :
    EndsAs d s.state.2 ((Timer.beside act >>= free) (onClock s))
      ((Timer.beside act >>= paused) s) := by
  cases hact : act ⟨s.state.1, s.journal⟩ with
  | ok a t =>
      have hfree : (Timer.beside act : Act (ω × Clock) Failure α) (onClock s)
          = .ok a (onClock ⟨(t.state, s.state.2), t.journal⟩) :=
        Act.within_ok (Act.mapError_ok hact)
      have hpaused : (Timer.beside act : Act (ω × PausedClock) Halt α) s
          = .ok a ⟨(t.state, s.state.2), t.journal⟩ :=
        Act.within_ok (Act.mapError_ok hact)
      rw [Act.bind_ok hfree, Act.bind_ok hpaused]
      exact hrest a t.state t.journal
  | error e t =>
      have hfree : (Timer.beside act : Act (ω × Clock) Failure α) (onClock s)
          = .error e (onClock ⟨(t.state, s.state.2), t.journal⟩) :=
        Act.within_error (Act.mapError_error hact)
      have hpaused : (Timer.beside act : Act (ω × PausedClock) Halt α) s
          = .error (.failed e) ⟨(t.state, s.state.2), t.journal⟩ :=
        Act.within_error (Act.mapError_error hact)
      rw [Act.bind_error hfree, Act.bind_error hpaused]
      exact .alike (.error e) _ rfl rfl

theorem PausedClock.endsAs_fail (f : Failure) (s : Traced (ω × PausedClock)) :
    EndsAs d s.state.2 (Timer.fail f (onClock s)) (Timer.fail f s) :=
  .alike (.error f) s rfl rfl

/-! ## Assertions -/

variable (c : ConsensusReader σ) (m : MirrorReader μ) (ctx : Context) (budget : Budget)
  (s : Traced ((σ × μ) × PausedClock))

/-- The assertion that an entity carries a key ends on a paused clock as on one that goes on,
or breaks off. -/
theorem verifyKey_endsAs (e : Entity) (expected : String) :
    EndsAs budget.interval s.state.2 (verifyKey c m ctx budget e expected (onClock s))
      (verifyKey c m ctx budget e expected s) := by
  refine EndsAs.beside fun expected w journal =>
    EndsAs.beside (s := ⟨(w, s.state.2), journal⟩) fun observed w journal => ?_
  by_cases h : keyExpected expected observed = true
  · simp only [h, if_true]
    exact Check.run_endsAs (keyCheck c m ctx e expected) ctx budget ⟨(w, s.state.2), journal⟩
  · simp only [h]
    exact endsAs_fail _ ⟨(w, s.state.2), journal⟩

/-- So does the assertion that a token has a schedule of fees. -/
theorem verifyFees_endsAs (token : String) (expected : List CustomFee) :
    EndsAs budget.interval s.state.2 (verifyFees c m ctx budget token expected (onClock s))
      (verifyFees c m ctx budget token expected s) := by
  refine EndsAs.beside fun observed w journal => ?_
  by_cases h : sameFees expected observed = true
  · simp only [h, if_true]
    exact Check.run_endsAs (feesCheck c m ctx token expected) ctx budget
      ⟨(w, s.state.2), journal⟩
  · simp only [h]
    exact endsAs_fail _ ⟨(w, s.state.2), journal⟩

end Concord
