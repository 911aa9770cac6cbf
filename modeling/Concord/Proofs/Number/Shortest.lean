import Concord.Number.Binary64

/-!
# Shortest decimals are not zero

Zero rounds to no magnitude but zero (`roundsTo_zero`), so no decimal that is found for another
magnitude is zero, and neither is the shortest (`shortest_ne_zero`).
-/

namespace Concord.Number

variable {d : Dyadic}

/-! ## Rounding -/

/-- A scaled number is above zero if the number is. -/
theorem scale_pos {n : Nat} (h : 0 < n) (e : Int) :
    0 < (if 0 ≤ e then (n * Nat.pow 2 e.toNat, 1) else (n, Nat.pow 2 (-e).toNat)).1 := by
  split
  · exact Nat.mul_pos h (Nat.pow_pos (by decide))
  · exact h

theorem roundsTo_zero (h : d.significand ≠ 0) (power : Int) : roundsTo d 0 power = false := by
  unfold roundsTo
  extract_lets dec scale atBinade low high below
  have hdec : dec.1 = 0 ∧ 0 < dec.2 := by
    by_cases hpower : 0 ≤ power
    · rw [show dec = (0 * Nat.pow 10 power.toNat, 1) from if_pos hpower]
      exact ⟨Nat.zero_mul _, Nat.one_pos⟩
    · rw [show dec = (0, Nat.pow 10 (-power).toNat) from if_neg hpower]
      exact ⟨rfl, Nat.pow_pos (by decide)⟩
  have hlow : 0 < low.1 := by
    by_cases hbinade : atBinade
    · rw [show low = scale (4 * d.significand - 1) (d.exponent - 2) from if_pos hbinade]
      exact scale_pos (by omega) _
    · rw [show low = scale (2 * d.significand - 1) (d.exponent - 1) from if_neg hbinade]
      exact scale_pos (by omega) _
  have hbelow : below dec low = true := by
    show decide (dec.1 * low.2 < low.1 * dec.2) = true
    rw [hdec.1, Nat.zero_mul, decide_eq_true_iff]
    exact Nat.mul_pos hlow hdec.2
  have habove : below low dec = false := by
    show decide (low.1 * dec.2 < dec.1 * low.2) = false
    rw [hdec.1, Nat.zero_mul, decide_eq_false_iff_not]
    exact Nat.not_lt_zero _
  rw [hbelow, habove]
  split <;> rfl

theorem ne_zero_of_roundsTo (h : d.significand ≠ 0) {n : Nat} {power : Int}
    (hn : roundsTo d n power = true) : n ≠ 0 := by
  rintro rfl
  rw [roundsTo_zero h] at hn
  cases hn

/-! ## Decimals -/

theorem decimalOf_ne_zero (h : d.significand ≠ 0) {count : Nat} {r : Nat × Int}
    (hr : decimalOf d count = some r) : r.1 ≠ 0 := by
  unfold decimalOf at hr
  extract_lets ratio power scaled low nearest other at hr
  split at hr
  case isTrue hnearest =>
      cases hr
      exact ne_zero_of_roundsTo h hnearest
  case isFalse =>
      split at hr
      case isTrue hother =>
          cases hr
          exact ne_zero_of_roundsTo h hother
      case isFalse => cases hr

theorem shortestFrom_ne_zero (h : d.significand ≠ 0) (left count : Nat) :
    (shortestFrom d left count).1 ≠ 0 := by
  induction left generalizing count with
  | zero => exact h
  | succ left ih =>
      rw [shortestFrom]
      cases hr : decimalOf d count with
      | none => exact ih (count + 1)
      | some r => exact decimalOf_ne_zero h hr

/-- Zeros that are cut off the end leave something in front of them. -/
theorem stripZeros_ne_zero {n : Nat} (h : n ≠ 0) (left : Nat) (p : Int) :
    (stripZeros left (n, p)).1 ≠ 0 := by
  induction left generalizing n p with
  | zero => exact h
  | succ left ih =>
      rw [stripZeros]
      split
      case isTrue hzero => exact ih (by omega) (p + 1)
      case isFalse => exact h

theorem shortest_ne_zero (h : d.significand ≠ 0) : (shortest d).1 ≠ 0 := by
  rw [shortest, if_neg h]
  exact stripZeros_ne_zero (shortestFrom_ne_zero h 17 1) 18 _

end Concord.Number
