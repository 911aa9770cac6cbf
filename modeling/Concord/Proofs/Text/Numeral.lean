import Concord.Text.Blank
import Concord.Text.Numeral

/-!
# Reading numerals back

The digits of a number in decimal are never none, and the first of them is zero for zero only
(`head?_natDigits`).  Reading them under a limit that the number keeps gives the number
(`magnitude_natDigits`), and so it is for whole numbers with a sign (`readInt64_intDigits`).
Neither a digit nor the sign is blank (`trimBlanks_intDigits`).
-/

namespace Concord.Text

/-! ## Digits -/

theorem natDigits_ne_nil (n : Nat) : natDigits n ≠ [] := Nat.toDigits_ne_nil

theorem isDigit_of_mem_natDigits {c : Char} {n : Nat} (h : c ∈ natDigits n) : c.isDigit = true :=
  Nat.isDigit_of_mem_toDigits (by decide) (by decide) h

/-- The digits of a number with more than one are those of a tenth of it and one more. -/
theorem natDigits_of_ten_le {n : Nat} (h : 10 ≤ n) :
    natDigits n = natDigits (n / 10) ++ [Nat.digitChar (n % 10)] :=
  Nat.toDigits_of_base_le (by decide) h

theorem natDigits_of_lt_ten {n : Nat} (h : n < 10) : natDigits n = [Nat.digitChar n] :=
  Nat.toDigits_of_lt_base h

theorem head?_append {cs ds : List Char} (h : cs ≠ []) : (cs ++ ds).head? = cs.head? := by
  cases cs with
  | nil => exact absurd rfl h
  | cons c cs => rfl

theorem head?_natDigits {n : Nat} (h : (natDigits n).head? = some '0') : n = 0 := by
  induction n using Nat.strongRecOn with
  | ind n ih =>
      by_cases hn : n < 10
      · rw [natDigits_of_lt_ten hn, List.head?_cons] at h
        exact Nat.digitChar_eq_zero.1 (Option.some.inj h)
      · have hten : 10 ≤ n := Nat.le_of_not_lt hn
        rw [natDigits_of_ten_le hten, head?_append (natDigits_ne_nil _)] at h
        have htenth : n / 10 = 0 := ih (n / 10) (by omega) h
        omega

/-! ## Reading -/

theorem digitValue?_digitChar {d : Nat} (h : d < 10) :
    digitValue? 10 (Nat.digitChar d) = some d := by
  have hall : ∀ e ∈ List.range 10, digitValue? 10 (Nat.digitChar e) = some e := by decide
  exact hall d (List.mem_range.2 h)

theorem magnitude_cons {base limit acc d : Nat} {beyond : NumeralError} {c : Char}
    {cs : List Char} (h : digitValue? base c = some d) :
    magnitude base limit beyond acc (c :: cs)
      = if limit < acc * base + d then .error beyond
        else magnitude base limit beyond (acc * base + d) cs := by
  rw [magnitude, h]

/-- One digit more multiplies what is read by the base. -/
theorem magnitude_concat {limit acc m d : Nat} {beyond : NumeralError} {cs : List Char}
    (h : magnitude 10 limit beyond acc cs = .ok m) (hd : d < 10) (hlimit : m * 10 + d ≤ limit) :
    magnitude 10 limit beyond acc (cs ++ [Nat.digitChar d]) = .ok (m * 10 + d) := by
  induction cs generalizing acc with
  | nil =>
      obtain rfl : acc = m := Except.ok.inj h
      rw [List.nil_append, magnitude_cons (digitValue?_digitChar hd),
        if_neg (Nat.not_lt.2 hlimit), magnitude]
  | cons c cs ih =>
      cases he : digitValue? 10 c with
      | none =>
          rw [magnitude, he] at h
          cases h
      | some e =>
          rw [magnitude_cons he] at h
          rw [List.cons_append, magnitude_cons he]
          by_cases hbeyond : limit < acc * 10 + e
          · rw [if_pos hbeyond] at h
            cases h
          · rw [if_neg hbeyond] at h ⊢
            exact ih h

theorem magnitude_natDigits {limit n : Nat} (beyond : NumeralError) (h : n ≤ limit) :
    magnitude 10 limit beyond 0 (natDigits n) = .ok n := by
  induction n using Nat.strongRecOn with
  | ind n ih =>
      by_cases hn : n < 10
      · rw [natDigits_of_lt_ten hn]
        have hzero : magnitude 10 limit beyond 0 [] = .ok 0 := rfl
        simpa using magnitude_concat hzero hn (by omega)
      · have htenth := ih (n / 10) (by omega) (by omega)
        have hsplit : n / 10 * 10 + n % 10 = n := by omega
        rw [natDigits_of_ten_le (Nat.le_of_not_lt hn),
          magnitude_concat htenth (Nat.mod_lt n (by decide)) (hsplit.symm ▸ h), hsplit]

/-- The first digit of a number is no sign. -/
theorem exists_natDigits_eq_cons (n : Nat) :
    ∃ c cs, natDigits n = c :: cs ∧ c ≠ '+' ∧ c ≠ '-' := by
  cases hn : natDigits n with
  | nil => exact absurd hn (natDigits_ne_nil n)
  | cons c cs =>
      have hc : c.isDigit = true := isDigit_of_mem_natDigits (n := n) (hn ▸ List.mem_cons_self)
      refine ⟨c, cs, rfl, ?_, ?_⟩
      · rintro rfl
        cases hc
      · rintro rfl
        cases hc

theorem readSigned_natDigits {below above n : Nat} (h : n ≤ above) :
    readSigned 10 below above (natDigits n) = .ok (Int.ofNat n) := by
  have hread := magnitude_natDigits .tooLarge h
  obtain ⟨c, cs, hcs, hplus, hminus⟩ := exists_natDigits_eq_cons n
  rw [hcs] at hread ⊢
  unfold readSigned
  split
  case h_6 heq =>
      cases heq
      rw [hread]
      rfl
  all_goals
    rename_i heq
    cases heq
  · exact absurd rfl hplus
  · exact absurd rfl hminus
  · exact absurd rfl hplus
  · exact absurd rfl hminus

theorem readSigned_neg {below above n : Nat} (h : n ≤ below) :
    readSigned 10 below above ('-' :: natDigits n) = .ok (-Int.ofNat n) := by
  have hread := magnitude_natDigits .tooSmall h
  obtain ⟨c, cs, hcs, -⟩ := exists_natDigits_eq_cons n
  rw [hcs] at hread ⊢
  rw [readSigned, hread]
  rfl

/-- A number of 64 bits with a sign is read as it is written. -/
theorem readInt64_intDigits (n : Int64) : readInt64 (intDigits n.toInt) = .ok n.toInt := by
  have hlow : -(2 ^ 63) ≤ n.toInt := n.le_toInt
  have hhigh : n.toInt < 2 ^ 63 := n.toInt_lt
  cases hn : n.toInt with
  | ofNat k =>
      rw [hn] at hhigh
      have hk : (k : Int) < 2 ^ 63 := hhigh
      refine readSigned_natDigits ?_
      show k ≤ 2 ^ 63 - 1
      omega
  | negSucc k =>
      rw [hn] at hlow
      refine readSigned_neg ?_
      show k + 1 ≤ 2 ^ 63
      omega

/-! ## Blanks -/

theorem isBlank_of_mem_natDigits {c : Char} {n : Nat} (h : c ∈ natDigits n) :
    isBlank c = false := by
  have hc : 48 ≤ c.toNat ∧ c.toNat ≤ 57 := by
    simpa [Char.isDigit, UInt32.le_iff_toNat_le] using isDigit_of_mem_natDigits h
  simp only [isBlank, inRuns, blankRuns, List.any_cons, List.any_nil, Bool.or_false,
    Bool.or_eq_false_iff, Bool.and_eq_false_iff, decide_eq_false_iff_not]
  omega

theorem trimBlanks_intDigits (n : Int) : trimBlanks (intDigits n) = intDigits n := by
  have hall : ∀ c ∈ intDigits n, isBlank c = false := by
    cases n with
    | ofNat n => exact fun c => isBlank_of_mem_natDigits
    | negSucc n =>
        intro c hc
        rcases List.mem_cons.1 hc with rfl | hc
        · rfl
        · exact isBlank_of_mem_natDigits hc
  apply trimBlanks_eq_self
  · exact fun c hc => hall c (List.mem_of_mem_head? hc)
  · exact fun c hc => hall c (List.mem_of_mem_getLast? hc)

end Concord.Text
