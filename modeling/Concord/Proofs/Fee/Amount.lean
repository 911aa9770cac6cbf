import Concord.Fee.Custom
import Concord.Proofs.Json.Record
import Concord.Proofs.Text.Denotation

/-!
# Amounts are read exactly

A JSON value *states* a whole number as an amount when it is that number, or a text that holds
its decimal numeral between blanks, behind a sign or none (`StatesAmount`).

* *Exactness.*  A value is read as the number that it states if 64 bits hold that number, and
  every other value is refused (`readAmount_eq_ok_iff`).  Nothing is wrapped, rounded or cut off.
* *Places.*  The same holds of what stands in the place of an amount in a fee, which may be an
  object or a list.  An amount that may be absent is none where `null` stands or nothing does,
  and nowhere else (`get_maximumField_eq_ok_none_iff`).
-/

namespace Concord.Fee

open Json Text

/-! ## What a value states -/

/-- A value states a number as an amount. -/
inductive StatesAmount : Json → Int → Prop where
  | number (n : Int) : StatesAmount (.int n) n
  | text {s : String} {n : Int} (h : BetweenBlanks (SignedNumeral 10 · n) s.toList) :
      StatesAmount (.str s) n

/-- A number that 64 bits with a sign hold. -/
def Fits64 (n : Int) : Prop := -2 ^ 63 ≤ n ∧ n < 2 ^ 63

section

variable {v : Json} {a : Int64} {n k : Int} {s : String}

theorem fits64_iff : Fits64 n ↔ -Int.ofNat (maxSigned64 + 1) ≤ n ∧ n ≤ Int.ofNat maxSigned64 := by
  simp only [Fits64, maxSigned64, Int.ofNat_eq_natCast]
  omega

theorem fits64_toInt (a : Int64) : Fits64 a.toInt :=
  ⟨a.le_toInt, a.toInt_lt⟩

theorem toInt_ofInt_of_fits64 (h : Fits64 n) : (Int64.ofInt n).toInt = n :=
  Int64.toInt_ofInt_of_le h.1 h.2

theorem statesAmount_int_iff : StatesAmount (.int k) n ↔ k = n := by
  constructor
  · intro h
    cases h with
    | number => rfl
  · rintro rfl
    exact .number k

theorem statesAmount_str_iff :
    StatesAmount (.str s) n ↔ SignedNumeral 10 (trimBlanks s.toList) n := by
  rw [← betweenBlanks_iff (p := (SignedNumeral 10 · n)) fun _ h => h.isBlank]
  constructor
  · intro h
    cases h with
    | text h => exact h
  · exact .text

/-! ## Reading -/

theorem parseAmount_eq_ok_iff : parseAmount s = .ok a ↔ StatesAmount (.str s) a.toInt := by
  have hread (n : Int) : Text.readInt64 (trimBlanks s.toList) = .ok n ↔
      StatesAmount (.str s) n ∧ Fits64 n := by
    rw [Text.readInt64, readSigned_eq_ok_iff (by omega), statesAmount_str_iff, fits64_iff]
    rfl
  constructor
  · intro h
    rw [parseAmount] at h
    cases hn : Text.readInt64 (trimBlanks s.toList) with
    | error e =>
        rw [hn] at h
        cases h
    | ok n =>
        obtain ⟨hstates, hfits⟩ := (hread n).1 hn
        rw [hn] at h
        cases h
        rwa [toInt_ofInt_of_fits64 hfits]
  · intro h
    rw [parseAmount, (hread a.toInt).2 ⟨h, fits64_toInt a⟩, Except.map, Int64.ofInt_toInt]

/-- A value is read as an amount exactly when it states that amount. -/
theorem readAmount_eq_ok_iff : readAmount v = .ok a ↔ StatesAmount v a.toInt := by
  cases v with
  | int k =>
      rw [statesAmount_int_iff]
      constructor
      · intro h
        rw [readAmount] at h
        split_ifs at h with hfits
        cases h
        exact (toInt_ofInt_of_fits64 (fits64_iff.2 hfits)).symm
      · rintro rfl
        rw [readAmount, if_pos (fits64_iff.1 (fits64_toInt a)), Int64.ofInt_toInt]
  | str s =>
      rw [← parseAmount_eq_ok_iff, readAmount]
      cases parseAmount s with
      | ok n => simp
      | error e => simp
  | null | bool b | float x | arr vs | obj ms =>
      constructor
      · intro h
        cases h
      · intro h
        cases h

theorem exists_readAmount_iff :
    (∃ a, readAmount v = .ok a ∧ a.toInt = n) ↔ StatesAmount v n ∧ Fits64 n := by
  constructor
  · rintro ⟨a, hread, rfl⟩
    exact ⟨readAmount_eq_ok_iff.1 hread, fits64_toInt a⟩
  · rintro ⟨hstates, hfits⟩
    have hn := toInt_ofInt_of_fits64 hfits
    exact ⟨.ofInt n, readAmount_eq_ok_iff.2 (hn.symm ▸ hstates), hn⟩

/-- What a value is read as is the number that it states, and an error if it states none that
64 bits hold. -/
structure ReadsExactly (v : Json) (result : Except ShapeError Int64) : Prop where
  ok_iff (n : Int) : (∃ a, result = .ok a ∧ a.toInt = n) ↔ StatesAmount v n ∧ Fits64 n
  error_iff : (∃ e, result = .error e) ↔ ∀ n, StatesAmount v n → ¬ Fits64 n

theorem readsExactly_readAmount (v : Json) : ReadsExactly v (readAmount v) where
  ok_iff _ := exists_readAmount_iff
  error_iff := by
    constructor
    · rintro ⟨e, he⟩ n hstates hfits
      obtain ⟨a, ha, -⟩ := exists_readAmount_iff.2 ⟨hstates, hfits⟩
      cases he.symm.trans ha
    · intro h
      cases hread : readAmount v with
      | error e => exact ⟨e, rfl⟩
      | ok a => exact absurd (fits64_toInt a) (h _ (readAmount_eq_ok_iff.1 hread))

end

/-! ## The places of amounts -/

/-- The fields of amounts that are not optional. -/
def amountFields : List (RecordField Int64) :=
  [FixedFee.amountField, numeratorField, denominatorField, FractionalFee.minimumField]

theorem read_of_mem_amountFields {f : RecordField Int64} (hf : f ∈ amountFields) :
    f.read = readAmount := by
  simp only [amountFields, List.mem_cons, List.not_mem_nil, or_false] at hf
  rcases hf with rfl | rfl | rfl | rfl
  · rfl
  · rfl
  · rfl
  · rfl

section

variable {record : String} {size place : Nat} {source : Source}

theorem readOption_readAmount_eq_none_iff {v : Json} :
    readOption readAmount v = .ok none ↔ v = .null := by
  by_cases hv : v = .null
  · subst hv
    exact iff_of_true rfl rfl
  · rw [readOption_of_ne_null _ hv]
    cases readAmount v with
    | error e => simp [Except.map, hv]
    | ok a => simp [Except.map, hv]

theorem readOption_readAmount_eq_some_iff {v : Json} {a : Int64} :
    readOption readAmount v = .ok (some a) ↔ readAmount v = .ok a := by
  by_cases hv : v = .null
  · subst hv
    simp [readOption, readAmount]
  · rw [readOption_of_ne_null _ hv]
    cases readAmount v with
    | error e => simp [Except.map]
    | ok a => simp [Except.map]

theorem get_maximumField_eq_ok_none_iff :
    FractionalFee.maximumField.get record size place source = .ok none ↔
      source.value? "maximumAmount" place = none ∨
        source.value? "maximumAmount" place = some .null := by
  cases hv : source.value? "maximumAmount" place with
  | none =>
      rw [FractionalFee.maximumField.get_of_value?_eq_none hv rfl]
      simp
  | some v =>
      rw [FractionalFee.maximumField.get_of_value? hv]
      simp [FractionalFee.maximumField, readOption_readAmount_eq_none_iff]

theorem exists_get_maximumField_iff {n : Int} :
    (∃ a, FractionalFee.maximumField.get record size place source = .ok (some a) ∧ a.toInt = n) ↔
      ∃ v, source.value? "maximumAmount" place = some v ∧ StatesAmount v n ∧ Fits64 n := by
  cases hv : source.value? "maximumAmount" place with
  | none =>
      rw [FractionalFee.maximumField.get_of_value?_eq_none hv rfl]
      simp
  | some v =>
      rw [FractionalFee.maximumField.get_of_value? hv]
      simp only [FractionalFee.maximumField, readOption_readAmount_eq_some_iff,
        exists_readAmount_iff, Option.some.injEq, exists_eq_left']

end

/-- Amounts are read exactly or refused, alone and in the places that fees have for them. -/
theorem amounts_read_exactly :
    (∀ v, ReadsExactly v (readAmount v)) ∧
      (∀ f ∈ amountFields, ∀ record size place source v,
        source.value? f.name place = some v →
          ReadsExactly v (f.get record size place source)) ∧
      ∀ record size place source,
        (FractionalFee.maximumField.get record size place source = .ok none ↔
          source.value? "maximumAmount" place = none ∨
            source.value? "maximumAmount" place = some .null) ∧
        ∀ n, (∃ a, FractionalFee.maximumField.get record size place source = .ok (some a) ∧
            a.toInt = n) ↔
          ∃ v, source.value? "maximumAmount" place = some v ∧ StatesAmount v n ∧ Fits64 n := by
  refine ⟨readsExactly_readAmount, fun f hf record size place source v hv => ?_,
    fun record size place source =>
      ⟨get_maximumField_eq_ok_none_iff, fun n => exists_get_maximumField_iff⟩⟩
  rw [f.get_of_value? hv, read_of_mem_amountFields hf]
  exact readsExactly_readAmount v

/-- The least amount in the place of a fixed one, as a text with zeros in front of it. -/
theorem amounts_read_exactly_least :
    (∃ a, FixedFee.amountField.get "FixedFee" 2 0
        (.members [("amount", .str " -009223372036854775808\n")]) = .ok a ∧ a.toInt = -2 ^ 63) ∧
      StatesAmount (.str " -009223372036854775808\n") (-2 ^ 63) ∧ Fits64 (-2 ^ 63) := by
  have hread := amounts_read_exactly.2.1 FixedFee.amountField (by simp [amountFields]) "FixedFee" 2
    0 (.members [("amount", .str " -009223372036854775808\n")]) _ rfl
  have hleast : ∃ a, FixedFee.amountField.get "FixedFee" 2 0
      (.members [("amount", .str " -009223372036854775808\n")]) = .ok a ∧ a.toInt = -2 ^ 63 :=
    ⟨Int64.minValue, by decide +kernel, rfl⟩
  exact ⟨hleast, (hread.ok_iff _).1 hleast⟩

end Concord.Fee
