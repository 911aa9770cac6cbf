import Concord.Key.Wire

/-!
# Reading fields back

What is written in front of other bytes is read off them and leaves the others
(`readVarint_writeVarint`, `readKey_writeKey`, `readBytes_writeDelimited`).

A message is read by merging its fields.  `Merges step a bytes b` says that a step takes
`a` to `b` along some bytes, field by field and whatever comes behind them.  Such bytes are
merged as a whole, with a length in front of them (`readDelimited_of_merges`) and without
one (`mergeFields_of_merges`).
-/

namespace Concord.Key

open Concord.Text

/-! ## Numbers -/

theorem writeVarint_of_lt {n : Nat} (h : n < 128) : writeVarint n = [UInt8.ofNat n] := by
  rw [writeVarint, if_pos h]

theorem writeVarint_of_le {n : Nat} (h : 128 ≤ n) :
    writeVarint n = UInt8.ofNat (n % 128 + 128) :: writeVarint (n / 128) := by
  rw [writeVarint, if_neg (Nat.not_lt.2 h)]

theorem length_writeVarint_pos (n : Nat) : 0 < (writeVarint n).length := by
  by_cases h : n < 128
  · rw [writeVarint_of_lt h]
    exact Nat.one_pos
  · rw [writeVarint_of_le (Nat.le_of_not_lt h)]
    exact Nat.succ_pos _

/-- A digit without the high bit ends a number.  If it is the tenth one bit of it fits. -/
theorem readDigits_end {left n : Nat} (h : n < 128) (hbit : left = 0 → n < 2)
    (rest : List UInt8) :
    readDigits (left + 1) (UInt8.ofNat n :: rest) = some (n, rest) := by
  have hvalue : (UInt8.ofNat n).toNat = n :=
    UInt8.toNat_ofNat_of_lt' (Nat.lt_trans h (by decide))
  have hdigit : UInt8.ofNat n < 128 := by
    rw [UInt8.lt_iff_toNat_lt, hvalue]
    exact h
  have hfits : ¬ (left = 0 ∧ (2 : UInt8) ≤ UInt8.ofNat n) := by
    rintro ⟨hleft, hle⟩
    rw [UInt8.le_iff_toNat_le, hvalue] at hle
    exact Nat.not_le.2 (hbit hleft) hle
  rw [readDigits, if_pos hdigit, if_neg hfits, hvalue]

/-- A digit with the high bit is the least of a number that goes on. -/
theorem readDigits_more {left d n : Nat} {bytes rest : List UInt8} (h : d < 128)
    (hrest : readDigits left bytes = some (n, rest)) :
    readDigits (left + 1) (UInt8.ofNat (d + 128) :: bytes) = some (d + 128 * n, rest) := by
  have hvalue : (UInt8.ofNat (d + 128)).toNat = d + 128 :=
    UInt8.toNat_ofNat_of_lt' (Nat.add_lt_add_right h 128)
  have hdigit : ¬ UInt8.ofNat (d + 128) < 128 := by
    rw [UInt8.lt_iff_toNat_lt, hvalue]
    exact Nat.not_lt.2 (Nat.le_add_left 128 d)
  rw [readDigits, if_neg hdigit, hrest, hvalue]
  simp only [Nat.add_sub_cancel]

/-- How many numbers can be written in a number of digits behind which one bit is left. -/
def capacity : (digits : Nat) → Nat
  | 0 => 2
  | digits + 1 => 128 * capacity digits

theorem lt_capacity (n : Nat) : n < capacity n := by
  induction n with
  | zero => decide
  | succ n ih =>
      rw [capacity]
      omega

/-- A number is read by as many digits as it may have. -/
theorem readDigits_writeVarint (left : Nat) :
    ∀ {n : Nat} (rest : List UInt8), n < capacity left →
      readDigits (left + 1) (writeVarint n ++ rest) = some (n, rest) := by
  induction left with
  | zero =>
      intro n rest h
      have hn : n < 2 := h
      rw [writeVarint_of_lt (by omega)]
      exact readDigits_end (by omega) (fun _ => hn) rest
  | succ left ih =>
      intro n rest h
      by_cases hn : n < 128
      · rw [writeVarint_of_lt hn]
        exact readDigits_end hn (fun hleft => by cases hleft) rest
      · have hquotient : n / 128 < capacity left := by
          rw [capacity] at h
          omega
        have hread := readDigits_more (Nat.mod_lt n (by decide)) (ih rest hquotient)
        rw [Nat.mod_add_div] at hread
        rw [writeVarint_of_le (Nat.le_of_not_lt hn)]
        exact hread

theorem readVarint_writeVarint {n : Nat} (h : n < UInt64.size) (rest : List UInt8) :
    readVarint (writeVarint n ++ rest) = .ok (n, rest) := by
  rw [readVarint, readDigits_writeVarint 9 rest h]

/-! ## Keys of fields -/

theorem length_writeKey_pos (key : FieldKey) : 0 < (writeKey key).length :=
  length_writeVarint_pos _

/-- The key of a field of one of the first tags is one byte. -/
theorem writeKey_of_lt {key : FieldKey} (h : key.tag < 16) :
    writeKey key = [UInt8.ofNat (key.tag * 8 + key.form.code)] := by
  have hcode := key.form.code_lt
  rw [writeKey, writeVarint_of_lt (by omega)]

theorem readKey_writeKey {key : FieldKey} (hpos : 0 < key.tag)
    (h : key.tag * 8 + 7 ≤ maxUnsigned32) (rest : List UInt8) :
    readKey (writeKey key ++ rest) = .ok (key, rest) := by
  have hcode := key.form.code_lt
  have hform : (key.tag * 8 + key.form.code) % 8 = key.form.code := by omega
  have htag : (key.tag * 8 + key.form.code) / 8 = key.tag := by omega
  have hmax : ¬ maxUnsigned32 < key.tag * 8 + key.form.code := by omega
  have hsize : key.tag * 8 + key.form.code < UInt64.size :=
    Nat.lt_of_le_of_lt (Nat.le_of_not_lt hmax) (by decide)
  rw [readKey, writeKey, readVarint_writeVarint hsize]
  simp only [hmax, if_false, hform, WireForm.ofCode?_code, htag, Nat.ne_of_gt hpos]

/-! ## Values of fields -/

theorem readBytes_writeDelimited {bytes : List UInt8} (h : bytes.length < UInt64.size)
    (rest : List UInt8) : readBytes (writeDelimited bytes ++ rest) = .ok (bytes, rest) := by
  have hlength : ¬ (bytes ++ rest).length < bytes.length := by
    rw [List.length_append]
    omega
  rw [readBytes, writeDelimited, List.append_assoc, readVarint_writeVarint h]
  simp only [hlength, if_false, List.take_left, List.drop_left]

theorem length_writeDelimited (bytes : List UInt8) :
    (writeDelimited bytes).length = (writeVarint bytes.length).length + bytes.length := by
  rw [writeDelimited, List.length_append]

/-! ## Merging fields -/

section

variable {α : Type} {step : α → List UInt8 → WireResult α}

/-- A step takes a value to another along a field, whatever comes behind it. -/
def Takes (step : α → List UInt8 → WireResult α) (a : α) (field : List UInt8) (b : α) : Prop :=
  ∀ rest, step a (field ++ rest) = .ok (b, rest)

/-- A step takes a value to another along the fields that some bytes are made of. -/
inductive Merges (step : α → List UInt8 → WireResult α) : α → List UInt8 → α → Prop where
  | nil {a} : Merges step a [] a
  | cons {a b c field bytes} (hpos : 0 < field.length) (htake : Takes step a field b)
      (hrest : Merges step b bytes c) : Merges step a (field ++ bytes) c

theorem Takes.merges {a b : α} {field : List UInt8} (h : Takes step a field b)
    (hpos : 0 < field.length) : Merges step a field b := by
  have hcons : Merges step a (field ++ []) b := .cons hpos h .nil
  rwa [List.append_nil] at hcons

theorem Merges.append {a b c : α} {bytes more : List UInt8} (h : Merges step a bytes b)
    (hmore : Merges step b more c) : Merges step a (bytes ++ more) c := by
  induction h with
  | nil => exact hmore
  | cons hpos htake _ ih =>
      rw [List.append_assoc]
      exact .cons hpos htake (ih hmore)

/-- Fields that merge are merged up to what comes behind them. -/
theorem mergeFields_of_merges {a b : α} {bytes : List UInt8} (h : Merges step a bytes b)
    (rest : List UInt8) :
    ∀ {fuel : Nat}, bytes.length ≤ fuel →
      mergeFields step rest.length fuel a (bytes ++ rest) = .ok (b, rest) := by
  induction h with
  | nil =>
      intro fuel _
      cases fuel with
      | zero => rfl
      | succ fuel => rw [List.nil_append, mergeFields, if_pos (Nat.le_refl _)]
  | @cons a b c field bytes hpos htake _ ih =>
      intro fuel hfuel
      rw [List.length_append] at hfuel
      cases fuel with
      | zero => omega
      | succ fuel =>
          have hmore : ¬ (field ++ (bytes ++ rest)).length ≤ rest.length := by
            rw [List.length_append, List.length_append]
            omega
          -- A field takes a byte at least, so what is left of the fuel covers the others.
          rw [List.append_assoc, mergeFields, if_neg hmore, htake]
          exact ih (by omega)

theorem readDelimited_of_merges {a b : α} {bytes : List UInt8} (h : Merges step a bytes b)
    (hlength : bytes.length < UInt64.size) (rest : List UInt8) :
    readDelimited step a (writeDelimited bytes ++ rest) = .ok (b, rest) := by
  have hsum : (bytes ++ rest).length = bytes.length + rest.length := List.length_append
  have hlimit : (bytes ++ rest).length - bytes.length = rest.length := by omega
  have hunder : ¬ (bytes ++ rest).length < bytes.length := by omega
  have hmerge : mergeFields step rest.length (bytes ++ rest).length a (bytes ++ rest)
      = .ok (b, rest) := mergeFields_of_merges h rest (by omega)
  rw [readDelimited, writeDelimited, List.append_assoc, readVarint_writeVarint hlength]
  simp only [hunder, if_false, hlimit, hmerge, if_true]

end

end Concord.Key
