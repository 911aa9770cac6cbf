import Concord.Proofs.Key.Wire

/-!
# What reading takes

A number may be read from more digits than it needs, but never from fewer
(`readVarint_takes`).  So whatever is read takes at least the bytes that writing it again
would need, and a field that is skipped gives none back (`skipField_takes`).

`Frugal` says this of a step that merges a field into a value: what is written of the value
grows by no more than the bytes that the step takes, and the value stays within the budget
for nesting.  This passes from a step to all fields that are merged with it
(`Frugal.mergeFields`) and to a message behind its length (`Frugal.readDelimited`), as does
whatever a step keeps (`mergeFields_keeps`, `readDelimited_keeps`).
-/

namespace Concord.Key

open Concord.Text

/-! ## Results that are values -/

theorem exists_of_map_ok {ε α β : Type} {r : Except ε α} {f : α → β} {b : β}
    (h : r.map f = .ok b) : ∃ a, r = .ok a ∧ f a = b := by
  cases r with
  | error e => cases h
  | ok a =>
      cases h
      exact ⟨a, rfl, rfl⟩

theorem map_eq_ok_iff {ε α β : Type} {r : Except ε α} {f : α → β} {b : β} :
    r.map f = .ok b ↔ ∃ a, r = .ok a ∧ f a = b := by
  constructor
  · exact exists_of_map_ok
  · rintro ⟨a, rfl, rfl⟩
    rfl

theorem ok_of_inField {α : Type} {field : String} {r : Except WireError α} {a : α}
    (h : inField field r = .ok a) : r = .ok a := by
  cases r with
  | error e => cases h
  | ok b =>
      cases h
      rfl

/-! ## Sizes of numbers -/

/-- One more digit in front makes a number longer by one digit at most. -/
theorem length_writeVarint_digit {d : Nat} (h : d < 128) (n : Nat) :
    (writeVarint (d + 128 * n)).length ≤ 1 + (writeVarint n).length := by
  by_cases hshort : d + 128 * n < 128
  · rw [writeVarint_of_lt hshort, List.length_singleton]
    exact Nat.le_add_right 1 _
  · have hquotient : (d + 128 * n) / 128 = n := by omega
    rw [writeVarint_of_le (Nat.le_of_not_lt hshort), hquotient, List.length_cons]
    omega

theorem length_writeVarint_mono {n m : Nat} (h : n ≤ m) :
    (writeVarint n).length ≤ (writeVarint m).length := by
  induction m using Nat.strongRecOn generalizing n with
  | ind m ih =>
      by_cases hn : n < 128
      · rw [writeVarint_of_lt hn, List.length_singleton]
        exact length_writeVarint_pos m
      · have hm : 128 ≤ m := by omega
        have hrest := ih (m / 128) (by omega) (Nat.div_le_div_right (c := 128) h)
        rw [writeVarint_of_le (Nat.le_of_not_lt hn), writeVarint_of_le hm, List.length_cons,
          List.length_cons]
        omega

theorem length_writeVarint_add (n m : Nat) :
    (writeVarint (n + m)).length ≤ (writeVarint n).length + (writeVarint m).length := by
  have hn := length_writeVarint_pos n
  have hm := length_writeVarint_pos m
  -- The sum is at most twice the greater part, so one digit more is enough.
  have hmax : (writeVarint (n + m)).length ≤ 1 + (writeVarint (max n m)).length :=
    Nat.le_trans (length_writeVarint_mono (by omega))
      (length_writeVarint_digit (d := 0) (by decide) (max n m))
  rcases Nat.le_total n m with hle | hle
  · rw [Nat.max_eq_right hle] at hmax
    omega
  · rw [Nat.max_eq_left hle] at hmax
    omega

/-! ## Numbers and keys -/

theorem readDigits_takes (left : Nat) :
    ∀ {bytes rest : List UInt8} {n : Nat}, readDigits left bytes = some (n, rest) →
      (writeVarint n).length + rest.length ≤ bytes.length := by
  induction left with
  | zero =>
      intro bytes rest n h
      cases h
  | succ left ih =>
      intro bytes rest n h
      cases bytes with
      | nil => cases h
      | cons b tail =>
          have hbyte := b.toNat_lt
          rw [readDigits] at h
          split at h
          case isTrue hdigit =>
              rw [UInt8.lt_iff_toNat_lt] at hdigit
              split at h
              case isTrue => cases h
              case isFalse =>
                  cases h
                  rw [writeVarint_of_lt hdigit, List.length_singleton, List.length_cons]
                  omega
          case isFalse =>
              cases hmore : readDigits left tail with
              | none =>
                  rw [hmore] at h
                  cases h
              | some r =>
                  obtain ⟨m, behind⟩ := r
                  rw [hmore] at h
                  cases h
                  have htail := ih hmore
                  have hlonger := length_writeVarint_digit (d := b.toNat - 128) (by omega) m
                  rw [List.length_cons]
                  omega

theorem readVarint_takes {bytes rest : List UInt8} {n : Nat}
    (h : readVarint bytes = .ok (n, rest)) :
    (writeVarint n).length + rest.length ≤ bytes.length := by
  rw [readVarint] at h
  split at h
  case h_1 => cases h
  case h_2 r hread =>
      cases h
      exact readDigits_takes 10 hread

/-- What is read by some digits is no more than can be written in them. -/
theorem readDigits_lt (left : Nat) :
    ∀ {bytes rest : List UInt8} {n : Nat}, readDigits (left + 1) bytes = some (n, rest) →
      n < capacity left := by
  induction left with
  | zero =>
      intro bytes rest n h
      cases bytes with
      | nil => cases h
      | cons b tail =>
          rw [readDigits] at h
          split at h
          case isTrue =>
              split at h
              case isTrue => cases h
              case isFalse hbit =>
                  cases h
                  exact Nat.not_le.1 fun hle => hbit ⟨rfl, UInt8.le_iff_toNat_le.2 hle⟩
          case isFalse => cases h
  | succ left ih =>
      intro bytes rest n h
      cases bytes with
      | nil => cases h
      | cons b tail =>
          have hbyte := b.toNat_lt
          have hpos := lt_capacity left
          rw [readDigits] at h
          rw [capacity]
          split at h
          case isTrue hdigit =>
              rw [UInt8.lt_iff_toNat_lt] at hdigit
              have hlt : b.toNat < 128 := hdigit
              split at h
              case isTrue => cases h
              case isFalse =>
                  cases h
                  omega
          case isFalse =>
              cases hmore : readDigits (left + 1) tail with
              | none =>
                  rw [hmore] at h
                  cases h
              | some r =>
                  obtain ⟨m, behind⟩ := r
                  have htail := ih hmore
                  rw [hmore] at h
                  cases h
                  omega

/-- A number that is read fits 64 bits. -/
theorem readVarint_lt {bytes rest : List UInt8} {n : Nat}
    (h : readVarint bytes = .ok (n, rest)) : n < UInt64.size := by
  rw [readVarint] at h
  split at h
  case h_1 => cases h
  case h_2 r hread =>
      cases h
      exact readDigits_lt 9 hread

theorem readKey_takes {bytes rest : List UInt8} {key : FieldKey}
    (h : readKey bytes = .ok (key, rest)) : rest.length < bytes.length := by
  rw [readKey] at h
  split at h
  case h_1 => cases h
  case h_2 n behind hread =>
      have htakes := readVarint_takes hread
      have hpos := length_writeVarint_pos n
      split at h
      case isTrue => cases h
      case isFalse =>
          split at h
          case h_1 => cases h
          case h_2 form _ =>
              split at h
              case isTrue => cases h
              case isFalse =>
                  cases h
                  omega

/-! ## Values of fields -/

theorem readBytes_takes {bytes value rest : List UInt8}
    (h : readBytes bytes = .ok (value, rest)) :
    (writeDelimited value).length + rest.length ≤ bytes.length := by
  rw [readBytes] at h
  split at h
  case h_1 => cases h
  case h_2 n behind hread =>
      have htakes := readVarint_takes hread
      split at h
      case isTrue => cases h
      case isFalse hunder =>
          cases h
          have hvalue : (behind.take n).length = n := by
            rw [List.length_take]
            omega
          rw [length_writeDelimited, hvalue, List.length_drop]
          omega

theorem skipBytes_takes {n : Nat} {bytes rest : List UInt8}
    (h : skipBytes n bytes = .ok rest) : rest.length ≤ bytes.length := by
  rw [skipBytes] at h
  split at h
  case isTrue => cases h
  case isFalse =>
      cases h
      rw [List.length_drop]
      omega

theorem skipGroup_takes
    {skip : WireForm → Nat → List UInt8 → Except WireError (List UInt8)} {tag : Nat}
    (hskip : ∀ {form tag bytes rest}, skip form tag bytes = .ok rest →
      rest.length ≤ bytes.length) :
    ∀ {fuel : Nat} {bytes rest : List UInt8}, skipGroup skip tag fuel bytes = .ok rest →
      rest.length ≤ bytes.length := by
  intro fuel
  induction fuel with
  | zero =>
      intro bytes rest h
      cases h
  | succ fuel ih =>
      intro bytes rest h
      rw [skipGroup] at h
      split at h
      case h_1 => cases h
      case h_2 key behind hkey =>
          have htakes := readKey_takes hkey
          split at h
          case isTrue =>
              split at h
              case isTrue =>
                  cases h
                  exact Nat.le_of_lt htakes
              case isFalse => cases h
          case isFalse =>
              split at h
              case h_1 => cases h
              case h_2 left hfield =>
                  exact Nat.le_trans (ih h)
                    (Nat.le_trans (hskip hfield) (Nat.le_of_lt htakes))

/-- No byte is left of a skipped field that was not there. -/
theorem skipField_takes (budget : Nat) :
    ∀ {form : WireForm} {tag : Nat} {bytes rest : List UInt8},
      skipField budget form tag bytes = .ok rest → rest.length ≤ bytes.length := by
  induction budget with
  | zero =>
      intro form tag bytes rest h
      cases h
  | succ budget ih =>
      intro form tag bytes rest h
      cases form with
      | varint =>
          obtain ⟨⟨n, left⟩, hread, rfl⟩ := exists_of_map_ok h
          exact Nat.le_trans (Nat.le_add_left _ _) (readVarint_takes hread)
      | fixed64 => exact skipBytes_takes h
      | delimited =>
          rw [skipField] at h
          split at h
          case h_1 => cases h
          case h_2 n behind hread =>
              have htakes := readVarint_takes hread
              have hskip := skipBytes_takes h
              omega
      | groupStart => exact skipGroup_takes ih h
      | groupEnd => cases h
      | fixed32 => exact skipBytes_takes h

/-! ## Merging fields -/

section

variable {α : Type} {nest : α → Nat} {written : α → List UInt8} {budget : Nat}
  {step : α → List UInt8 → WireResult α}

/-- A step leaves values that nest within a budget there, and what is written of a value
grows by no more than the bytes that the step takes. -/
structure Frugal (nest : α → Nat) (written : α → List UInt8) (budget : Nat)
    (step : α → List UInt8 → WireResult α) : Prop where
  bound : ∀ {a b bytes rest}, nest a ≤ budget → step a bytes = .ok (b, rest) →
    nest b ≤ budget ∧ (written b).length + rest.length ≤ (written a).length + bytes.length

/-- What every field keeps, of the value and of the bytes left, all fields together keep. -/
theorem mergeFields_keeps {p : α → List UInt8 → Prop}
    (hstep : ∀ {a b bytes rest}, p a bytes → step a bytes = .ok (b, rest) → p b rest)
    {limit : Nat} : ∀ {fuel : Nat} {a b : α} {bytes rest : List UInt8}, p a bytes →
      mergeFields step limit fuel a bytes = .ok (b, rest) → p b rest := by
  intro fuel
  induction fuel with
  | zero =>
      intro a b bytes rest ha hmerge
      cases hmerge
      exact ha
  | succ fuel ih =>
      intro a b bytes rest ha hmerge
      rw [mergeFields] at hmerge
      split at hmerge
      case isTrue =>
          cases hmerge
          exact ha
      case isFalse =>
          split at hmerge
          case h_1 => cases hmerge
          case h_2 c left hfield => exact ih (hstep ha hfield) hmerge

/-- A message behind its length is merged up to where the length says that it ends. -/
theorem exists_of_readDelimited {a b : α} {bytes rest : List UInt8}
    (h : readDelimited step a bytes = .ok (b, rest)) :
    ∃ n tail, readVarint bytes = .ok (n, tail) ∧ n ≤ tail.length ∧
      mergeFields step (tail.length - n) tail.length a tail = .ok (b, rest) ∧
      rest.length = tail.length - n := by
  rw [readDelimited] at h
  split at h
  case h_1 => cases h
  case h_2 n tail hlength =>
      split at h
      case isTrue => cases h
      case isFalse hunder =>
          split at h
          case h_1 => cases h
          case h_2 c left hmerge =>
              split at h
              case isFalse => cases h
              case isTrue hend =>
                  cases h
                  exact ⟨n, tail, hlength, Nat.le_of_not_lt hunder, hmerge, hend⟩

/-- What every field keeps of a value, a message behind its length keeps. -/
theorem readDelimited_keeps {p : α → Prop}
    (hstep : ∀ {a b bytes rest}, p a → step a bytes = .ok (b, rest) → p b) {a b : α}
    {bytes rest : List UInt8} (ha : p a) (h : readDelimited step a bytes = .ok (b, rest)) :
    p b := by
  obtain ⟨n, tail, -, -, hmerge, -⟩ := exists_of_readDelimited h
  exact mergeFields_keeps (p := fun c _ => p c) hstep ha hmerge

theorem Frugal.mergeFields (h : Frugal nest written budget step) {limit fuel : Nat} {a b : α}
    {bytes rest : List UInt8} (ha : nest a ≤ budget)
    (hmerge : mergeFields step limit fuel a bytes = .ok (b, rest)) :
    nest b ≤ budget ∧
      (written b).length + rest.length ≤ (written a).length + bytes.length := by
  refine mergeFields_keeps (p := fun c left => nest c ≤ budget ∧
    (written c).length + left.length ≤ (written a).length + bytes.length) ?_
    ⟨ha, Nat.le_refl _⟩ hmerge
  rintro c d left left' ⟨hc, hsize⟩ hstep
  obtain ⟨hd, hgrow⟩ := h.bound hc hstep
  exact ⟨hd, by omega⟩

/-- What is read behind a length adds no more to a value than the length says.  The length fits
64 bits, and takes as many bytes as writing it does. -/
theorem Frugal.readDelimited (h : Frugal nest written budget step) {a b : α}
    {bytes rest : List UInt8} (ha : nest a ≤ budget)
    (hread : readDelimited step a bytes = .ok (b, rest)) :
    nest b ≤ budget ∧ ∃ n < UInt64.size, (written b).length ≤ (written a).length + n ∧
      (writeVarint n).length + n + rest.length ≤ bytes.length := by
  obtain ⟨n, tail, hlength, hunder, hmerge, hend⟩ := exists_of_readDelimited hread
  have htakes := readVarint_takes hlength
  obtain ⟨hb, hsize⟩ := h.mergeFields ha hmerge
  exact ⟨hb, n, readVarint_lt hlength, by omega, by omega⟩

end

end Concord.Key
