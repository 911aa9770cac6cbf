import Concord.Proofs.Text.Denotation
import Concord.Random.Seed

/-!
# Seeds that are read back

A text *denotes* a number as a seed when it holds a hexadecimal numeral, behind a plus sign or
none, behind a marker or none, and between any blanks (`DenotesSeed`).  It denotes one number at
most, and it is read as the seed that has this number (`readSeed_eq_some_iff`).  A number without
a seed is refused and never cut down to one.

The text that the journal has for a seed denotes the number of the seed, and so the seed is read
back from it (`readSeed_replays`).
-/

namespace Concord.Random

open Text

/-! ## Texts of seeds -/

/-- A text denotes a number behind a marker or none. -/
inductive SeedNumeral : List Char → Nat → Prop where
  | plain {cs n} (h : UnsignedNumeral 16 cs n) : SeedNumeral cs n
  | marked {cs n} (h : UnsignedNumeral 16 cs n) : SeedNumeral ('0' :: 'x' :: cs) n

/-- A text denotes a number as a seed, between blanks. -/
def DenotesSeed (text : String) (n : Nat) : Prop :=
  BetweenBlanks (fun cs => SeedNumeral cs n) text.toList

section

variable {cs : List Char} {n : Nat}

theorem SeedNumeral.isBlank (h : SeedNumeral cs n) : ∀ c ∈ cs, Text.isBlank c = false := by
  cases h with
  | plain h => exact h.isBlank
  | marked h => exact List.forall_mem_cons.2 ⟨rfl, List.forall_mem_cons.2 ⟨rfl, h.isBlank⟩⟩

/-- A numeral has no marker of its own, so that no more than one is left out. -/
theorem seedNumeral_iff : SeedNumeral cs n ↔ UnsignedNumeral 16 (dropHexMarker cs) n := by
  constructor
  · intro h
    cases h with
    | plain h => rwa [h.dropHexMarker]
    | marked h => exact h
  · intro h
    unfold dropHexMarker at h
    split at h
    case h_1 => exact .marked h
    case h_2 => exact .plain h

end

section

variable {text : String} {m n : Nat} {seed : UInt64}

theorem denotesSeed_iff :
    DenotesSeed text n ↔ UnsignedNumeral 16 (dropHexMarker (trimBlanks text.toList)) n := by
  rw [DenotesSeed, betweenBlanks_iff fun _ h => h.isBlank, seedNumeral_iff]

theorem DenotesSeed.unique (hm : DenotesSeed text m) (hn : DenotesSeed text n) : m = n :=
  (denotesSeed_iff.1 hm).unique (by decide) (denotesSeed_iff.1 hn)

/-! ## Reading -/

theorem le_maxUnsigned64_iff : n ≤ maxUnsigned64 ↔ n < 2 ^ 64 := by
  rw [maxUnsigned64]
  omega

/-- A text is read as the seed that has the number which it denotes. -/
theorem readSeed_eq_some_iff : readSeed text = some seed ↔ DenotesSeed text seed.toNat := by
  have hread : ∀ n, readUnsigned 16 maxUnsigned64 (dropHexMarker (trimBlanks text.toList)) = .ok n ↔
      DenotesSeed text n ∧ n < 2 ^ 64 := by
    intro n
    rw [readUnsigned_eq_ok_iff (by decide), ← denotesSeed_iff, le_maxUnsigned64_iff]
  rw [readSeed]
  constructor
  · intro h
    split at h
    case h_1 n hn =>
        obtain ⟨hdenotes, hlt⟩ := (hread n).1 hn
        obtain rfl : UInt64.ofNat n = seed := Option.some.inj h
        rwa [UInt64.toNat_ofNat_of_lt' hlt]
    case h_2 => cases h
  · intro h
    rw [(hread _).2 ⟨h, seed.toNat_lt⟩]
    exact congrArg some UInt64.ofNat_toNat

/-- A number with more than 64 bits is refused. -/
theorem readSeed_of_long (h : DenotesSeed text n) (hlong : 2 ^ 64 ≤ n) : readSeed text = none := by
  cases hread : readSeed text with
  | none => rfl
  | some seed =>
      have hn : seed.toNat = n := (readSeed_eq_some_iff.1 hread).unique h
      have hlt := seed.toNat_lt
      omega

end

/-! ## Writing -/

theorem numeral_seedDigits (seed : UInt64) : Numeral 16 (seedDigits seed).toList seed.toNat := by
  rw [seedDigits, String.toList_ofList]
  exact numeral_paddedHex (by decide) seed.toNat_lt

theorem denotesSeed_seedText (seed : UInt64) : DenotesSeed (seedText seed) seed.toNat := by
  have hnumeral : SeedNumeral ('0' :: 'x' :: (seedDigits seed).toList) seed.toNat :=
    .marked (.plain (numeral_seedDigits seed))
  have htext : (seedText seed).toList = [] ++ '0' :: 'x' :: (seedDigits seed).toList ++ [] := by
    rw [seedText, String.toList_append, List.append_nil]
    rfl
  rw [DenotesSeed, htext]
  exact .mk (by simp) hnumeral (by simp)

/-- The text of a seed, a marker and sixteen digits, is read as the seed.  A text is read as the
seed that has the number which it denotes, and a number beyond 64 bits is refused. -/
theorem readSeed_replays :
    (∀ seed, ∃ digits, seedText seed = "0x" ++ String.ofList digits ∧ digits.length = 16 ∧
      Numeral 16 digits seed.toNat ∧ readSeed (seedText seed) = some seed) ∧
    (∀ text seed, readSeed text = some seed ↔ DenotesSeed text seed.toNat) ∧
    ∀ text n, DenotesSeed text n → 2 ^ 64 ≤ n → readSeed text = none := by
  refine ⟨fun seed => ?_, fun _ _ => readSeed_eq_some_iff, fun _ _ => readSeed_of_long⟩
  have hdigits := numeral_seedDigits seed
  rw [seedDigits, String.toList_ofList] at hdigits
  exact ⟨paddedHex 16 seed.toNat, rfl, length_paddedHex _ _, hdigits,
    readSeed_eq_some_iff.2 (denotesSeed_seedText seed)⟩

/-- One more than the greatest seed, which has a digit more. -/
def longText : String := "0x10000000000000000"

theorem readSeed_replays_of_longText :
    DenotesSeed longText (2 ^ 64) ∧ 2 ^ 64 ≤ 2 ^ 64 ∧ readSeed longText = none := by
  have hdigits : Numeral 16 (paddedHex 17 (2 ^ 64)) (2 ^ 64) :=
    numeral_paddedHex (by decide) (by decide)
  have hdenotes : DenotesSeed longText (2 ^ 64) := by
    refine denotesSeed_iff.2 (.plain ?_)
    have htext : dropHexMarker (trimBlanks longText.toList) = paddedHex 17 (2 ^ 64) := by
      decide +kernel
    rwa [htext]
  exact ⟨hdenotes, Nat.le_refl _, readSeed_replays.2.2 longText _ hdenotes (Nat.le_refl _)⟩

/-- Zeros in front do not make a number long. -/
example : readSeed " 0x+000000000000000000DeadBeef " = some 0xdeadbeef := by
  decide +kernel

end Concord.Random
