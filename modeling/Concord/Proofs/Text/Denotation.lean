import Concord.Proofs.Text.Numeral
import Concord.Proofs.Text.Spelling
import Mathlib.Data.List.Forall2
import Mathlib.Data.Nat.Digits.Defs

/-!
# What numerals denote

A *numeral* in a base is one digit or more, letters in either case and any number of zeros in
front, and it denotes the number that its digits make up (`Numeral`).  A sign may stand in front
of a whole number (`SignedNumeral`), and a plus sign in front of a natural one
(`UnsignedNumeral`).  What is written with zeros in front denotes the number that was written, as
far as the digits suffice (`numeral_paddedHex`).

Readers of numerals take them for what they denote, whatever the limit (`magnitude_eq_ok_iff`,
`readSigned_eq_ok_iff`, `readUnsigned_eq_ok_iff`).  The limit is compared with every part that is
read, and not only with the whole; but no part denotes more than the whole does, so only numbers
beyond the limit are refused, and leading zeros play no part.
-/

namespace Concord.Text

/-! ## Digits of a base -/

section

variable {base other d : Nat} {c : Char}

/-- A character has the same value in every base that it is a digit of. -/
theorem digitValue?_of_lt (h : digitValue? base c = some d) (hd : d < other) :
    digitValue? other c = some d := by
  rw [digitValue?, Option.ite_none_right_eq_some] at h ⊢
  obtain ⟨hlt, heq⟩ := h
  split_ifs at hlt heq ⊢
  · exact ⟨Option.some.inj heq ▸ hd, heq⟩
  · exact ⟨Option.some.inj heq ▸ hd, heq⟩
  · exact ⟨Option.some.inj heq ▸ hd, heq⟩
  · exact absurd hlt (Nat.lt_irrefl base)

/-- The characters with a value are those of ASCII. -/
theorem toNat_lt_of_digitValue? (h : digitValue? base c = some d) : c.toNat < 128 := by
  rw [digitValue?, Option.ite_none_right_eq_some] at h
  obtain ⟨hlt, -⟩ := h
  split_ifs at hlt with hten hlower hupper
  · exact Nat.lt_of_le_of_lt (show c.toNat ≤ 57 from hten.2) (by decide)
  · exact Nat.lt_of_le_of_lt (show c.toNat ≤ 122 from hlower.2) (by decide)
  · exact Nat.lt_of_le_of_lt (show c.toNat ≤ 90 from hupper.2) (by decide)
  · exact absurd hlt (Nat.lt_irrefl base)

theorem DigitOf.digitValue? (h : DigitOf d c) (hd : d < base) :
    Text.digitValue? base c = some d :=
  digitValue?_of_lt (h.of_forall (p := fun e c => Text.digitValue? 16 c = some e) (by decide)) hd

theorem digitOf_of_digitValue? (hbase : base ≤ 16) (h : digitValue? base c = some d) :
    DigitOf d c := by
  have hall : ∀ n ∈ List.range 128, ∀ e ∈ List.range 16,
      digitValue? 16 (Char.ofNat n) = some e → (Char.ofNat n).toLower = Nat.digitChar e := by
    decide +kernel
  have hlt : d < 16 := Nat.lt_of_lt_of_le (digitValue?_lt h) hbase
  have hlower :=
    hall c.toNat (List.mem_range.2 (toNat_lt_of_digitValue? h)) d (List.mem_range.2 hlt)
  rw [Char.ofNat_toNat] at hlower
  exact ⟨hlt, hlower (digitValue?_of_lt h hlt)⟩

end

/-! ## Numerals -/

/-- Characters are the digits of a base that have some values, the most significant first. -/
abbrev Digits (base : Nat) (ds : List Nat) (cs : List Char) : Prop :=
  List.Forall₂ (fun d c => d < base ∧ DigitOf d c) ds cs

/-- One digit or more denote the number that they make up. -/
inductive Numeral (base : Nat) : List Char → Nat → Prop where
  | mk {ds cs} (hne : cs ≠ []) (hdigits : Digits base ds cs) :
      Numeral base cs (Nat.ofDigits base ds.reverse)

/-- A numeral denotes a whole number, alone or behind a sign. -/
inductive SignedNumeral (base : Nat) : List Char → Int → Prop where
  | plain {cs n} (h : Numeral base cs n) : SignedNumeral base cs (Int.ofNat n)
  | plus {cs n} (h : Numeral base cs n) : SignedNumeral base ('+' :: cs) (Int.ofNat n)
  | minus {cs n} (h : Numeral base cs n) : SignedNumeral base ('-' :: cs) (-Int.ofNat n)

section

variable {base limit acc n : Nat} {beyond : NumeralError} {ds : List Nat} {cs : List Char}

theorem Digits.allDigits (h : Digits base ds cs) : AllDigits cs := by
  induction h with
  | nil => exact fun c hc => absurd hc List.not_mem_nil
  | cons hdigit _ ih =>
      intro c hc
      rcases List.mem_cons.1 hc with rfl | hc
      · exact ⟨_, hdigit.2⟩
      · exact ih c hc

theorem Numeral.allDigits (h : Numeral base cs n) : AllDigits cs := by
  obtain ⟨-, hdigits⟩ := h
  exact hdigits.allDigits

theorem not_numeral_nil : ¬ Numeral base [] n := by
  rintro ⟨hne, -⟩
  exact hne rfl

/-- The first digit is no sign. -/
theorem Numeral.head_ne (h : Numeral base cs n) {c : Char} (hc : cs.head? = some c) :
    c ≠ '+' ∧ c ≠ '-' := by
  obtain ⟨d, hdigit⟩ := h.allDigits c (List.mem_of_mem_head? hc)
  exact hdigit.of_forall (p := fun _ c => c ≠ '+' ∧ c ≠ '-') (by decide)

/-- One digit in front adds its value in the place that it has. -/
theorem ofDigits_cons_reverse (base acc d : Nat) (ds : List Nat) :
    acc * base ^ (d :: ds).length + Nat.ofDigits base (d :: ds).reverse
      = (acc * base + d) * base ^ ds.length + Nat.ofDigits base ds.reverse := by
  rw [List.reverse_cons, Nat.ofDigits_append, Nat.ofDigits_singleton, List.length_reverse,
    List.length_cons]
  ring

/-- One more digit is read when it is one of the base and the part up to it is not too large. -/
theorem magnitude_cons_eq_ok_iff {c : Char} :
    magnitude base limit beyond acc (c :: cs) = .ok n ↔
      ∃ d, digitValue? base c = some d ∧ acc * base + d ≤ limit ∧
        magnitude base limit beyond (acc * base + d) cs = .ok n := by
  cases hd : digitValue? base c with
  | none => simp [magnitude, hd]
  | some d =>
      rw [magnitude_cons hd]
      split_ifs with hlimit
      · simp [hlimit]
      · simp [Nat.le_of_not_lt hlimit]

/-- Digits behind a part already read are read as what both make up, unless that is beyond the
limit. -/
theorem magnitude_eq_ok_iff (hbase : base ≤ 16) :
    magnitude base limit beyond acc cs = .ok n ↔
      ∃ ds, Digits base ds cs ∧ n = acc * base ^ ds.length + Nat.ofDigits base ds.reverse ∧
        (cs ≠ [] → n ≤ limit) := by
  induction cs generalizing acc with
  | nil =>
      constructor
      · intro h
        obtain rfl : acc = n := Except.ok.inj h
        exact ⟨[], .nil, by simp, fun hne => absurd rfl hne⟩
      · rintro ⟨ds, hdigits, rfl, -⟩
        obtain rfl : ds = [] := List.forall₂_nil_right_iff.1 hdigits
        simp [magnitude]
  | cons c cs ih =>
      rw [magnitude_cons_eq_ok_iff]
      constructor
      · rintro ⟨d, hd, hpart, h⟩
        obtain ⟨ds, hdigits, hn, hle⟩ := ih.1 h
        refine ⟨d :: ds, .cons ⟨digitValue?_lt hd, digitOf_of_digitValue? hbase hd⟩ hdigits,
          hn.trans (ofDigits_cons_reverse base acc d ds).symm, fun _ => ?_⟩
        by_cases hcs : cs = []
        · subst hcs
          obtain rfl : acc * base + d = n := Except.ok.inj h
          exact hpart
        · exact hle hcs
      · rintro ⟨es, hdigits, hn, hle⟩
        obtain ⟨d, ds, ⟨hd, hdigit⟩, hrest, rfl⟩ := List.forall₂_cons_right_iff.1 hdigits
        rw [ofDigits_cons_reverse] at hn
        have hlimit : n ≤ limit := hle (List.cons_ne_nil c cs)
        -- the part up to a digit is at most the whole
        have hpart : acc * base + d ≤ n := by
          rw [hn]
          exact Nat.le_add_right_of_le
            (Nat.le_mul_of_pos_right _ (Nat.pow_pos (Nat.zero_lt_of_lt hd)))
        exact ⟨d, hdigit.digitValue? hd, Nat.le_trans hpart hlimit,
          ih.2 ⟨ds, hrest, hn, fun _ => hlimit⟩⟩

theorem magnitude_eq_ok_iff_numeral (hbase : base ≤ 16) (hne : cs ≠ []) :
    magnitude base limit beyond 0 cs = .ok n ↔ Numeral base cs n ∧ n ≤ limit := by
  rw [magnitude_eq_ok_iff hbase]
  constructor
  · rintro ⟨ds, hdigits, hn, hle⟩
    rw [Nat.zero_mul, Nat.zero_add] at hn
    exact ⟨hn ▸ .mk hne hdigits, hle hne⟩
  · rintro ⟨hnumeral, hle⟩
    obtain ⟨-, hdigits⟩ := hnumeral
    exact ⟨_, hdigits, by rw [Nat.zero_mul, Nat.zero_add], fun _ => hle⟩

end

/-! ## Numbers with a sign -/

section

variable {base limit : Nat} {beyond : NumeralError} {cs : List Char} {n : Int}

theorem SignedNumeral.isBlank (h : SignedNumeral base cs n) :
    ∀ c ∈ cs, Text.isBlank c = false := by
  cases h with
  | plain h => exact h.allDigits.isBlank
  | plus h => exact List.forall_mem_cons.2 ⟨rfl, h.allDigits.isBlank⟩
  | minus h => exact List.forall_mem_cons.2 ⟨rfl, h.allDigits.isBlank⟩

theorem not_signedNumeral_nil : ¬ SignedNumeral base [] n := by
  intro h
  cases h with
  | plain h => exact not_numeral_nil h

theorem signedNumeral_plus_iff :
    SignedNumeral base ('+' :: cs) n ↔ ∃ k, Numeral base cs k ∧ Int.ofNat k = n := by
  constructor
  · intro h
    cases h with
    | plain h => exact absurd rfl (h.head_ne rfl).1
    | plus h => exact ⟨_, h, rfl⟩
  · rintro ⟨k, h, rfl⟩
    exact .plus h

theorem signedNumeral_minus_iff :
    SignedNumeral base ('-' :: cs) n ↔ ∃ k, Numeral base cs k ∧ -Int.ofNat k = n := by
  constructor
  · intro h
    cases h with
    | plain h => exact absurd rfl (h.head_ne rfl).2
    | minus h => exact ⟨_, h, rfl⟩
  · rintro ⟨k, h, rfl⟩
    exact .minus h

theorem signedNumeral_plain_iff {c : Char} (hplus : c ≠ '+') (hminus : c ≠ '-') :
    SignedNumeral base (c :: cs) n ↔ ∃ k, Numeral base (c :: cs) k ∧ Int.ofNat k = n := by
  constructor
  · intro h
    cases h with
    | plain h => exact ⟨_, h, rfl⟩
    | plus h => exact absurd rfl hplus
    | minus h => exact absurd rfl hminus
  · rintro ⟨k, h, rfl⟩
    exact .plain h

/-- What is made of the number that digits denote, given the range that the limit leaves. -/
theorem map_magnitude_eq_ok_iff (hbase : base ≤ 16) {f : Nat → Int} {low high : Int}
    (hrange : ∀ k, k ≤ limit ↔ low ≤ f k ∧ f k ≤ high) {c : Char} :
    (magnitude base limit beyond 0 (c :: cs)).map f = .ok n ↔
      (∃ k, Numeral base (c :: cs) k ∧ f k = n) ∧ low ≤ n ∧ n ≤ high := by
  have hread : ∀ k, magnitude base limit beyond 0 (c :: cs) = .ok k ↔
      Numeral base (c :: cs) k ∧ k ≤ limit := fun _ =>
    magnitude_eq_ok_iff_numeral hbase (List.cons_ne_nil c cs)
  constructor
  · intro h
    cases hm : magnitude base limit beyond 0 (c :: cs) with
    | error e =>
        rw [hm] at h
        cases h
    | ok k =>
        obtain ⟨hnumeral, hle⟩ := (hread k).1 hm
        rw [hm] at h
        cases h
        exact ⟨⟨k, hnumeral, rfl⟩, (hrange k).1 hle⟩
  · rintro ⟨⟨k, hnumeral, rfl⟩, hwithin⟩
    rw [(hread k).2 ⟨hnumeral, (hrange k).2 hwithin⟩, Except.map]

/-- A number with an optional sign is read as what it denotes if that lies within the limits, and
is refused otherwise. -/
theorem readSigned_eq_ok_iff {below above : Nat} (hbase : base ≤ 16) :
    readSigned base below above cs = .ok n ↔
      SignedNumeral base cs n ∧ -(below : Int) ≤ n ∧ n ≤ above := by
  have hup : ∀ k, k ≤ above ↔ -(below : Int) ≤ Int.ofNat k ∧ Int.ofNat k ≤ above := by
    intro k
    simp only [Int.ofNat_eq_natCast]
    omega
  have hdown : ∀ k, k ≤ below ↔ -(below : Int) ≤ -Int.ofNat k ∧ -Int.ofNat k ≤ above := by
    intro k
    simp only [Int.ofNat_eq_natCast]
    omega
  unfold readSigned
  split
  case h_1 => simp [not_signedNumeral_nil]
  case h_2 => simp [signedNumeral_plus_iff, not_numeral_nil]
  case h_3 => simp [signedNumeral_minus_iff, not_numeral_nil]
  case h_4 => rw [map_magnitude_eq_ok_iff hbase hup, signedNumeral_plus_iff]
  case h_5 => rw [map_magnitude_eq_ok_iff hbase hdown, signedNumeral_minus_iff]
  case h_6 c cs hplus hminus hplus' hminus' =>
      have hsign : c ≠ '+' ∧ c ≠ '-' := by
        cases cs with
        | nil => exact ⟨fun h => hplus h rfl, fun h => hminus h rfl⟩
        | cons d ds => exact ⟨fun h => hplus' d ds h rfl, fun h => hminus' d ds h rfl⟩
      rw [map_magnitude_eq_ok_iff hbase hup, signedNumeral_plain_iff hsign.1 hsign.2]

end

/-! ## Numbers without a minus sign -/

/-- A numeral denotes a natural number, alone or behind a plus sign. -/
inductive UnsignedNumeral (base : Nat) : List Char → Nat → Prop where
  | plain {cs n} (h : Numeral base cs n) : UnsignedNumeral base cs n
  | plus {cs n} (h : Numeral base cs n) : UnsignedNumeral base ('+' :: cs) n

section

variable {base limit : Nat} {cs : List Char} {m n : Nat}

theorem not_unsignedNumeral_nil : ¬ UnsignedNumeral base [] n := by
  intro h
  cases h with
  | plain h => exact not_numeral_nil h

theorem unsignedNumeral_plus_iff : UnsignedNumeral base ('+' :: cs) n ↔ Numeral base cs n := by
  constructor
  · intro h
    cases h with
    | plain h => exact absurd rfl (h.head_ne rfl).1
    | plus h => exact h
  · exact .plus

theorem unsignedNumeral_plain_iff {c : Char} (hplus : c ≠ '+') :
    UnsignedNumeral base (c :: cs) n ↔ Numeral base (c :: cs) n := by
  constructor
  · intro h
    cases h with
    | plain h => exact h
    | plus h => exact absurd rfl hplus
  · exact .plain

/-- A number that may have a plus sign is read as what it denotes if that lies within the limit,
and is refused otherwise. -/
theorem readUnsigned_eq_ok_iff (hbase : base ≤ 16) :
    readUnsigned base limit cs = .ok n ↔ UnsignedNumeral base cs n ∧ n ≤ limit := by
  unfold readUnsigned
  split
  case h_1 => simp [not_unsignedNumeral_nil]
  case h_2 => simp [unsignedNumeral_plus_iff, not_numeral_nil]
  case h_3 c cs =>
      rw [magnitude_eq_ok_iff_numeral hbase (List.cons_ne_nil c cs), unsignedNumeral_plus_iff]
  case h_4 c cs hplus hplus' =>
      have hsign : c ≠ '+' := by
        cases cs with
        | nil => exact fun h => hplus h rfl
        | cons d ds => exact fun h => hplus' d ds h rfl
      rw [magnitude_eq_ok_iff_numeral hbase (List.cons_ne_nil c cs),
        unsignedNumeral_plain_iff hsign]

/-- A text denotes one number at most, since it is read as that under any limit that the number
keeps. -/
theorem UnsignedNumeral.unique (hbase : base ≤ 16) (hm : UnsignedNumeral base cs m)
    (hn : UnsignedNumeral base cs n) : m = n := by
  have hread := (readUnsigned_eq_ok_iff hbase).2 ⟨hm, Nat.le_max_left m n⟩
  rw [(readUnsigned_eq_ok_iff hbase).2 ⟨hn, Nat.le_max_right m n⟩] at hread
  exact (Except.ok.inj hread).symm

/-- What holds of the plus sign and of all digits holds of all characters. -/
theorem UnsignedNumeral.of_forall {p : Char → Prop} (h : UnsignedNumeral base cs n)
    (hplus : p '+') (hdigit : ∀ d c, DigitOf d c → p c) : ∀ c ∈ cs, p c := by
  have hall : ∀ {ds}, Numeral base ds n → ∀ c ∈ ds, p c := by
    intro ds h c hc
    obtain ⟨d, hd⟩ := h.allDigits c hc
    exact hdigit d c hd
  cases h with
  | plain h => exact hall h
  | plus h => exact List.forall_mem_cons.2 ⟨hplus, hall h⟩

theorem UnsignedNumeral.isBlank (h : UnsignedNumeral base cs n) :
    ∀ c ∈ cs, Text.isBlank c = false :=
  h.of_forall rfl fun _ _ hd => hd.isBlank

theorem UnsignedNumeral.dropHexMarker (h : UnsignedNumeral base cs n) :
    Text.dropHexMarker cs = cs :=
  dropHexMarker_eq_self (h.of_forall (by decide) fun _ _ hd => hd.ne_x)

end

/-! ## Zeros in front -/

theorem exists_digits_paddedHex (width n : Nat) : ∃ ds, Digits 16 ds (paddedHex width n) ∧
    Nat.ofDigits 16 ds.reverse = n % 16 ^ width := by
  induction width generalizing n with
  | zero => exact ⟨[], .nil, by simp [Nat.mod_one]⟩
  | succ width ih =>
      obtain ⟨ds, hdigits, hvalue⟩ := ih (n / 16)
      have hlast : n % 16 < 16 := Nat.mod_lt n (by decide)
      refine ⟨ds ++ [n % 16],
        List.rel_append hdigits (.cons ⟨hlast, digitOf_digitChar hlast⟩ .nil), ?_⟩
      rw [List.reverse_append, List.reverse_singleton, List.singleton_append, Nat.ofDigits_cons,
        hvalue, Nat.pow_succ', Nat.mod_mul]

/-- Digits with zeros in front denote what they were written for, up to what the digits can
tell. -/
theorem numeral_paddedHex {width n : Nat} (hwidth : 0 < width) (hn : n < 16 ^ width) :
    Numeral 16 (paddedHex width n) n := by
  obtain ⟨ds, hdigits, hvalue⟩ := exists_digits_paddedHex width n
  rw [Nat.mod_eq_of_lt hn] at hvalue
  have hne : paddedHex width n ≠ [] := by
    intro h
    have hlength := length_paddedHex width n
    rw [h, List.length_nil] at hlength
    omega
  have h : Numeral 16 (paddedHex width n) (Nat.ofDigits 16 ds.reverse) := .mk hne hdigits
  rwa [hvalue] at h

end Concord.Text
