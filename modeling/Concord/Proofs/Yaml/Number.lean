import Concord.Proofs.Text.Denotation
import Concord.Yaml.Document

/-!
# Numbers of documents

A word denotes a number when it is digits in the base ten, without a zero in front that they could
do without, or digits in another base behind its letters (`NaturalDigits`), and a plus sign may
stand in front of either (`DenotesNatural`).  A word is read as the number that it denotes, up to a
limit, and no other word is read (`Document.numeral?_eq_some_iff`).
-/

namespace Concord.Yaml

open Concord.Text

/-! ## Digits in a base -/

/-- Digits denote a number, in the base ten or in that of the letters in front. -/
inductive NaturalDigits : List Char → Nat → Prop where
  /-- A zero in front of other digits is refused, not read. -/
  | decimal {cs n} (h : Numeral 10 cs n) (hzero : cs.head? = some '0' → cs = ['0']) :
      NaturalDigits cs n
  | hexadecimal {cs n} (h : Numeral 16 cs n) : NaturalDigits ('0' :: 'x' :: cs) n
  | octal {cs n} (h : Numeral 8 cs n) : NaturalDigits ('0' :: 'o' :: cs) n
  | binary {cs n} (h : Numeral 2 cs n) : NaturalDigits ('0' :: 'b' :: cs) n

/-- A text denotes a number, behind a plus sign or none. -/
inductive DenotesNatural : List Char → Nat → Prop where
  | plain {cs n} (h : NaturalDigits cs n) : DenotesNatural cs n
  | plus {cs n} (h : NaturalDigits cs n) : DenotesNatural ('+' :: cs) n

section

variable {base limit n : Nat} {cs : List Char} {x : Char}

theorem Document.unsigned?_eq_some_iff (hbase : base ≤ 16) :
    Document.unsigned? base limit cs = some n ↔ Numeral base cs n ∧ n ≤ limit := by
  have hread : (readUnsigned base limit cs).toOption = some n ↔
      UnsignedNumeral base cs n ∧ n ≤ limit := by
    rw [← readUnsigned_eq_ok_iff hbase]
    cases readUnsigned base limit cs <;> simp [Except.toOption]
  cases cs with
  | nil => simpa [Document.unsigned?, not_unsignedNumeral_nil, not_numeral_nil] using hread
  | cons c cs =>
      by_cases hplus : c = '+'
      · subst hplus
        constructor
        · intro h
          cases h
        · rintro ⟨h, -⟩
          exact absurd rfl (h.head_ne rfl).1
      · have hplain : Document.unsigned? base limit (c :: cs)
            = (readUnsigned base limit (c :: cs)).toOption := by
          unfold Document.unsigned?
          split
          case h_1 heq => exact absurd (List.cons.inj heq).1 hplus
          case h_2 => rfl
        rw [hplain, hread, unsignedNumeral_plain_iff hplus]

theorem isDigit_of_numeral (h : Numeral 10 cs n) : ∀ x ∈ cs, x.isDigit = true := by
  obtain ⟨-, hdigits⟩ := h
  induction hdigits with
  | nil => exact fun x hx => absurd hx List.not_mem_nil
  | cons hdigit _ ih =>
      refine List.forall_mem_cons.2 ⟨?_, ih⟩
      exact hdigit.2.of_forall (p := fun d x => d < 10 → x.isDigit = true) (by decide) hdigit.1

/-- A text with a character that is no decimal digit denotes no number in the base ten. -/
theorem Document.unsigned?_ten_eq_none (hx : x ∈ cs) (hdigit : x.isDigit = false) :
    Document.unsigned? 10 limit cs = none := by
  cases h : Document.unsigned? 10 limit cs with
  | none => rfl
  | some n =>
      have hnumeral := ((Document.unsigned?_eq_some_iff (by decide)).1 h).1
      rw [isDigit_of_numeral hnumeral x hx] at hdigit
      cases hdigit

/-- The letters of a base decide how the digits behind them are read. -/
theorem Document.numeral?_of_mem_bases (hmem : (['0', x], base) ∈ Document.bases) :
    Document.numeral? limit ('0' :: x :: cs) = Document.unsigned? base limit cs := by
  have hfallback : x.isDigit = false → Document.unsigned? 10 limit ('0' :: x :: cs) = none :=
    Document.unsigned?_ten_eq_none (by simp)
  simp only [Document.bases, List.mem_cons, Prod.mk.injEq, List.cons.injEq, true_and, and_true,
    List.not_mem_nil, or_false] at hmem
  rcases hmem with ⟨rfl, rfl⟩ | ⟨rfl, rfl⟩ | ⟨rfl, rfl⟩
  all_goals
    simp [Document.numeral?, Document.bases, List.findSome?_cons, hfallback]
    cases Document.unsigned? _ limit cs <;> rfl

/-- Without letters of a base, a text is read in the base ten. -/
theorem Document.numeral?_of_forall_ne (hplus : cs.head? ≠ some '+')
    (hbase : ∀ b ∈ Document.bases, ¬ b.1 <+: cs) :
    Document.numeral? limit cs
      = if Document.hasIdleZero cs then none else Document.unsigned? 10 limit cs := by
  have hnone : (Document.bases.findSome? fun b =>
      if b.1.isPrefixOf cs then Document.unsigned? b.2 limit (cs.drop b.1.length) else none)
        = none := by
    rw [List.findSome?_eq_none_iff]
    intro b hb
    simp [hbase b hb]
  unfold Document.numeral?
  split
  case h_1 => exact absurd rfl hplus
  case h_2 => simp only [hnone]

theorem hasIdleZero_eq_false_iff (h : Numeral 10 cs n) :
    Document.hasIdleZero cs = false ↔ (cs.head? = some '0' → cs = ['0']) := by
  have hall : cs.all Char.isDigit = true := List.all_eq_true.2 (isDigit_of_numeral h)
  obtain ⟨hne, -⟩ := h
  obtain ⟨c, cs, rfl⟩ := List.exists_cons_of_ne_nil hne
  cases cs with
  | nil => simp [Document.hasIdleZero]
  | cons d cs => simp [Document.hasIdleZero, hall]

/-- The texts of digits behind the letters of a base denote what the digits do in it. -/
theorem naturalDigits_iff_of_mem_bases (hmem : (['0', x], base) ∈ Document.bases) :
    NaturalDigits ('0' :: x :: cs) n ↔ Numeral base cs n := by
  simp only [Document.bases, List.mem_cons, Prod.mk.injEq, List.cons.injEq, true_and, and_true,
    List.not_mem_nil, or_false] at hmem
  constructor
  · intro h
    cases h with
    | decimal h =>
        have hdigit := isDigit_of_numeral h x (by simp)
        rcases hmem with ⟨rfl, -⟩ | ⟨rfl, -⟩ | ⟨rfl, -⟩ <;> cases hdigit
    | hexadecimal h =>
        obtain ⟨-, rfl⟩ : True ∧ base = 16 := by simpa using hmem
        exact h
    | octal h =>
        obtain ⟨-, rfl⟩ : True ∧ base = 8 := by simpa using hmem
        exact h
    | binary h =>
        obtain ⟨-, rfl⟩ : True ∧ base = 2 := by simpa using hmem
        exact h
  · intro h
    rcases hmem with ⟨rfl, rfl⟩ | ⟨rfl, rfl⟩ | ⟨rfl, rfl⟩
    · exact .hexadecimal h
    · exact .octal h
    · exact .binary h

theorem naturalDigits_iff_of_forall_ne (hbase : ∀ b ∈ Document.bases, ¬ b.1 <+: cs) :
    NaturalDigits cs n ↔ Numeral 10 cs n ∧ (cs.head? = some '0' → cs = ['0']) := by
  constructor
  · intro h
    cases h with
    | decimal h hzero => exact ⟨h, hzero⟩
    | hexadecimal => exact absurd ⟨_, rfl⟩ (hbase (['0', 'x'], 16) (by simp [Document.bases]))
    | octal => exact absurd ⟨_, rfl⟩ (hbase (['0', 'o'], 8) (by simp [Document.bases]))
    | binary => exact absurd ⟨_, rfl⟩ (hbase (['0', 'b'], 2) (by simp [Document.bases]))
  · rintro ⟨h, hzero⟩
    exact .decimal h hzero

theorem Document.numeral?_eq_some_iff_of_ne (hplus : cs.head? ≠ some '+') :
    Document.numeral? limit cs = some n ↔ NaturalDigits cs n ∧ n ≤ limit := by
  by_cases hbase : ∀ b ∈ Document.bases, ¬ b.1 <+: cs
  · rw [Document.numeral?_of_forall_ne hplus hbase, naturalDigits_iff_of_forall_ne hbase]
    constructor
    · intro h
      split_ifs at h with hidle
      obtain ⟨hnumeral, hle⟩ := (Document.unsigned?_eq_some_iff (by decide)).1 h
      have hzero := (hasIdleZero_eq_false_iff hnumeral).1 (Bool.eq_false_of_not_eq_true hidle)
      exact ⟨⟨hnumeral, hzero⟩, hle⟩
    · rintro ⟨⟨hnumeral, hzero⟩, hle⟩
      rw [(hasIdleZero_eq_false_iff hnumeral).2 hzero]
      exact (Document.unsigned?_eq_some_iff (by decide)).2 ⟨hnumeral, hle⟩
  · have hcases : ∃ x base ds, (['0', x], base) ∈ Document.bases ∧ base ≤ 16 ∧
        cs = '0' :: x :: ds := by
      simp only [Document.bases, List.mem_cons, List.not_mem_nil, or_false, forall_eq_or_imp,
        forall_eq, not_and_or, not_not] at hbase
      rcases hbase with ⟨ds, rfl⟩ | ⟨ds, rfl⟩ | ⟨ds, rfl⟩
      · exact ⟨'x', 16, ds, by simp [Document.bases], by decide, rfl⟩
      · exact ⟨'o', 8, ds, by simp [Document.bases], by decide, rfl⟩
      · exact ⟨'b', 2, ds, by simp [Document.bases], by decide, rfl⟩
    obtain ⟨x, base, ds, hmem, hle, rfl⟩ := hcases
    rw [Document.numeral?_of_mem_bases hmem, naturalDigits_iff_of_mem_bases hmem,
      Document.unsigned?_eq_some_iff hle]

theorem NaturalDigits.head_ne (h : NaturalDigits cs n) : cs.head? ≠ some '+' := by
  intro hplus
  cases h with
  | decimal h => exact (h.head_ne hplus).1 rfl
  | hexadecimal => cases hplus
  | octal => cases hplus
  | binary => cases hplus

/-- A text is read as the number that it denotes, up to a limit. -/
theorem Document.numeral?_eq_some_iff :
    Document.numeral? limit cs = some n ↔ DenotesNatural cs n ∧ n ≤ limit := by
  by_cases hplus : cs.head? = some '+'
  · obtain ⟨ds, rfl⟩ := List.head?_eq_some_iff.1 hplus
    have hdenotes : DenotesNatural ('+' :: ds) n ↔ NaturalDigits ds n := by
      constructor
      · intro h
        cases h with
        | plain h => exact absurd rfl h.head_ne
        | plus h => exact h
      · exact .plus
    rw [hdenotes]
    by_cases hplus' : ds.head? = some '+'
    · obtain ⟨es, rfl⟩ := List.head?_eq_some_iff.1 hplus'
      have hnone : Document.numeral? limit ('+' :: '+' :: es) = none := by
        simp [Document.numeral?, Document.bases, Document.hasIdleZero, Document.unsigned?]
      rw [hnone]
      constructor
      · intro h
        cases h
      · rintro ⟨h, -⟩
        exact absurd rfl h.head_ne
    · have hskip : Document.numeral? limit ('+' :: ds) = Document.numeral? limit ds := by
        conv_rhs => unfold Document.numeral?
        split
        case h_1 => exact absurd rfl hplus'
        case h_2 => rfl
      rw [hskip, Document.numeral?_eq_some_iff_of_ne hplus']
  · rw [Document.numeral?_eq_some_iff_of_ne hplus]
    constructor
    · rintro ⟨h, hle⟩
      exact ⟨.plain h, hle⟩
    · rintro ⟨h, hle⟩
      cases h with
      | plain h => exact ⟨h, hle⟩
      | plus h => exact absurd rfl hplus

end

end Concord.Yaml
