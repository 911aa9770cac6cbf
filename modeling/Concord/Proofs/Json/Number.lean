import Concord.Json.Parser
import Concord.Json.Printer
import Concord.Proofs.Number.Shortest
import Concord.Proofs.Text.Numeral

/-!
# Reading numbers of JSON text back

A `WrittenNumber` is the digits of a number as they stand in a text, and it is the way in
which they are read: `readNumber_chars`.  What is written of whole numbers
(`intDigits_eq_chars`) and of numbers with a fraction (`compact_eq_chars`) are numbers of this
form.

A zero in front of other digits is not read, so a number that is written with a fraction
must not have one.  The shortest decimal of a number that is not zero is not zero either
(`shortest_ne_zero`), since zero does not round to it.
-/

namespace Concord.Json

open Text
open Number (Binary64 positional scientific shortest shortest_ne_zero)

/-! ## Digits -/

/-- What follows digits: the first character of it is no digit. -/
def NoDigit (rest : List Char) : Prop := ∀ c ∈ rest.head?, c.isDigit = false

theorem splitDigits_append {ds rest : List Char} (hds : ∀ c ∈ ds, c.isDigit = true)
    (hrest : NoDigit rest) : splitDigits (ds ++ rest) = (ds, rest) := by
  rw [splitDigits, List.takeWhile_append_of_pos hds, List.dropWhile_append_of_pos hds]
  cases rest with
  | nil => rw [List.takeWhile_nil, List.dropWhile_nil, List.append_nil]
  | cons c rest =>
      have hc : ¬ c.isDigit = true := by simp [hrest c rfl]
      rw [List.takeWhile_cons_of_neg hc, List.dropWhile_cons_of_neg hc, List.append_nil]

theorem ne_of_isDigit {c d : Char} (hc : c.isDigit = true) (hd : d.isDigit = false) :
    c ≠ d := by
  rintro rfl
  rw [hd] at hc
  cases hc

/-! ## Numbers -/

def signChars (negative : Bool) : List Char := if negative then ['-'] else []

def fractionChars : Option (List Char) → List Char
  | none => []
  | some ds => '.' :: ds

def exponentChars : Option (Bool × List Char) → List Char
  | none => []
  | some (down, ds) => 'e' :: (signChars down ++ ds)

namespace WrittenNumber

/-- The characters of a number as it stands in a text. -/
def chars (n : WrittenNumber) : List Char :=
  signChars n.negative ++ (n.whole ++ (fractionChars n.fraction ++ exponentChars n.exponent))

/-- Digits that can be read: at least one in each place, and no zero in front. -/
structure Legible (n : WrittenNumber) : Prop where
  whole_ne : n.whole ≠ []
  whole : ∀ c ∈ n.whole, c.isDigit = true
  lead : n.whole.head? = some '0' → n.whole = ['0']
  fraction : ∀ ds ∈ n.fraction, ds ≠ [] ∧ ∀ c ∈ ds, c.isDigit = true
  exponent : ∀ e ∈ n.exponent, e.2 ≠ [] ∧ ∀ c ∈ e.2, c.isDigit = true

end WrittenNumber

/-- What follows a number: the first character of it is no part of one. -/
def EndsNumber (rest : List Char) : Prop :=
  ∀ c ∈ rest.head?, c.isDigit = false ∧ c ≠ '.' ∧ c ≠ 'e' ∧ c ≠ 'E'

theorem EndsNumber.noDigit {rest : List Char} (h : EndsNumber rest) : NoDigit rest :=
  fun c hc => (h c hc).1

theorem noDigit_exponentChars {rest : List Char} (h : EndsNumber rest)
    (e : Option (Bool × List Char)) : NoDigit (exponentChars e ++ rest) := by
  cases e with
  | none => exact h.noDigit
  | some e =>
      intro c hc
      cases hc
      rfl

theorem readFraction_chars {rest : List Char} {f : Option (List Char)}
    (hf : ∀ ds ∈ f, ds ≠ [] ∧ ∀ c ∈ ds, c.isDigit = true) (hrest : NoDigit rest)
    (hpoint : ∀ c ∈ rest.head?, c ≠ '.') :
    readFraction (fractionChars f ++ rest) = some (f, rest) := by
  cases f with
  | none =>
      rw [fractionChars, List.nil_append]
      unfold readFraction
      split
      case h_1 => exact absurd rfl (hpoint '.' rfl)
      case h_2 => rfl
  | some ds =>
      obtain ⟨hne, hds⟩ := hf ds rfl
      rw [fractionChars, List.cons_append, readFraction, splitDigits_append hds hrest]
      cases ds with
      | nil => exact absurd rfl hne
      | cons d ds => rfl

/-- An exponent is read by its sign and its digits. -/
theorem readExponent_some {rest ds : List Char} (down : Bool) (hne : ds ≠ [])
    (hds : ∀ c ∈ ds, c.isDigit = true) (hrest : NoDigit rest) :
    readExponent ('e' :: (signChars down ++ ds ++ rest)) = some (some (down, ds), rest) := by
  cases ds with
  | nil => exact absurd rfl hne
  | cons d ds =>
      have hsplit : splitDigits (d :: (ds ++ rest)) = (d :: ds, rest) :=
        splitDigits_append hds hrest
      have hd : d.isDigit = true := hds d List.mem_cons_self
      cases down with
      | true => simp [signChars, readExponent, hsplit]
      | false =>
          have hplus : d ≠ '+' := ne_of_isDigit hd (by decide)
          have hminus : d ≠ '-' := ne_of_isDigit hd (by decide)
          simp [signChars, readExponent, hplus, hminus, hsplit]

theorem readExponent_chars {rest : List Char} {e : Option (Bool × List Char)}
    (he : ∀ x ∈ e, x.2 ≠ [] ∧ ∀ c ∈ x.2, c.isDigit = true) (hrest : EndsNumber rest) :
    readExponent (exponentChars e ++ rest) = some (e, rest) := by
  cases e with
  | none =>
      rw [exponentChars, List.nil_append]
      unfold readExponent
      dsimp only
      split
      case h_1 => exact absurd rfl (hrest 'e' rfl).2.2.1
      case h_2 => exact absurd rfl (hrest 'E' rfl).2.2.2
      case h_3 => rfl
  | some e =>
      obtain ⟨hne, hds⟩ := he e rfl
      rw [exponentChars, List.cons_append]
      exact readExponent_some e.1 hne hds hrest.noDigit

/-- Behind the sign, a number is its digits and what follows them. -/
theorem readNumber_sign {negative : Bool} {cs whole rest : List Char}
    (hsplit : splitDigits cs = (whole, rest)) (hcs : ∀ c ∈ cs.head?, c.isDigit = true)
    (hne : whole ≠ []) (hlead : whole.head? = some '0' → whole = ['0']) :
    readNumber (signChars negative ++ cs) = (do
      let (fraction, rest) ← readFraction rest
      let (exponent, rest) ← readExponent rest
      some (⟨negative, whole, fraction, exponent⟩, rest)) := by
  have hzero : ¬ (whole.head? = some '0' ∧ whole ≠ ['0']) := fun h => h.2 (hlead h.1)
  cases negative with
  | true =>
      rw [signChars, if_pos rfl, List.singleton_append, readNumber, hsplit]
      dsimp only
      rw [if_neg hne, if_neg hzero]
  | false =>
      have hsign : ∀ rest, cs = '-' :: rest → False := by
        rintro rest rfl
        cases hcs '-' rfl
      rw [signChars, if_neg Bool.false_ne_true, List.nil_append, readNumber, hsplit]
      · dsimp only
        rw [if_neg hne, if_neg hzero]
      · exact hsign

theorem readNumber_chars {n : WrittenNumber} (h : n.Legible) {rest : List Char}
    (hrest : EndsNumber rest) : readNumber (n.chars ++ rest) = some (n, rest) := by
  have hexponent := readExponent_chars h.exponent hrest
  have hfraction : readFraction (fractionChars n.fraction ++ (exponentChars n.exponent ++ rest))
      = some (n.fraction, exponentChars n.exponent ++ rest) := by
    refine readFraction_chars h.fraction (noDigit_exponentChars hrest n.exponent) ?_
    cases n.exponent with
    | none => exact fun c hc => (hrest c hc).2.1
    | some e =>
        intro c hc
        cases hc
        decide
  have hnoDigit : NoDigit (fractionChars n.fraction ++ (exponentChars n.exponent ++ rest)) := by
    cases n.fraction with
    | none => exact noDigit_exponentChars hrest n.exponent
    | some ds =>
        intro c hc
        cases hc
        rfl
  have hhead : ∀ c ∈ (n.whole ++ (fractionChars n.fraction ++
      (exponentChars n.exponent ++ rest))).head?, c.isDigit = true := by
    intro c hc
    rw [head?_append h.whole_ne] at hc
    exact h.whole c (List.mem_of_mem_head? hc)
  rw [WrittenNumber.chars, List.append_assoc, List.append_assoc, List.append_assoc,
    readNumber_sign (splitDigits_append h.whole hnoDigit) hhead h.whole_ne h.lead, hfraction]
  show (readExponent _).bind _ = _
  rw [hexponent]
  rfl

/-! ## Whole numbers -/

/-- The text of a whole number. -/
def wholeNumber (n : Int) : WrittenNumber := ⟨decide (n < 0), natDigits n.natAbs, none, none⟩

theorem intDigits_eq_chars (n : Int) : intDigits n = (wholeNumber n).chars := by
  cases n with
  | ofNat n =>
      have hsign : decide (Int.ofNat n < 0) = false := decide_eq_false (Int.not_ofNat_neg n)
      rw [WrittenNumber.chars, wholeNumber, hsign]
      exact (List.append_nil (natDigits n)).symm
  | negSucc n =>
      rw [WrittenNumber.chars, wholeNumber, decide_eq_true (Int.negSucc_lt_zero n)]
      exact congrArg ('-' :: ·) (List.append_nil (natDigits (n + 1))).symm

theorem lead_natDigits {n : Nat} (h : (natDigits n).head? = some '0') : natDigits n = ['0'] := by
  rw [head?_natDigits h]
  rfl

theorem legible_wholeNumber (n : Int) : (wholeNumber n).Legible where
  whole_ne := natDigits_ne_nil _
  whole _ := isDigit_of_mem_natDigits
  lead := lead_natDigits
  fraction _ h := by cases h
  exponent _ h := by cases h

/-! ## Numbers with a fraction -/

/-- The text of a decimal with a point. -/
def positionalNumber (negative : Bool) (digits : List Char) (power : Int) : WrittenNumber :=
  if 0 ≤ power then
    ⟨negative, digits ++ List.replicate power.toNat '0', some ['0'], none⟩
  else if (-power).toNat < digits.length then
    ⟨negative, digits.take (digits.length - (-power).toNat),
      some (digits.drop (digits.length - (-power).toNat)), none⟩
  else
    ⟨negative, ['0'], some (List.replicate ((-power).toNat - digits.length) '0' ++ digits), none⟩

/-- The text of a decimal with a power of ten. -/
def scientificNumber (negative : Bool) (digits : List Char) (power : Int) : WrittenNumber :=
  let exponent : Int := power + Int.ofNat digits.length - 1
  let fraction := match digits.tail with
    | [] => none
    | ds => some ds
  ⟨negative, digits.take 1, fraction, some (decide (exponent < 0), natDigits exponent.natAbs)⟩

/-- The text of a number with a fraction. -/
def floatNumber (x : Binary64) : WrittenNumber :=
  let r := shortest x.magnitude
  let digits := Nat.toDigits 10 r.1
  let top : Int := r.2 + Int.ofNat digits.length
  if x.magnitude.significand = 0 ∨ (-5 < top ∧ top ≤ 16) then
    positionalNumber x.negative digits r.2
  else scientificNumber x.negative digits r.2

theorem positional_eq_chars (negative : Bool) (digits : List Char) (power : Int) :
    signChars negative ++ positional digits power
      = (positionalNumber negative digits power).chars := by
  rw [positional, positionalNumber]
  by_cases hpower : 0 ≤ power
  · rw [if_pos hpower, if_pos hpower]
    rfl
  · rw [if_neg hpower, if_neg hpower]
    dsimp only
    by_cases hplaces : (-power).toNat < digits.length
    · rw [if_pos hplaces, if_pos hplaces]
      simp [WrittenNumber.chars, fractionChars, exponentChars]
    · rw [if_neg hplaces, if_neg hplaces]
      simp [WrittenNumber.chars, fractionChars, exponentChars]

/-- The letter in front of an exponent and the sign of it. -/
theorem exponentMark (down : Prop) [Decidable down] (cs : List Char) :
    (if down then ['e', '-'] else ['e']) ++ cs = 'e' :: (signChars (decide down) ++ cs) := by
  by_cases h : down <;> simp [signChars, h]

theorem scientific_eq_chars (negative : Bool) {digits : List Char} (h : digits ≠ [])
    (power : Int) :
    signChars negative ++ scientific digits power
      = (scientificNumber negative digits power).chars := by
  match digits, h with
  | [d], _ =>
      rw [scientific, scientificNumber, WrittenNumber.chars]
      dsimp only
      rw [List.append_assoc, exponentMark]
      rfl
  | d :: e :: ds, _ =>
      rw [scientific, scientificNumber, WrittenNumber.chars]
      · dsimp only
        rw [List.append_assoc, exponentMark]
        rfl
      · exact fun h => by cases h

theorem compact_eq_chars (x : Binary64) : x.compact = (floatNumber x).chars := by
  rw [Binary64.compact, floatNumber]
  split
  case isTrue => exact positional_eq_chars _ _ _
  case isFalse => exact scientific_eq_chars _ (natDigits_ne_nil _) _

theorem isDigit_of_mem_zeros {c : Char} {k : Nat} (h : c ∈ List.replicate k '0') :
    c.isDigit = true := by
  rw [List.eq_of_mem_replicate h]
  rfl

/-- A decimal with a point can be read if its digits are not zero, or are no more than zero. -/
theorem legible_positionalNumber (negative : Bool) {n : Nat} {power : Int}
    (h : n = 0 → power = 0) : (positionalNumber negative (natDigits n) power).Legible := by
  have hdigits : ∀ c ∈ natDigits n, c.isDigit = true := fun _ => isDigit_of_mem_natDigits
  rw [positionalNumber]
  by_cases hpower : 0 ≤ power
  · rw [if_pos hpower]
    refine ⟨by simp [natDigits_ne_nil], ?_, ?_, ?_, fun _ he => by cases he⟩
    · intro c hc
      rcases List.mem_append.1 hc with hc | hc
      · exact hdigits c hc
      · exact isDigit_of_mem_zeros hc
    · intro hhead
      rw [head?_append (natDigits_ne_nil n)] at hhead
      show natDigits n ++ _ = _
      rw [lead_natDigits hhead, h (head?_natDigits hhead)]
      rfl
    · intro ds hds
      cases hds
      exact ⟨by simp, by simp⟩
  · rw [if_neg hpower]
    by_cases hplaces : (-power).toNat < (natDigits n).length
    · rw [if_pos hplaces]
      refine ⟨?_, fun c hc => hdigits c (List.mem_of_mem_take hc), ?_, ?_, fun _ he => by cases he⟩
      · simp [natDigits_ne_nil]
        omega
      · intro hhead
        rw [List.head?_take, if_neg (by omega)] at hhead
        have hzero := h (head?_natDigits hhead)
        omega
      · intro ds hds
        cases hds
        exact ⟨by simp; omega, fun c hc => hdigits c (List.mem_of_mem_drop hc)⟩
    · rw [if_neg hplaces]
      refine ⟨by simp, by simp, by simp, ?_, fun _ he => by cases he⟩
      intro ds hds
      cases hds
      refine ⟨by simp [natDigits_ne_nil], fun c hc => ?_⟩
      rcases List.mem_append.1 hc with hc | hc
      · exact isDigit_of_mem_zeros hc
      · exact hdigits c hc

theorem legible_scientificNumber (negative : Bool) (n : Nat) (power : Int) :
    (scientificNumber negative (natDigits n) power).Legible := by
  have hdigits : ∀ c ∈ natDigits n, c.isDigit = true := fun _ => isDigit_of_mem_natDigits
  cases hn : natDigits n with
  | nil => exact absurd hn (natDigits_ne_nil n)
  | cons d ds =>
      rw [hn] at hdigits
      refine ⟨List.cons_ne_nil d [], ?_, ?_, ?_, ?_⟩
      · intro c hc
        obtain rfl : c = d := List.mem_singleton.1 hc
        exact hdigits c List.mem_cons_self
      · intro hhead
        obtain rfl : d = '0' := Option.some.inj hhead
        rfl
      · intro fs hfs
        cases ds with
        | nil => cases hfs
        | cons e ds =>
            cases hfs
            exact ⟨List.cons_ne_nil e ds, fun c hc => hdigits c (List.mem_cons_of_mem d hc)⟩
      · intro e he
        cases he
        exact ⟨natDigits_ne_nil _, fun c => isDigit_of_mem_natDigits⟩

theorem legible_floatNumber (x : Binary64) : (floatNumber x).Legible := by
  rw [floatNumber]
  split
  case isTrue =>
      refine legible_positionalNumber x.negative fun hzero => ?_
      by_cases h : x.magnitude.significand = 0
      · rw [shortest, if_pos h]
      · exact absurd hzero (shortest_ne_zero h)
  case isFalse => exact legible_scientificNumber x.negative _ _

end Concord.Json
