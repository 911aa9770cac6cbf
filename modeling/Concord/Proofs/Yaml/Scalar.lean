import Concord.Proofs.Text.Denotation
import Concord.Yaml.Scalar

/-!
# Scalars that are read as written

The printable characters of ASCII stand in one column each, and moving over them moves the place
by their number (`Cursor.skip_of_isPrinted`).

A plain scalar without white space is read up to the colon behind it (`readPlain?_colon`) or up to
the end of its line (`readPlain?_lineFeed`).  Between double quotes every text can be written, with
the printable characters as they are and the others by their code point (`quotedChars`), and it is
read as that text (`Quote.read?_quotedChars`).
-/

namespace Concord.Yaml

open Concord.Text

/-! ## Characters -/

/-- A space or a character of ASCII with a sign of its own. -/
def IsPrinted (x : Char) : Prop := ' ' ≤ x ∧ x ≤ '~'

/-- A character of ASCII with a sign of its own. -/
def IsGraphic (x : Char) : Prop := '!' ≤ x ∧ x ≤ '~'

/-- A text starts with neither white space nor a remark. -/
def StartsInk (cs : List Char) : Prop := ∀ x ∈ cs.head?, IsGraphic x ∧ x ≠ '#'

instance : DecidablePred IsPrinted := fun x => inferInstanceAs (Decidable (' ' ≤ x ∧ x ≤ '~'))

instance : DecidablePred IsGraphic := fun x => inferInstanceAs (Decidable ('!' ≤ x ∧ x ≤ '~'))

section

variable {x : Char}

/-- What holds of the characters from one code point to another is checked one by one. -/
theorem of_forall_range {p : Char → Prop} {low high : Nat}
    (hall : ∀ n ∈ List.range' low (high + 1 - low), p (Char.ofNat n)) (hlow : low ≤ x.toNat)
    (hhigh : x.toNat ≤ high) : p x := by
  have h := hall x.toNat (List.mem_range'_1.2 ⟨hlow, by omega⟩)
  rwa [Char.ofNat_toNat] at h

theorem IsPrinted.of_forall {p : Char → Prop} (h : IsPrinted x)
    (hall : ∀ n ∈ List.range' 32 95, p (Char.ofNat n)) : p x :=
  of_forall_range hall h.1 h.2

theorem IsGraphic.of_forall {p : Char → Prop} (h : IsGraphic x)
    (hall : ∀ n ∈ List.range' 33 94, p (Char.ofNat n)) : p x :=
  of_forall_range hall h.1 h.2

theorem IsGraphic.isPrinted (h : IsGraphic x) : IsPrinted x :=
  ⟨Nat.le_trans (by decide) h.1, h.2⟩

/-- The space is the one character that is printed and has no sign. -/
theorem IsPrinted.eq_space (h : IsPrinted x) (hgraphic : ¬ IsGraphic x) : x = ' ' :=
  (h.of_forall (p := fun x => IsGraphic x ∨ x = ' ') (by decide)).resolve_left hgraphic

theorem IsPrinted.isBreak (h : IsPrinted x) : isBreak x = false :=
  h.of_forall (p := fun x => Yaml.isBreak x = false) (by decide)

theorem IsGraphic.isBlank (h : IsGraphic x) : isBlank x = false :=
  h.of_forall (p := fun x => Yaml.isBlank x = false) (by decide)

theorem IsGraphic.isBreak (h : IsGraphic x) : isBreak x = false := h.isPrinted.isBreak

theorem IsGraphic.endsWord (h : IsGraphic x) : endsWord (some x) = false := by
  simp [Yaml.endsWord, h.isBlank, h.isBreak]

theorem IsPrinted.isAdmitted (h : IsPrinted x) : isAdmitted x = true :=
  h.of_forall (p := fun x => Yaml.isAdmitted x = true) (by decide)

end

namespace Cursor

variable {cs : List Char} {i l k : Nat} {x : Char}

theorem step_of_isPrinted {rest : List Char} (h : IsPrinted x) :
    (⟨x :: rest, i, l, k⟩ : Cursor).step = ⟨rest, i + 1, l, k + 1⟩ := by
  have hsize : x.utf8Size = 1 := h.of_forall (p := fun x => x.utf8Size = 1) (by decide)
  unfold step
  split
  case h_1 heq => cases heq
  case h_2 heq =>
      cases heq
      exact absurd h.1 (by decide)
  case h_3 heq =>
      cases heq
      simp [h.isBreak, hsize]

theorem skip_of_isPrinted (rest : List Char) (h : ∀ x ∈ cs, IsPrinted x) :
    (⟨cs ++ rest, i, l, k⟩ : Cursor).skip cs.length = ⟨rest, i + cs.length, l, k + cs.length⟩ := by
  induction cs generalizing i k with
  | nil => rfl
  | cons x cs ih =>
      obtain ⟨hx, hcs⟩ := List.forall_mem_cons.1 h
      rw [List.cons_append, List.length_cons, skip, step_of_isPrinted hx, ih hcs]
      congr 1 <;> omega

theorem seesAnyMark_of_column {c : Cursor} (h : c.column ≠ 0) : c.seesAnyMark = false := by
  simp [seesAnyMark, seesMark, h]

end Cursor

section

variable {floor i l k : Nat} {x : Char} {cs tail soFar : List Char}

/-- No colon in a word ends it, since another character of the word follows. -/
theorem not_endsWord_of_isGraphic (tail : List Char) (hgraphic : ∀ y ∈ x :: cs, IsGraphic y)
    (hlast : (x :: cs).getLast? ≠ some ':') : ¬ (x = ':' ∧ endsWord (cs ++ tail).head?) := by
  rintro ⟨rfl, hends⟩
  cases cs with
  | nil => exact hlast rfl
  | cons y cs =>
      rw [List.cons_append, List.head?_cons, (hgraphic y (by simp)).endsWord] at hends
      cases hends

theorem readPlain?_of_isGraphic (hgraphic : ∀ y ∈ cs, IsGraphic y)
    (hlast : cs.getLast? ≠ some ':') :
    readPlain? floor false .empty soFar ⟨cs ++ tail, i, l, k⟩
      = readPlain? floor false .empty (cs.reverse ++ soFar)
          ⟨tail, i + cs.length, l, k + cs.length⟩ := by
  induction cs generalizing i k soFar with
  | nil => rfl
  | cons x cs ih =>
      obtain ⟨hx, hcs⟩ := List.forall_mem_cons.1 hgraphic
      have hends := not_endsWord_of_isGraphic tail hgraphic hlast
      have hlast' : cs.getLast? ≠ some ':' := by
        cases cs with
        | nil => simp
        | cons y cs => simpa using hlast
      have hempty : Gap.empty.reading = [] := rfl
      rw [List.cons_append, readPlain?]
      simp only [hx.isBlank, hx.isBreak, hends, hempty, ne_eq, not_true_eq_false, false_and,
        false_or, Bool.false_eq_true, if_false]
      rw [Cursor.step_of_isPrinted hx.isPrinted, ih hcs hlast']
      simp [Nat.add_assoc, Nat.add_comm 1]

theorem readPlain?_colon :
    readPlain? floor false .empty soFar ⟨':' :: ' ' :: tail, i, l, k⟩
      = some ⟨soFar.reverse, false, ⟨':' :: ' ' :: tail, i, l, k⟩⟩ := by
  have hblank : isBlank ':' = false := rfl
  have hbreak : isBreak ':' = false := rfl
  have hends : endsWord (some ' ') = true := rfl
  rw [readPlain?]
  simp [hblank, hbreak, hends, Gap.empty]

theorem readPlain?_lineFeed (h : StartsInk tail) :
    readPlain? 1 false .empty soFar ⟨'\n' :: tail, i, l, k⟩
      = some ⟨soFar.reverse, true, ⟨tail, i + 1, l + 1, 0⟩⟩ := by
  have hblank : isBlank '\n' = false := rfl
  have hbreak : isBreak '\n' = true := rfl
  have hstep : Cursor.step ⟨'\n' :: tail, i, l, k⟩ = ⟨tail, i + 1, l + 1, 0⟩ := rfl
  rw [readPlain?]
  simp only [hblank, hbreak, hstep, Bool.false_eq_true, if_false, if_true]
  cases tail with
  | nil =>
      rw [readPlain?]
      rfl
  | cons x tail =>
      obtain ⟨hx, -⟩ := h x (by simp)
      rw [readPlain?]
      simp [hx.isBlank, hx.isBreak, endsPlain, Gap.addBreak, Gap.empty]

end

/-! ## Quoted texts -/

/-- A character between double quotes. -/
def quotedChar (x : Char) : List Char :=
  if x = '"' ∨ x = '\\' then ['\\', x]
  else if IsPrinted x then [x]
  else '\\' :: 'U' :: paddedHex 8 x.toNat

/-- A text between double quotes, with the closing one. -/
def quotedChars (text : List Char) : List Char := text.flatMap quotedChar ++ ['"']

section

variable {i l k acc : Nat} {x : Char} {cs tail soFar text : List Char} {ds : List Nat} {gap : Gap}

theorem isPrinted_of_mem_paddedHex {width n : Nat} (h : x ∈ paddedHex width n) : IsPrinted x := by
  obtain ⟨ds, hdigits, -⟩ := exists_digits_paddedHex width n
  obtain ⟨d, hdigit⟩ := hdigits.allDigits x h
  exact hdigit.of_forall (p := fun _ x => IsPrinted x) (by decide)

theorem isPrinted_of_mem_quotedChar {y : Char} (h : y ∈ quotedChar x) : IsPrinted y := by
  unfold quotedChar at h
  split_ifs at h with hescaped hprinted
  · rcases List.mem_cons.1 h with rfl | h
    · decide
    · rw [List.mem_singleton.1 h]
      rcases hescaped with rfl | rfl <;> decide
  · rw [List.mem_singleton.1 h]
    exact hprinted
  · rcases List.mem_cons.1 h with rfl | h
    · decide
    · rcases List.mem_cons.1 h with rfl | h
      · decide
      · exact isPrinted_of_mem_paddedHex h

namespace Escape

theorem hexValue?_of_digits (h : Digits 16 ds cs) :
    hexValue? acc cs = some (acc * 16 ^ ds.length + Nat.ofDigits 16 ds.reverse) := by
  induction h generalizing acc with
  | nil => simp [hexValue?]
  | @cons d c ds cs hdigit _ ih =>
      rw [ofDigits_cons_reverse, ← ih]
      simp only [hexValue?, hdigit.2.digitValue? hdigit.1]

/-- Eight digits are enough for every character. -/
theorem ofCode?_paddedHex (x : Char) (tail : List Char) :
    ofCode? 8 (paddedHex 8 x.toNat ++ tail) = some x := by
  have hlength : (paddedHex 8 x.toNat).length = 8 := length_paddedHex 8 x.toNat
  have hlt : x.toNat < 16 ^ 8 := x.val.toNat_lt
  obtain ⟨ds, hdigits, hvalue⟩ := exists_digits_paddedHex 8 x.toNat
  rw [Nat.mod_eq_of_lt hlt] at hvalue
  have hread : hexValue? 0 (paddedHex 8 x.toNat) = some x.toNat := by
    rw [hexValue?_of_digits hdigits, hvalue, Nat.zero_mul, Nat.zero_add]
  have hvalid : x.toNat.isValidChar := x.valid
  unfold ofCode?
  simp only [List.take_left' hlength, hlength, Nat.lt_irrefl, if_false, hread, hvalid, if_true,
    Char.ofNat_toNat]

theorem read?_quote (hx : x = '"' ∨ x = '\\') : read? (x :: tail) = some (.char x 1) := by
  rcases hx with rfl | rfl <;> rfl

theorem read?_code (x : Char) (tail : List Char) :
    read? ('U' :: (paddedHex 8 x.toNat ++ tail)) = some (.char x 9) := by
  have hbreak : isBreak 'U' = false := rfl
  have hletters : letters.lookup 'U' = none := rfl
  have hwidth : codeWidths.lookup 'U' = some 8 := rfl
  simp [read?, hbreak, hletters, hwidth, ofCode?_paddedHex]

end Escape

theorem Quote.read?_blank (hx : Yaml.isBlank x = true) :
    Quote.double.read? gap soFar ⟨x :: tail, i, l, k⟩
      = Quote.double.read? (gap.addBlank x) soFar (Cursor.step ⟨x :: tail, i, l, k⟩) := by
  rw [Quote.read?]
  simp [hx]

/-- An escape stands for its character. -/
theorem Quote.read?_escape {w : Nat} (hk : k ≠ 0) (h : Escape.read? tail = some (.char x w)) :
    Quote.double.read? gap soFar ⟨'\\' :: tail, i, l, k⟩
      = Quote.double.read? .empty (x :: gap.reading ++ soFar)
          (Cursor.skip ⟨tail, i + 1, l, k + 1⟩ w) := by
  have hblank : isBlank '\\' = false := rfl
  have hbreak : isBreak '\\' = false := rfl
  have hmark : Cursor.seesAnyMark ⟨'\\' :: tail, i, l, k⟩ = false :=
    Cursor.seesAnyMark_of_column hk
  rw [Quote.read?]
  simp [hblank, hbreak, hmark, h, Quote.mark, Cursor.step_of_isPrinted (x := '\\') (by decide)]

theorem Quote.read?_graphic (hk : k ≠ 0) (hx : IsGraphic x) (hquote : ¬ (x = '"' ∨ x = '\\')) :
    Quote.double.read? gap soFar ⟨x :: tail, i, l, k⟩
      = Quote.double.read? .empty (x :: gap.reading ++ soFar) ⟨tail, i + 1, l, k + 1⟩ := by
  have hmark : Cursor.seesAnyMark ⟨x :: tail, i, l, k⟩ = false := Cursor.seesAnyMark_of_column hk
  rw [not_or] at hquote
  rw [Quote.read?]
  simp [hx.isBlank, hx.isBreak, hmark, hquote, Quote.mark, Cursor.step_of_isPrinted hx.isPrinted]

theorem Quote.read?_close (hk : k ≠ 0) :
    Quote.double.read? gap soFar ⟨'"' :: tail, i, l, k⟩
      = some (⟨String.ofList (gap.reading ++ soFar).reverse, .doubleQuoted⟩,
          ⟨tail, i + 1, l, k + 1⟩) := by
  have hblank : isBlank '"' = false := rfl
  have hbreak : isBreak '"' = false := rfl
  have hmark : Cursor.seesAnyMark ⟨'"' :: tail, i, l, k⟩ = false := Cursor.seesAnyMark_of_column hk
  rw [Quote.read?]
  simp [hblank, hbreak, hmark, Quote.mark, Quote.style,
    Cursor.step_of_isPrinted (x := '"') (by decide)]

/-- A character is read from its written form and joins those before it. -/
theorem Quote.read?_quotedChar (x : Char) (soFar tail : List Char) (hk : k ≠ 0)
    (hgap : gap.broken = false) :
    ∃ gap' soFar', gap'.broken = false ∧
      gap'.reading ++ soFar' = x :: (gap.reading ++ soFar) ∧
      Quote.double.read? gap soFar ⟨quotedChar x ++ tail, i, l, k⟩
        = Quote.double.read? gap' soFar'
            ⟨tail, i + (quotedChar x).length, l, k + (quotedChar x).length⟩ := by
  have hempty : Gap.empty.reading ++ (x :: gap.reading ++ soFar) = x :: (gap.reading ++ soFar) :=
    rfl
  by_cases hquote : x = '"' ∨ x = '\\'
  · have hchars : quotedChar x = ['\\', x] := if_pos hquote
    refine ⟨.empty, x :: gap.reading ++ soFar, rfl, hempty, ?_⟩
    have hx : IsPrinted x := by rcases hquote with rfl | rfl <;> decide
    rw [hchars, List.cons_append, List.singleton_append,
      Quote.read?_escape hk (Escape.read?_quote hquote), Cursor.skip, Cursor.step_of_isPrinted hx]
    rfl
  by_cases hprinted : IsPrinted x
  · have hchars : quotedChar x = [x] := by rw [quotedChar, if_neg hquote, if_pos hprinted]
    rw [hchars, List.singleton_append]
    by_cases hgraphic : IsGraphic x
    · exact ⟨.empty, x :: gap.reading ++ soFar, rfl, hempty,
        Quote.read?_graphic hk hgraphic hquote⟩
    · obtain rfl : x = ' ' := hprinted.eq_space hgraphic
      refine ⟨gap.addBlank ' ', soFar, ?_, ?_, ?_⟩
      · simp [Gap.addBlank, hgap]
      · simp [Gap.addBlank, Gap.reading, hgap]
      · rw [Quote.read?_blank rfl, Cursor.step_of_isPrinted hprinted]
        rfl
  · have hchars : quotedChar x = '\\' :: 'U' :: paddedHex 8 x.toNat := by
      rw [quotedChar, if_neg hquote, if_neg hprinted]
    refine ⟨.empty, x :: gap.reading ++ soFar, rfl, hempty, ?_⟩
    have hprinted : ∀ y ∈ 'U' :: paddedHex 8 x.toNat, IsPrinted y :=
      List.forall_mem_cons.2 ⟨by decide, fun _ => isPrinted_of_mem_paddedHex⟩
    have hskip := Cursor.skip_of_isPrinted (i := i + 1) (l := l) (k := k + 1) tail hprinted
    rw [List.length_cons, length_paddedHex] at hskip
    rw [hchars, List.cons_append, List.cons_append,
      Quote.read?_escape hk (Escape.read?_code x tail), ← List.cons_append, hskip]
    simp [length_paddedHex, Nat.add_assoc]

/-- A text between double quotes is read as the text. -/
theorem Quote.read?_quotedChars (text : List Char) (hk : k ≠ 0) (hgap : gap.broken = false) :
    Quote.double.read? gap soFar ⟨quotedChars text ++ tail, i, l, k⟩
      = some (⟨String.ofList ((gap.reading ++ soFar).reverse ++ text), .doubleQuoted⟩,
          ⟨tail, i + (quotedChars text).length, l, k + (quotedChars text).length⟩) := by
  induction text generalizing gap soFar i k with
  | nil =>
      rw [List.append_nil]
      exact Quote.read?_close hk
  | cons x text ih =>
      obtain ⟨gap', soFar', hgap', hreading, hstep⟩ :=
        Quote.read?_quotedChar (i := i) (l := l) x soFar (quotedChars text ++ tail) hk hgap
      have hchars : quotedChars (x :: text) = quotedChar x ++ quotedChars text := by
        simp [quotedChars]
      rw [hchars, List.append_assoc, hstep, ih (by omega) hgap', hreading]
      simp [Nat.add_assoc]

end

end Concord.Yaml
