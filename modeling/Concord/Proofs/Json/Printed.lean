import Concord.Proofs.Json.Number

/-!
# Reading printed JSON back

The structure of a printed value is found again: the text of `v` is read as `written v`, which
has the texts and the members of `v` and the digits of its numbers (`parseWritten_compact`).
This says nothing about what the digits denote.

* A text is read character by character (`readText_escapes`).  An escape by number looks at the
  one behind it, since the two could be a pair, so that one has to be sound as well
  (`SoundEscapes`).
* A value is read up to the comma or the bracket behind it (`Closed`), at which a number ends.
  The three lists of readers take turns as those of the printer do, each with as much fuel as
  there are characters (`readValue_chars`).
-/

namespace Concord.Json

open Text

/-! ## Texts -/

/-- What follows an escape: an escape by number there has four digits. -/
def SoundEscapes (cs : List Char) : Prop :=
  ∀ e f g h rest, cs = '\\' :: 'u' :: e :: f :: g :: h :: rest → ∃ n, hexQuad? e f g h = some n

theorem paddedHex_control {n : Nat} (h : n < 0x20) :
    paddedHex 4 n = ['0', '0', Nat.digitChar (n / 16), Nat.digitChar (n % 16)] ∧
      hexQuad? '0' '0' (Nat.digitChar (n / 16)) (Nat.digitChar (n % 16)) = some n := by
  have hall : ∀ m ∈ List.range 0x20,
      paddedHex 4 m = ['0', '0', Nat.digitChar (m / 16), Nat.digitChar (m % 16)] ∧
        hexQuad? '0' '0' (Nat.digitChar (m / 16)) (Nat.digitChar (m % 16)) = some m := by
    decide
  exact hall n (List.mem_range.2 h)

/-- An escape by number stands for its character if it is no half of a pair. -/
theorem readText_escape {sound : Bool} {acc rest : List Char} {a b c d : Char} {n : Nat}
    (hn : hexQuad? a b c d = some n) (hhigh : isHighHalf n = false) (hlow : isLowHalf n = false)
    (hrest : SoundEscapes rest) :
    readText sound acc ('\\' :: 'u' :: a :: b :: c :: d :: rest)
      = readText sound (Char.ofNat n :: acc) rest := by
  rw [readText.eq_def]
  split
  case h_1 heq => cases heq
  case h_2 heq => cases heq
  case h_3 heq =>
      cases heq
      obtain ⟨m, hm⟩ := hrest _ _ _ _ _ rfl
      rw [hn, hm]
      simp [hhigh, hlow]
  case h_4 heq =>
      cases heq
      rw [hn]
      simp [hhigh, hlow]
  case h_5 hescape heq =>
      cases heq
      exact (hescape _ _ _ _ _ rfl rfl).elim
  case h_6 hescape _ heq =>
      cases heq
      exact (hescape _ _ _ _ _ rfl rfl).elim

theorem readText_letter {acc rest : List Char} {c d : Char} (hc : c ≠ 'u')
    (hd : letterEscape? c = some d) :
    readText true acc ('\\' :: c :: rest) = readText true (d :: acc) rest := by
  rw [readText.eq_def]
  simp [hc, hd]

theorem readText_plain {acc rest : List Char} {c : Char} (hquote : c ≠ '"') (hslash : c ≠ '\\')
    (hcontrol : ¬ c.toNat < 0x20) :
    readText true acc (c :: rest) = readText true (c :: acc) rest := by
  rw [readText.eq_def]
  simp [hslash, hcontrol]

/-- What is written of a character: a letter or a number behind a backslash, or itself. -/
inductive Escapes (c : Char) : List Char → Prop where
  | letter {d : Char} (hd : d ≠ 'u') (h : letterEscape? d = some c) : Escapes c ['\\', d]
  | number (h : c.toNat < 0x20) : Escapes c ('\\' :: 'u' :: paddedHex 4 c.toNat)
  | plain (hquote : c ≠ '"') (hslash : c ≠ '\\') (hcontrol : ¬ c.toNat < 0x20) : Escapes c [c]

theorem escapes_escapedChar (c : Char) : Escapes c (escapedChar c) := by
  unfold escapedChar
  split
  case isTrue h =>
      subst h
      exact .letter (by decide) rfl
  split
  case isTrue h =>
      subst h
      exact .letter (by decide) rfl
  -- The five common controls have letters of their own.
  iterate 5
    split
    case isTrue h =>
        subst h
        exact .letter (by decide) rfl
  split
  case isTrue hcontrol => exact .number hcontrol
  case isFalse hquote hslash _ _ _ _ _ hcontrol => exact .plain hquote hslash hcontrol

theorem isHalf_control {n : Nat} (h : n < 0x20) : isHighHalf n = false ∧ isLowHalf n = false := by
  constructor <;> simp [isHighHalf, isLowHalf] <;> omega

theorem readText_escapes {acc rest cs : List Char} {c : Char} (h : Escapes c cs)
    (hrest : SoundEscapes rest) :
    readText true acc (cs ++ rest) = readText true (c :: acc) rest := by
  cases h with
  | letter hd hletter => exact readText_letter hd hletter
  | number hcontrol =>
      obtain ⟨hdigits, hquad⟩ := paddedHex_control hcontrol
      obtain ⟨hhigh, hlow⟩ := isHalf_control hcontrol
      rw [hdigits]
      exact (readText_escape hquad hhigh hlow hrest).trans (by rw [Char.ofNat_toNat])
  | plain hquote hslash hcontrol => exact readText_plain hquote hslash hcontrol

theorem soundEscapes_escapes {rest cs : List Char} {c : Char} (h : Escapes c cs) :
    SoundEscapes (cs ++ rest) := by
  intro e f g i more heq
  cases h with
  | letter hd _ =>
      cases heq
      exact absurd rfl hd
  | number hcontrol =>
      obtain ⟨hdigits, hquad⟩ := paddedHex_control hcontrol
      rw [hdigits] at heq
      cases heq
      exact ⟨_, hquad⟩
  | plain _ hslash _ =>
      cases heq
      exact absurd rfl hslash

theorem soundEscapes_text (cs rest : List Char) :
    SoundEscapes (cs.flatMap escapedChar ++ '"' :: rest) := by
  cases cs with
  | nil =>
      intro e f g i more heq
      cases heq
  | cons c cs =>
      rw [List.flatMap_cons, List.append_assoc]
      exact soundEscapes_escapes (escapes_escapedChar c)

theorem readText_flatMap (cs rest acc : List Char) :
    readText true acc (cs.flatMap escapedChar ++ '"' :: rest)
      = some (some (String.ofList (acc.reverse ++ cs)), rest) := by
  induction cs generalizing acc with
  | nil =>
      rw [List.flatMap_nil, List.nil_append, List.append_nil, readText, if_pos rfl]
  | cons c cs ih =>
      rw [List.flatMap_cons, List.append_assoc,
        readText_escapes (escapes_escapedChar c) (soundEscapes_text cs rest), ih,
        List.reverse_cons, List.append_assoc, List.singleton_append]

/-- A printed text is read back behind its opening quote. -/
theorem readText_textChars (s : String) (rest : List Char) :
    ∃ cs, textChars s ++ rest = '"' :: cs ∧ readText true [] cs = some (some s, rest) := by
  refine ⟨s.toList.flatMap escapedChar ++ '"' :: rest, ?_, ?_⟩
  · simp [textChars]
  · rw [readText_flatMap, List.reverse_nil, List.nil_append, String.ofList_toList]

/-! ## Values -/

mutual

/-- A value as it stands in the text that is printed of it. -/
def written : Json → Written
  | .null => .null
  | .bool b => .bool b
  | .int n => .number (wholeNumber n)
  | .float x => .number (floatNumber x)
  | .str s => .str (some s)
  | .arr xs => .arr (writtenElements xs)
  | .obj ms => .obj (writtenMembers ms)

def writtenElements : List Json → List Written
  | [] => []
  | x :: xs => written x :: writtenElements xs

def writtenMembers : Members → List (Option String × Written)
  | [] => []
  | (k, v) :: ms => (some k, written v) :: writtenMembers ms

end

/-- What follows a value: nothing, or the comma or the bracket behind it. -/
def Closed (rest : List Char) : Prop :=
  ∀ c ∈ rest.head?, c = ',' ∨ c = ']' ∨ c = '\x7d'

theorem Closed.endsNumber {rest : List Char} (h : Closed rest) : EndsNumber rest := by
  intro c hc
  rcases h c hc with rfl | rfl | rfl <;> decide

theorem closed_elementChars (xs : List Json) (rest : List Char) :
    Closed (elementChars xs ++ rest) := by
  intro c hc
  cases xs <;> cases hc <;> simp

theorem closed_memberChars (ms : Members) (rest : List Char) :
    Closed (memberChars ms ++ rest) := by
  intro c hc
  cases ms <;> cases hc <;> simp

theorem skipSeparators_cons {c : Char} {cs : List Char} (h : isSeparator c = false) :
    skipSeparators (c :: cs) = c :: cs := by
  rw [skipSeparators, List.dropWhile_cons_of_neg (by simp [h])]

/-- The first character of a number. -/
def StartsNumber (c : Char) : Prop := c = '-' ∨ c.isDigit = true

theorem isSeparator_of_startsNumber {c : Char} (h : StartsNumber c) : isSeparator c = false := by
  rcases h with rfl | h
  · rfl
  · have hblank : ∀ d : Char, d.isDigit = false → c ≠ d := fun d => ne_of_isDigit h
    simp [isSeparator, hblank]

theorem readValue_number {fuel : Nat} {c : Char} {cs : List Char} (hc : StartsNumber c) :
    readValue (fuel + 1) (c :: cs)
      = (readNumber (c :: cs)).map fun (n, rest) => (.number n, rest) := by
  rw [readValue, skipSeparators_cons (isSeparator_of_startsNumber hc)]
  split
  case h_7 => rfl
  all_goals
    rename_i heq
    cases heq
    rcases hc with hc | hc <;> cases hc

theorem WrittenNumber.Legible.chars_eq_cons {n : WrittenNumber} (h : n.Legible) :
    ∃ c cs, n.chars = c :: cs ∧ StartsNumber c := by
  obtain ⟨negative, whole, fraction, exponent⟩ := n
  cases negative with
  | true => exact ⟨'-', _, rfl, .inl rfl⟩
  | false =>
      cases whole with
      | nil => exact absurd rfl h.whole_ne
      | cons c cs => exact ⟨c, _, rfl, .inr (h.whole c List.mem_cons_self)⟩

theorem readValue_legible {n : WrittenNumber} (h : n.Legible) (fuel : Nat) {rest : List Char}
    (hrest : Closed rest) : readValue (fuel + 1) (n.chars ++ rest) = some (.number n, rest) := by
  obtain ⟨c, cs, hchars, hc⟩ := h.chars_eq_cons
  have hread := readNumber_chars h hrest.endsNumber
  rw [hchars, List.cons_append] at hread ⊢
  rw [readValue_number hc, hread]
  rfl

/-- No value starts with a blank or with the bracket that closes a list. -/
theorem chars_eq_cons (v : Json) :
    ∃ c cs, v.chars = c :: cs ∧ isSeparator c = false ∧ c ≠ ']' := by
  have hnumber : ∀ n : WrittenNumber, n.Legible →
      ∃ c cs, n.chars = c :: cs ∧ isSeparator c = false ∧ c ≠ ']' := by
    intro n h
    obtain ⟨c, cs, hchars, hc⟩ := h.chars_eq_cons
    refine ⟨c, cs, hchars, isSeparator_of_startsNumber hc, ?_⟩
    rcases hc with rfl | hc
    · decide
    · exact ne_of_isDigit hc (by decide)
  cases v with
  | null => exact ⟨'n', _, rfl, rfl, by decide⟩
  | bool b => cases b <;> exact ⟨_, _, rfl, rfl, by decide⟩
  | int n =>
      rw [chars, intDigits_eq_chars]
      exact hnumber _ (legible_wholeNumber n)
  | float x =>
      rw [chars, compact_eq_chars]
      exact hnumber _ (legible_floatNumber x)
  | str s => exact ⟨'"', _, rfl, rfl, by decide⟩
  | arr xs => cases xs <;> exact ⟨'[', _, rfl, rfl, by decide⟩
  | obj ms =>
      rcases ms with _ | ⟨⟨k, v⟩, ms⟩ <;> exact ⟨'\x7b', _, rfl, rfl, by decide⟩

theorem readValue_bracket {fuel : Nat} {v : Json} (rest : List Char) :
    readValue (fuel + 1) ('[' :: (v.chars ++ rest))
      = (readElements fuel [] (v.chars ++ rest)).map fun (xs, rest) => (.arr xs, rest) := by
  obtain ⟨c, cs, hchars, hblank, hclose⟩ := chars_eq_cons v
  rw [hchars, List.cons_append, readValue, skipSeparators_cons rfl]
  simp [skipSeparators_cons hblank, hclose]

theorem readValue_brace {fuel : Nat} {s : String} (rest : List Char) :
    readValue (fuel + 1) ('\x7b' :: (textChars s ++ rest))
      = (readMembers fuel [] (textChars s ++ rest)).map fun (ms, rest) => (.obj ms, rest) := by
  rw [textChars, List.cons_append, readValue, skipSeparators_cons rfl]
  simp [skipSeparators_cons (c := '"') rfl]

section

variable {fuel : Nat} {x : Json} {rest : List Char}

/-- An element in front of a comma is read before the others. -/
theorem readElements_comma {acc : List Written}
    (hx : readValue fuel (x.chars ++ ',' :: rest) = some (x.written, ',' :: rest)) :
    readElements (fuel + 1) acc (x.chars ++ ',' :: rest)
      = readElements fuel (x.written :: acc) rest := by
  rw [readElements, hx]
  rfl

theorem readElements_bracket {acc : List Written}
    (hx : readValue fuel (x.chars ++ ']' :: rest) = some (x.written, ']' :: rest)) :
    readElements (fuel + 1) acc (x.chars ++ ']' :: rest)
      = some (acc.reverse ++ [x.written], rest) := by
  rw [readElements, hx, ← List.reverse_cons]
  rfl

theorem readMembers_comma {acc : List (Option String × Written)} {k : String}
    (hx : readValue fuel (x.chars ++ ',' :: rest) = some (x.written, ',' :: rest)) :
    readMembers (fuel + 1) acc (textChars k ++ ':' :: (x.chars ++ ',' :: rest))
      = readMembers fuel ((some k, x.written) :: acc) rest := by
  obtain ⟨cs, hcs, hread⟩ := readText_textChars k (':' :: (x.chars ++ ',' :: rest))
  rw [hcs, readMembers, skipSeparators_cons rfl]
  simp [hread, skipSeparators_cons (c := ':') rfl, skipSeparators_cons (c := ',') rfl, hx]

theorem readMembers_brace {acc : List (Option String × Written)} {k : String}
    (hx : readValue fuel (x.chars ++ '\x7d' :: rest) = some (x.written, '\x7d' :: rest)) :
    readMembers (fuel + 1) acc (textChars k ++ ':' :: (x.chars ++ '\x7d' :: rest))
      = some (acc.reverse ++ [(some k, x.written)], rest) := by
  obtain ⟨cs, hcs, hread⟩ := readText_textChars k (':' :: (x.chars ++ '\x7d' :: rest))
  rw [hcs, readMembers, skipSeparators_cons rfl]
  simp [hread, skipSeparators_cons (c := ':') rfl, skipSeparators_cons (c := '\x7d') rfl, hx]

end

theorem length_chars_pos (v : Json) : 0 < v.chars.length := by
  obtain ⟨c, cs, hchars, -⟩ := chars_eq_cons v
  rw [hchars]
  exact Nat.succ_pos _

mutual

/-- What is printed of a value is read as the value that stands in it. -/
theorem readValue_chars : (v : Json) → ∀ (fuel : Nat) (rest : List Char),
    v.chars.length ≤ fuel → Closed rest → readValue fuel (v.chars ++ rest) = some (v.written, rest)
  | v, 0, _, hfuel, _ => absurd (length_chars_pos v) (Nat.not_lt.2 hfuel)
  | .null, fuel + 1, rest, _, _ => by rw [written]; rfl
  | .bool true, fuel + 1, rest, _, _ => by rw [written]; rfl
  | .bool false, fuel + 1, rest, _, _ => by rw [written]; rfl
  | .int n, fuel + 1, rest, _, hrest => by
      rw [chars, written, intDigits_eq_chars]
      exact readValue_legible (legible_wholeNumber n) fuel hrest
  | .float x, fuel + 1, rest, _, hrest => by
      rw [chars, written, compact_eq_chars]
      exact readValue_legible (legible_floatNumber x) fuel hrest
  | .str s, fuel + 1, rest, _, _ => by
      obtain ⟨cs, hcs, hread⟩ := readText_textChars s rest
      rw [chars, written, hcs, readValue, skipSeparators_cons rfl]
      show (readText true [] cs).map _ = _
      rw [hread]
      rfl
  | .arr [], fuel + 1, rest, _, _ => by rw [written]; rfl
  | .arr (x :: xs), fuel + 1, rest, hfuel, _ => by
      rw [chars, List.length_cons] at hfuel
      rw [chars, List.cons_append, List.append_assoc, readValue_bracket,
        readElements_chars x xs fuel [] rest (by omega), written]
      rfl
  | .obj [], fuel + 1, rest, _, _ => by rw [written]; rfl
  | .obj ((k, v) :: ms), fuel + 1, rest, hfuel, _ => by
      rw [chars, List.length_cons, List.length_append, List.length_cons] at hfuel
      rw [chars, List.cons_append, List.append_assoc, readValue_brace, List.cons_append,
        List.append_assoc, readMembers_chars k v ms fuel [] rest (by omega), written]
      rfl

theorem readElements_chars : (x : Json) → (xs : List Json) → ∀ (fuel : Nat) (acc : List Written)
    (rest : List Char), (x.chars ++ elementChars xs).length ≤ fuel →
    readElements fuel acc (x.chars ++ (elementChars xs ++ rest))
      = some (acc.reverse ++ writtenElements (x :: xs), rest)
  | x, _, 0, _, _, hfuel => by
      rw [List.length_append] at hfuel
      exact absurd (length_chars_pos x) (by omega)
  | x, [], fuel + 1, acc, rest, hfuel => by
      rw [elementChars, List.length_append, List.length_singleton] at hfuel
      have hx := readValue_chars x fuel (']' :: rest) (by omega) (closed_elementChars [] rest)
      rw [elementChars, List.singleton_append, readElements_bracket hx, writtenElements,
        writtenElements]
  | x, y :: ys, fuel + 1, acc, rest, hfuel => by
      rw [elementChars, List.length_append, List.length_cons] at hfuel
      have hx := readValue_chars x fuel (',' :: ((y.chars ++ elementChars ys) ++ rest)) (by omega)
        (closed_elementChars (y :: ys) rest)
      rw [elementChars, List.cons_append, readElements_comma hx, List.append_assoc,
        readElements_chars y ys fuel _ rest (by omega), List.reverse_cons, List.append_assoc]
      rfl

theorem readMembers_chars : (k : String) → (x : Json) → (ms : Members) → ∀ (fuel : Nat)
    (acc : List (Option String × Written)) (rest : List Char),
    (x.chars ++ memberChars ms).length ≤ fuel →
    readMembers fuel acc (textChars k ++ ':' :: (x.chars ++ (memberChars ms ++ rest)))
      = some (acc.reverse ++ writtenMembers ((k, x) :: ms), rest)
  | _, x, _, 0, _, _, hfuel => by
      rw [List.length_append] at hfuel
      exact absurd (length_chars_pos x) (by omega)
  | k, x, [], fuel + 1, acc, rest, hfuel => by
      rw [memberChars, List.length_append, List.length_singleton] at hfuel
      have hx := readValue_chars x fuel ('\x7d' :: rest) (by omega) (closed_memberChars [] rest)
      rw [memberChars, List.singleton_append, readMembers_brace hx, writtenMembers,
        writtenMembers]
  | k, x, (l, y) :: ms, fuel + 1, acc, rest, hfuel => by
      rw [memberChars, List.length_append, List.length_cons, List.length_append,
        List.length_cons] at hfuel
      have hx := readValue_chars x fuel
        (',' :: ((textChars l ++ ':' :: (y.chars ++ memberChars ms)) ++ rest)) (by omega)
        (closed_memberChars ((l, y) :: ms) rest)
      rw [memberChars, List.cons_append, readMembers_comma hx, List.append_assoc,
        List.cons_append, List.append_assoc, readMembers_chars l y ms fuel _ rest (by omega),
        List.reverse_cons, List.append_assoc]
      rfl

end

theorem parseWritten_compact (v : Json) : parseWritten v.compact = some v.written := by
  have hread := readValue_chars v (v.chars.length + 1) [] (Nat.le_succ _) (by simp [Closed])
  rw [List.append_nil] at hread
  rw [parseWritten, compact, String.toList_ofList, hread]
  rfl

/-- The value of a printed text is a matter of the digits and the nesting. -/
theorem parse_compact (depth : Nat) (v : Json) :
    parse depth v.compact = v.written.value? depth := by
  rw [parse, parseWritten_compact, Option.bind_some]

end Concord.Json
