import Concord.Text.Hex
import Mathlib.Data.List.TakeWhile

/-!
# Texts that spell bytes

A text that a person or a file supplies *spells* some bytes when it holds their digits, each in
either case, with a marker in front or none, and with any blanks around (`Spells`).  It is read
as those bytes (`decodeHex_of_spells`), so that nothing but the digits plays a part in what is
read.  What is written of bytes spells them, and so it is read back (`decodeHex_encodeHex`) and
different bytes have different texts (`encodeHex_injective`).

A text of digits that breaks off spells fewer bytes, or ends in a digit without its partner and
is refused (`decodeHex_of_odd`).
-/

namespace Concord.Text

/-! ## Digits in either case -/

/-- A character is the digit of a value, in either case. -/
structure DigitOf (d : Nat) (c : Char) : Prop where
  lt : d < 16
  /-- In lower case it is the digit that is written. -/
  lower : c.toLower = Nat.digitChar d

theorem digitOf_digitChar {d : Nat} (h : d < 16) : DigitOf d (Nat.digitChar d) := by
  have hall : ∀ e ∈ List.range 16, (Nat.digitChar e).toLower = Nat.digitChar e := by decide
  exact ⟨h, hall d (List.mem_range.2 h)⟩

namespace DigitOf

variable {d : Nat} {c : Char}

/-- There are no more than two characters for a digit. -/
theorem eq_or_eq (h : DigitOf d c) : c = Nat.digitChar d ∨ c = (Nat.digitChar d).toUpper := by
  by_cases hupper : c.val ≥ 'A'.val ∧ c.val ≤ 'Z'.val
  · right
    have hall : ∀ e ∈ List.range 16, 97 ≤ (Nat.digitChar e).toNat →
        (Nat.digitChar e).toUpper.toNat + 32 = (Nat.digitChar e).toNat := by decide
    have hlow : 65 ≤ c.toNat := hupper.1
    have hhigh : c.toNat ≤ 90 := hupper.2
    have hlower : (c.val + 32).toNat = (Nat.digitChar d).toNat := by
      rw [← h.lower]
      delta Char.toLower
      rw [dif_pos hupper]
      rfl
    have hsum : (c.val + 32).toNat = c.toNat + 32 := by
      rw [UInt32.toNat_add]
      exact Nat.mod_eq_of_lt (show c.toNat + 32 < 2 ^ 32 by omega)
    have hletter := hall d (List.mem_range.2 h.lt) (by omega)
    exact Char.toNat_inj.1 (by omega)
  · left
    rw [← h.lower]
    delta Char.toLower
    rw [dif_neg hupper]

/-- What holds of the digits that are written and of their upper case holds of all. -/
theorem of_forall {p : Nat → Char → Prop} (h : DigitOf d c)
    (hall : ∀ e ∈ List.range 16, p e (Nat.digitChar e) ∧ p e (Nat.digitChar e).toUpper) :
    p d c := by
  obtain ⟨hwritten, hupper⟩ := hall d (List.mem_range.2 h.lt)
  rcases h.eq_or_eq with rfl | rfl
  · exact hwritten
  · exact hupper

theorem isBlank (h : DigitOf d c) : Text.isBlank c = false :=
  h.of_forall (p := fun _ c => Text.isBlank c = false) (by decide)

theorem ne_x (h : DigitOf d c) : c ≠ 'x' :=
  h.of_forall (p := fun _ c => c ≠ 'x') (by decide)

theorem utf8EncodeChar (h : DigitOf d c) :
    String.utf8EncodeChar c = [UInt8.ofNat c.toNat] :=
  h.of_forall (p := fun _ c => String.utf8EncodeChar c = [UInt8.ofNat c.toNat]) (by decide)

theorem hexValue? (h : DigitOf d c) : Text.hexValue? (UInt8.ofNat c.toNat) = some d :=
  h.of_forall (p := fun e c => Text.hexValue? (UInt8.ofNat c.toNat) = some e) (by decide)

end DigitOf

/-! ## Texts of digits -/

theorem div_lt_sixteen (b : UInt8) : b.toNat / 16 < 16 := by
  have := b.toNat_lt
  omega

theorem mod_lt_sixteen (b : UInt8) : b.toNat % 16 < 16 := Nat.mod_lt _ (by decide)

theorem exists_of_mem_hexDigits {c : Char} {bytes : List UInt8} (h : c ∈ hexDigits bytes) :
    ∃ d, d < 16 ∧ c = Nat.digitChar d := by
  obtain ⟨b, -, hc⟩ := List.mem_flatMap.1 h
  rw [hexPair, List.mem_cons, List.mem_singleton] at hc
  rcases hc with rfl | rfl
  · exact ⟨_, div_lt_sixteen b, rfl⟩
  · exact ⟨_, mod_lt_sixteen b, rfl⟩

/-- All characters of a text are digits. -/
def AllDigits (cs : List Char) : Prop := ∀ c ∈ cs, ∃ d, DigitOf d c

/-- A text whose second character is not that of a marker has no marker. -/
theorem dropHexMarker_eq_self {cs : List Char} (h : ∀ c ∈ cs, c ≠ 'x') :
    dropHexMarker cs = cs := by
  unfold dropHexMarker
  split
  case h_1 rest => exact absurd rfl (h 'x' (by simp))
  case h_2 => rfl

namespace AllDigits

variable {cs : List Char}

theorem of_hexDigits (bytes : List UInt8) : AllDigits (hexDigits bytes) := by
  intro c hc
  obtain ⟨d, hd, rfl⟩ := exists_of_mem_hexDigits hc
  exact ⟨d, digitOf_digitChar hd⟩

theorem isBlank (h : AllDigits cs) : ∀ c ∈ cs, Text.isBlank c = false := by
  intro c hc
  obtain ⟨d, hd⟩ := h c hc
  exact hd.isBlank

theorem dropHexMarker (h : AllDigits cs) : Text.dropHexMarker cs = cs := by
  refine dropHexMarker_eq_self fun c hc => ?_
  obtain ⟨d, hd⟩ := h c hc
  exact hd.ne_x

/-- A digit is one byte. -/
theorem utf8Bytes (h : AllDigits cs) :
    Text.utf8Bytes cs = cs.map fun c => UInt8.ofNat c.toNat := by
  induction cs with
  | nil => rfl
  | cons c cs ih =>
      obtain ⟨d, hd⟩ := h c List.mem_cons_self
      have hrest := ih fun c hc => h c (List.mem_cons_of_mem _ hc)
      rw [Text.utf8Bytes] at hrest ⊢
      rw [List.flatMap_cons, hd.utf8EncodeChar, hrest, List.map_cons]
      rfl

end AllDigits

/-! ## Blanks around a text -/

theorem trimBlanks_between {before cs after : List Char}
    (hbefore : ∀ c ∈ before, isBlank c = true) (hcs : ∀ c ∈ cs, isBlank c = false)
    (hafter : ∀ c ∈ after, isBlank c = true) : trimBlanks (before ++ cs ++ after) = cs := by
  rw [trimBlanks, List.append_assoc, List.dropWhile_append_of_pos hbefore]
  cases cs with
  | nil =>
      have hnone : after.dropWhile isBlank = [] := by
        rw [← List.append_nil after, List.dropWhile_append_of_pos hafter, List.dropWhile_nil]
      rw [List.nil_append, hnone]
      rfl
  | cons c cs =>
      have hfirst : (c :: cs ++ after).dropWhile isBlank = c :: cs ++ after := by
        refine dropWhile_eq_self fun d hd => ?_
        obtain rfl : c = d := Option.some.inj hd
        exact hcs c List.mem_cons_self
      have hlast : (c :: cs).reverse.dropWhile isBlank = (c :: cs).reverse := by
        refine dropWhile_eq_self fun d hd => ?_
        exact hcs d (List.mem_reverse.1 (List.mem_of_mem_head? hd))
      have hblank : ∀ d ∈ after.reverse, isBlank d = true := by
        intro d hd
        exact hafter d (List.mem_reverse.1 hd)
      rw [hfirst, trimBlanksEnd, List.reverse_append, List.dropWhile_append_of_pos hblank, hlast,
        List.reverse_reverse]

/-- Nothing but blanks is cut off a text. -/
theorem exists_eq_trimBlanks (cs : List Char) :
    ∃ before after, cs = before ++ trimBlanks cs ++ after ∧ (∀ c ∈ before, isBlank c = true) ∧
      ∀ c ∈ after, isBlank c = true := by
  have hfront : cs = cs.takeWhile isBlank ++ cs.dropWhile isBlank :=
    List.takeWhile_append_dropWhile.symm
  have hback : cs.dropWhile isBlank = trimBlanks cs ++
      ((cs.dropWhile isBlank).reverse.takeWhile isBlank).reverse := by
    rw [trimBlanks, trimBlanksEnd, ← List.reverse_append, List.takeWhile_append_dropWhile,
      List.reverse_reverse]
  refine ⟨cs.takeWhile isBlank, ((cs.dropWhile isBlank).reverse.takeWhile isBlank).reverse, ?_,
    fun c hc => List.mem_takeWhile_imp hc, fun c hc => ?_⟩
  · rw [List.append_assoc, ← hback]
    exact hfront
  · exact List.mem_takeWhile_imp (List.mem_reverse.1 hc)

/-- A text with blanks at its ends, or none, satisfies a property without them. -/
inductive BetweenBlanks (p : List Char → Prop) : List Char → Prop where
  | mk {before cs after : List Char} (hbefore : ∀ c ∈ before, isBlank c = true) (h : p cs)
      (hafter : ∀ c ∈ after, isBlank c = true) : BetweenBlanks p (before ++ cs ++ after)

/-- For a property of texts without blanks the blanks at the ends are those that are cut off. -/
theorem betweenBlanks_iff {p : List Char → Prop}
    (hp : ∀ cs, p cs → ∀ c ∈ cs, isBlank c = false) {cs : List Char} :
    BetweenBlanks p cs ↔ p (trimBlanks cs) := by
  constructor
  · rintro ⟨hbefore, h, hafter⟩
    rwa [trimBlanks_between hbefore (hp _ h) hafter]
  · intro h
    obtain ⟨before, after, hcs, hbefore, hafter⟩ := exists_eq_trimBlanks cs
    rw [hcs]
    exact .mk hbefore h hafter

/-! ## Spellings -/

/-- A text spells some bytes: it holds their digits, each in either case, behind a marker or
none, between blanks. -/
inductive Spells (bytes : List UInt8) : List Char → Prop where
  | mk {before marker digits after : List Char} (hbefore : ∀ c ∈ before, isBlank c = true)
      (hmarker : marker = [] ∨ marker = ['0', 'x'])
      (hdigits : digits.map Char.toLower = hexDigits bytes)
      (hafter : ∀ c ∈ after, isBlank c = true) :
      Spells bytes (before ++ (marker ++ digits) ++ after)

theorem map_toLower_hexDigits (bytes : List UInt8) :
    (hexDigits bytes).map Char.toLower = hexDigits bytes := by
  refine (List.map_congr_left fun c hc => ?_).trans (List.map_id _)
  obtain ⟨d, hd, rfl⟩ := exists_of_mem_hexDigits hc
  exact (digitOf_digitChar hd).lower

/-- The text that is written of bytes spells them. -/
theorem spells_encodeHex (bytes : List UInt8) : Spells bytes (encodeHex bytes).toList := by
  have h : Spells bytes ([] ++ ([] ++ hexDigits bytes) ++ []) :=
    .mk (by simp) (.inl rfl) (map_toLower_hexDigits bytes) (by simp)
  rw [encodeHex, String.toList_ofList]
  rwa [List.nil_append, List.nil_append, List.append_nil] at h

section

variable {digits : List Char} {bytes : List UInt8}

theorem allDigits_of_map_toLower (h : digits.map Char.toLower = hexDigits bytes) :
    AllDigits digits := by
  intro c hc
  have hmem : c.toLower ∈ hexDigits bytes := h ▸ List.mem_map_of_mem hc
  obtain ⟨d, hd, heq⟩ := exists_of_mem_hexDigits hmem
  exact ⟨d, hd, heq⟩

/-- Digits are read in pairs, whatever their case. -/
theorem readHexPairs_of_map_toLower : ∀ {bytes : List UInt8} {digits : List Char},
    digits.map Char.toLower = hexDigits bytes → ∀ index,
      readHexPairs index (digits.map fun c => UInt8.ofNat c.toNat) = .ok bytes
  | [], digits, h, index => by
      obtain rfl : digits = [] := List.map_eq_nil_iff.1 h
      rfl
  | b :: bytes, digits, h, index => by
      rw [hexDigits_cons, hexPair] at h
      obtain ⟨hi, rest, rfl, hhi, hrest⟩ := List.map_eq_cons_iff.1 h
      obtain ⟨lo, rest, rfl, hlo, hrest⟩ := List.map_eq_cons_iff.1 hrest
      have hbyte : UInt8.ofNat (b.toNat / 16 * 16 + b.toNat % 16) = b := by
        rw [Nat.div_add_mod', UInt8.ofNat_toNat]
      rw [List.map_cons, List.map_cons, readHexPairs,
        (DigitOf.mk (div_lt_sixteen b) hhi).hexValue?,
        (DigitOf.mk (mod_lt_sixteen b) hlo).hexValue?]
      show (readHexPairs (index + 2) _).map _ = _
      rw [readHexPairs_of_map_toLower hrest, Except.map, hbyte]

/-- A text is read as the bytes that it spells. -/
theorem decodeHex_of_spells {text : String} (h : Spells bytes text.toList) :
    decodeHex text = .ok bytes := by
  generalize htext : text.toList = cs at h
  obtain @⟨before, marker, digits, after, hbefore, hmarker, hdigits, hafter⟩ := h
  have hall := allDigits_of_map_toLower hdigits
  have hmiddle : ∀ c ∈ marker ++ digits, isBlank c = false := by
    intro c hc
    rcases List.mem_append.1 hc with hmem | hmem
    · rcases hmarker with rfl | rfl
      · cases hmem
      · have hcases : c = '0' ∨ c = 'x' := by simpa using hmem
        rcases hcases with rfl | rfl
        · decide
        · decide
    · exact hall.isBlank c hmem
  have hdrop : dropHexMarker (marker ++ digits) = digits := by
    rcases hmarker with rfl | rfl
    · exact hall.dropHexMarker
    · rfl
  have heven : ¬ (digits.map fun c => UInt8.ofNat c.toNat).length % 2 = 1 := by
    have hlength := congrArg List.length hdigits
    rw [List.length_map, length_hexDigits] at hlength
    rw [List.length_map]
    omega
  rw [decodeHex, htext, trimBlanks_between hbefore hmiddle hafter, hdrop, hall.utf8Bytes, readHex,
    if_neg heven, readHexPairs_of_map_toLower hdigits]

end

/-- What is written of bytes is read as the same bytes. -/
theorem decodeHex_encodeHex (bytes : List UInt8) : decodeHex (encodeHex bytes) = .ok bytes :=
  decodeHex_of_spells (spells_encodeHex bytes)

theorem encodeHex_injective : Function.Injective encodeHex := by
  intro a b h
  have hread := decodeHex_encodeHex a
  rw [h, decodeHex_encodeHex] at hread
  exact (Except.ok.inj hread).symm

/-! ## Texts that break off -/

theorem hexDigits_take (bytes : List UInt8) (n : Nat) :
    (hexDigits bytes).take (2 * n) = hexDigits (bytes.take n) := by
  induction bytes generalizing n with
  | nil => rw [hexDigits_nil, List.take_nil, List.take_nil, hexDigits_nil]
  | cons b bytes ih =>
      cases n with
      | zero => rfl
      | succ n =>
          rw [List.take_succ_cons, hexDigits_cons, hexDigits_cons, ← ih n, Nat.mul_succ]
          rfl

/-- Pairs of digits that stand in front of others spell the first of the bytes. -/
theorem exists_of_prefix_hexDigits {cs : List Char} {bytes : List UInt8}
    (h : cs <+: hexDigits bytes) (heven : cs.length % 2 = 0) :
    ∃ cut more, bytes = cut ++ more ∧ cs = hexDigits cut := by
  refine ⟨bytes.take (cs.length / 2), bytes.drop (cs.length / 2),
    (List.take_append_drop _ _).symm, ?_⟩
  rw [← hexDigits_take, Nat.mul_div_cancel' (Nat.dvd_of_mod_eq_zero heven)]
  exact List.prefix_iff_eq_take.1 h

/-- A digit without its partner is refused. -/
theorem decodeHex_of_odd {text : String} (h : AllDigits text.toList)
    (hodd : text.toList.length % 2 = 1) : decodeHex text = .error .oddLength := by
  have htrim : trimBlanks ([] ++ text.toList ++ []) = text.toList :=
    trimBlanks_between (by simp) h.isBlank (by simp)
  rw [List.nil_append, List.append_nil] at htrim
  rw [decodeHex, htrim, h.dropHexMarker, h.utf8Bytes, readHex, List.length_map, if_pos hodd]

end Concord.Text
