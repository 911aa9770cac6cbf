import Concord.Url.Domain.Properties

/-!
# Composition

A letter with marks can be written in several ways.  The composed form is unique:
every character is taken apart, marks in a row are ordered by their classes, and
then a letter takes up each mark with which it makes a composed character and which
no mark before it holds back.  Syllables of Hangul are taken apart and put together
by arithmetic on their numbers.
-/

namespace Concord.Url.Domain

/-! ## Hangul -/

/-- The parts of a syllable of Hangul, given its number. -/
def syllableParts (s : Nat) : List Nat :=
  let lead := 0x1100 + s / 588
  let vowel := 0x1161 + s % 588 / 28
  let tail := s % 28
  if tail = 0 then [lead, vowel] else [lead, vowel, 0x11A7 + tail]

/-- The syllable of Hangul that two parts make. -/
def syllable? (a b : Nat) : Option Nat :=
  if 0x1100 ≤ a ∧ a < 0x1113 ∧ 0x1161 ≤ b ∧ b < 0x1176 then
    some (0xAC00 + ((a - 0x1100) * 21 + (b - 0x1161)) * 28)
  else if 0xAC00 ≤ a ∧ a < 0xD7A4 ∧ (a - 0xAC00) % 28 = 0 ∧ 0x11A8 ≤ b ∧ b < 0x11C3 then
    some (a + (b - 0x11A7))
  else none

/-! ## Taking apart -/

/-- The parts of a character.  No character is composed more than three times over. -/
def partsOf : Nat → Char → List Char
  | 0, c => [c]
  | depth + 1, c =>
    if 0xAC00 ≤ c.toNat ∧ c.toNat < 0xD7A4 then
      (syllableParts (c.toNat - 0xAC00)).map Char.ofNat
    else
      match findRun? composed c with
      | some run => (run.image c).flatMap (partsOf depth)
      | none => [c]

/-- Puts a character behind those before it, the last one first, that have no greater
class. -/
def insertMark (c : Char) : List Char → List Char
  | [] => [c]
  | d :: ds =>
    if combiningClass c ≠ 0 ∧ combiningClass c < combiningClass d then d :: insertMark c ds
    else c :: d :: ds

/-- The parts of all characters, with marks in order. -/
def decompose (cs : List Char) : List Char :=
  ((cs.flatMap (partsOf 4)).foldl (fun acc c => insertMark c acc) []).reverse

/-! ## Putting together -/

/-- The composed character of two. -/
def composePair? (a b : Char) : Option Char :=
  match syllable? a.toNat b.toNat with
  | some n => some (Char.ofNat n)
  | none =>
    (composed.find? fun r => r.entry = .fixed [a.toNat, b.toNat]).map fun r => Char.ofNat r.first

/-- Puts parts together, given the last letter and the marks behind it that it does
not take up, last one first. -/
def composeFrom (letter : Char) (held : List Char) : List Char → List Char
  | [] => letter :: held.reverse
  | c :: cs =>
    let free := match held with
      | [] => true
      | d :: _ => combiningClass d < combiningClass c
    match if free then composePair? letter c else none with
    | some p => composeFrom p held cs
    | none =>
      if combiningClass c = 0 then letter :: held.reverse ++ composeFrom c [] cs
      else composeFrom letter (c :: held) cs

/-- Puts parts together. -/
def compose : List Char → List Char
  | [] => []
  | c :: cs => if combiningClass c = 0 then composeFrom c [] cs else c :: compose cs

/-- The composed form of a text. -/
def composedForm (cs : List Char) : List Char :=
  if cs.all (fun c => c.toNat < 0x80) then cs else compose (decompose cs)

end Concord.Url.Domain
