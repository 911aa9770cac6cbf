/-!
# Labels in ASCII

A label with other letters than those of ASCII is carried as its ASCII letters,
behind them a hyphen if there are any, and then a row of numbers that say where the
others are put in.  The others are put in from the lowest up.  Each number counts
the places that are passed over since the last one, where a place is a position in
the label together with a letter, and is written in digits from `a` to `z` and `0`
to `9` whose thresholds adapt to the numbers before.
-/

namespace Concord.Url.Punycode

/-! ## Digits -/

/-- The digit of a value. -/
def digit (d : Nat) : Char :=
  if d < 26 then Char.ofNat (0x61 + d) else Char.ofNat (0x30 + d - 26)

/-- The value of a digit. -/
def value? (c : Char) : Option Nat :=
  if 'a' ≤ c ∧ c ≤ 'z' then some (c.toNat - 0x61)
  else if 'A' ≤ c ∧ c ≤ 'Z' then some (c.toNat - 0x41)
  else if '0' ≤ c ∧ c ≤ '9' then some (c.toNat - 0x30 + 26)
  else none

/-- The threshold of the digit at a place, counted in steps of thirty-six. -/
def threshold (place bias : Nat) : Nat :=
  if place ≤ bias then 1 else if bias + 26 ≤ place then 26 else place - bias

theorem threshold_pos (place bias : Nat) : 1 ≤ threshold place bias := by
  grind [threshold]

/-! ## Adapting -/

/-- Divides a number until it is small, and counts the divisions in steps of
thirty-six. -/
def shrink (delta count : Nat) : Nat × Nat :=
  if 455 < delta then shrink (delta / 35) (count + 36) else (delta, count)
termination_by delta
decreasing_by exact Nat.div_lt_self (by omega) (by omega)

/-- The next bias, after a number was written for a label of some length. -/
def adapt (delta length : Nat) (isFirst : Bool) : Nat :=
  let delta := if isFirst then delta / 700 else delta / 2
  let r := shrink (delta + delta / length) 0
  r.2 + 36 * r.1 / (r.1 + 38)

/-! ## Writing -/

/-- The digits of a number. -/
def writeNumber (bias place n : Nat) : List Char :=
  let t := threshold place bias
  if n < t then [digit n]
  else digit (t + (n - t) % (36 - t)) :: writeNumber bias (place + 36) ((n - t) / (36 - t))
termination_by n
decreasing_by
  have h₁ := threshold_pos place bias
  have h₂ := Nat.div_le_self (n - threshold place bias) (36 - threshold place bias)
  omega

/-- What is known while a label is written. -/
structure Writer where
  /-- The digits written so far. -/
  out : List Char
  /-- The places passed over since the last number. -/
  delta : Nat
  /-- The bias of the next number. -/
  bias : Nat
  /-- The number of letters put in so far. -/
  handled : Nat

/-- Passes a letter of the label while those of one value are put in. -/
def Writer.pass (basic point : Nat) (w : Writer) (c : Char) : Writer :=
  if c.toNat < point then { w with delta := w.delta + 1 }
  else if c.toNat = point then
    ⟨w.out ++ writeNumber w.bias 36 w.delta, 0, adapt w.delta (w.handled + 1) (w.handled = basic),
      w.handled + 1⟩
  else w

/-- Puts in the letters of given values, in order, behind those below a value. -/
def writePoints (label : List Char) (basic : Nat) : List Nat → Nat → Writer → Writer
  | [], _, w => w
  | point :: points, next, w =>
    let w := { w with delta := w.delta + (point - next) * (w.handled + 1) }
    let w := label.foldl (Writer.pass basic point) w
    writePoints label basic points (point + 1) { w with delta := w.delta + 1 }

/-- The ASCII letters of a label. -/
def basicPart (label : List Char) : List Char :=
  label.filter fun c => c.toNat < 0x80

/-- A label in ASCII. -/
def encode (label : List Char) : List Char :=
  let basic := basicPart label
  let points := ((label.filter fun c => 0x80 ≤ c.toNat).map Char.toNat).mergeSort.eraseDups
  let w := writePoints label basic.length points 0x80 ⟨[], 0, 72, basic.length⟩
  basic ++ (if basic = [] then [] else ['-']) ++ w.out

/-! ## Reading -/

/-- Reads a number behind a part already read, and returns it with what follows. -/
def readNumber? (bias : Nat) : (place weight acc : Nat) → List Char → Option (Nat × List Char)
  | _, _, _, [] => none
  | place, weight, acc, c :: cs =>
    match value? c with
    | none => none
    | some d =>
      let t := threshold place bias
      if d < t then some (acc + d * weight, cs)
      else readNumber? bias (place + 36) (weight * (36 - t)) (acc + d * weight) cs

theorem length_of_readNumber? {bias : Nat} {cs : List Char} {place weight acc : Nat}
    {r : Nat × List Char} (h : readNumber? bias place weight acc cs = some r) :
    r.2.length < cs.length := by
  induction cs generalizing place weight acc with
  | nil => simp [readNumber?] at h
  | cons c cs ih =>
    rw [readNumber?] at h
    split at h
    · simp at h
    · dsimp only at h
      split at h
      · simp only [Option.some.injEq] at h
        subst h
        simp
      · have := ih h
        simp only [List.length_cons]
        omega

/-- Puts in the letters that numbers say, into those of a label so far. -/
def readPoints? (bias point index : Nat) (label : List Char) (cs : List Char) :
    Option (List Char) :=
  match cs with
  | [] => some label
  | c :: cs =>
    match _h : readNumber? bias 36 1 index (c :: cs) with
    | none => none
    | some r =>
      let length := label.length + 1
      let point := point + r.1 / length
      if point.isValidChar then
        readPoints? (adapt (r.1 - index) length (index = 0)) point (r.1 % length + 1)
          (label.insertIdx (r.1 % length) (Char.ofNat point)) r.2
      else none
termination_by cs.length
decreasing_by exact length_of_readNumber? (by assumption)

/-- The label of a text in ASCII.  A hyphen in front of everything ends no letters, and as
it is no digit either, no label has that text. -/
def decode? (cs : List Char) : Option (List Char) :=
  match cs.reverse.dropWhile (· ≠ '-') with
  | [] => readPoints? 72 0x80 0 [] cs
  | [_] => none
  | _ :: basic =>
    readPoints? 72 0x80 0 basic.reverse (cs.reverse.takeWhile (· ≠ '-')).reverse

end Concord.Url.Punycode
