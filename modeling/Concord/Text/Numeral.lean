/-!
# Numerals

Whole numbers as digits in a base, most significant digit first, with the
letters `a` to `f` for the digits above nine.

* *Writing.*  `natDigits` and `intDigits` write the fewest digits; `paddedHex`
  writes a fixed number of hexadecimal digits, the lower ones when there are
  more.
* *Reading.*  `readUnsigned` and `readSigned` read a sign and then digits up to
  a limit.  Digits are taken from the left, so the first digit that is none and
  the first digit that passes the limit compete by position.  Any number of
  leading zeros is read; a sign alone is not a number.
-/

namespace Concord.Text

/-! ## Writing -/

/-- The digits of a number in decimal. -/
def natDigits (n : Nat) : List Char :=
  Nat.toDigits 10 n

/-- The digits of an integer in decimal, behind a minus sign if it is negative. -/
def intDigits : Int → List Char
  | .ofNat n => natDigits n
  | .negSucc n => '-' :: natDigits (n + 1)

/-- A number in decimal. -/
def decimal (n : Nat) : String :=
  String.ofList (natDigits n)

def decimalInt (n : Int) : String :=
  String.ofList (intDigits n)

/-- The last `width` hexadecimal digits of a number, zeros in front. -/
def paddedHex : (width : Nat) → Nat → List Char
  | 0, _ => []
  | width + 1, n => paddedHex width (n / 16) ++ [Nat.digitChar (n % 16)]

theorem length_paddedHex (width n : Nat) : (paddedHex width n).length = width := by
  induction width generalizing n with
  | zero => rfl
  | succ width ih => simp [paddedHex, ih]

/-! ## Reading -/

/-- Why a text is not a number in range. -/
inductive NumeralError where
  | empty
  /-- A character is not a digit of the base, or a sign stands alone. -/
  | invalidDigit
  /-- The number lies above the range. -/
  | tooLarge
  /-- The number lies below the range. -/
  | tooSmall
  deriving Repr, DecidableEq

/-- The wording of each error. -/
def NumeralError.message : NumeralError → String
  | .empty => "cannot parse integer from empty string"
  | .invalidDigit => "invalid digit found in string"
  | .tooLarge => "number too large to fit in target type"
  | .tooSmall => "number too small to fit in target type"

/-- The value of a digit, letters in either case. -/
def digitValue? (base : Nat) (c : Char) : Option Nat :=
  let value :=
    if '0' ≤ c ∧ c ≤ '9' then c.toNat - '0'.toNat
    else if 'a' ≤ c ∧ c ≤ 'z' then c.toNat - 'a'.toNat + 10
    else if 'A' ≤ c ∧ c ≤ 'Z' then c.toNat - 'A'.toNat + 10
    else base
  if value < base then some value else none

theorem digitValue?_lt {base : Nat} {c : Char} {d : Nat} (h : digitValue? base c = some d) :
    d < base := by
  rw [digitValue?, Option.ite_none_right_eq_some] at h
  exact Option.some.inj h.2 ▸ h.1

/-- The number that digits denote behind a part already read, refused with
`beyond` once it passes `limit`. -/
def magnitude (base limit : Nat) (beyond : NumeralError) :
    Nat → List Char → Except NumeralError Nat
  | acc, [] => .ok acc
  | acc, c :: cs =>
    match digitValue? base c with
    | none => .error .invalidDigit
    | some d =>
      if limit < acc * base + d then .error beyond
      else magnitude base limit beyond (acc * base + d) cs

/-- A number without a minus sign, at most `limit`. -/
def readUnsigned (base limit : Nat) : List Char → Except NumeralError Nat
  | [] => .error .empty
  | '+' :: [] => .error .invalidDigit
  | '+' :: c :: cs => magnitude base limit .tooLarge 0 (c :: cs)
  | c :: cs => magnitude base limit .tooLarge 0 (c :: cs)

/-- A number with an optional sign, from `-below` to `above`. -/
def readSigned (base below above : Nat) : List Char → Except NumeralError Int
  | [] => .error .empty
  | '+' :: [] => .error .invalidDigit
  | '-' :: [] => .error .invalidDigit
  | '+' :: c :: cs => (magnitude base above .tooLarge 0 (c :: cs)).map Int.ofNat
  | '-' :: c :: cs => (magnitude base below .tooSmall 0 (c :: cs)).map fun n => -(Int.ofNat n)
  | c :: cs => (magnitude base above .tooLarge 0 (c :: cs)).map Int.ofNat

/-- The greatest number of 64 bits. -/
def maxUnsigned64 : Nat := 18446744073709551615

/-- The greatest number of 64 bits with a sign. -/
def maxSigned64 : Nat := 9223372036854775807

/-- The greatest number of 32 bits with a sign. -/
def maxSigned32 : Nat := 2147483647

/-- The greatest number of 32 bits. -/
def maxUnsigned32 : Nat := 4294967295

/-- A signed number of 64 bits in decimal. -/
def readInt64 (cs : List Char) : Except NumeralError Int :=
  readSigned 10 (maxSigned64 + 1) maxSigned64 cs

end Concord.Text
