/-!
# Numbers with a binary fraction

A number of 64 bits in the interchange format of IEEE 754, finite ones only: a
sign, a significand below `2 ^ 53` and a power of two.  Two numbers are equal
when their sign, significand and power are, so a negative zero is a number of
its own.

`roundRatio` is the only place where precision is lost.  It takes a quotient of
whole numbers to the nearest significand on the grid of its size, a half to the
even neighbour, and is `none` beyond the largest finite number.  All else is
exact arithmetic on whole numbers.

* `ofScientific` reads a decimal.  The digits and the power of ten are each
  rounded first and their product or quotient after that, which for long
  decimals need not give the nearest number of all.
* `shortest` gives the fewest decimal digits that lie closer to the number than
  to any other.
-/

namespace Concord.Number

/-! ## Magnitudes -/

/-- A magnitude `significand * 2 ^ exponent`. -/
structure Dyadic where
  /-- The whole number that is scaled. -/
  significand : Nat
  /-- The power of two that scales it. -/
  exponent : Int
  deriving Repr, DecidableEq

/-- The least power of two of a finite number. -/
def minExponent : Int := -1074

/-- The greatest power of two of a finite number. -/
def maxExponent : Int := 971

/-- A quotient scaled by a power of two, as numerator and denominator. -/
def scaleRatio (num den : Nat) (power : Int) : Nat × Nat :=
  if 0 ≤ power then (num, den * Nat.pow 2 power.toNat) else (num * Nat.pow 2 (-power).toNat, den)

/-- The whole number nearest to a quotient, a half to the even neighbour. -/
def roundDiv (num den : Nat) : Nat :=
  let q := num / den
  let r := num % den
  if 2 * r < den then q
  else if den < 2 * r then q + 1
  else if q % 2 = 0 then q else q + 1

/-- The power of two of the grid on which a quotient is rounded: the significand
then has 53 bits, or fewer at the least power. -/
def gridExponent (num den : Nat) : Int :=
  let guess : Int := Int.ofNat num.log2 - Int.ofNat den.log2 - 53
  let fits (e : Int) : Bool :=
    let s := scaleRatio num den e
    decide (s.1 < s.2 * Nat.pow 2 53)
  let e := if fits guess then guess else if fits (guess + 1) then guess + 1 else guess + 2
  max e minExponent

/-- The magnitude nearest to a quotient, or none beyond the largest. -/
def roundRatio (num den : Nat) : Option Dyadic :=
  if num = 0 then some ⟨0, minExponent⟩
  else
    let e := gridExponent num den
    let s := scaleRatio num den e
    let m := roundDiv s.1 s.2
    let d : Dyadic := if m = Nat.pow 2 53 then ⟨Nat.pow 2 52, e + 1⟩ else ⟨m, e⟩
    if maxExponent < d.exponent then none else some d

/-- A magnitude as a quotient. -/
def Dyadic.ratio (d : Dyadic) : Nat × Nat :=
  if 0 ≤ d.exponent then (d.significand * Nat.pow 2 d.exponent.toNat, 1)
  else (d.significand, Nat.pow 2 (-d.exponent).toNat)

/-- The rounded product of two magnitudes. -/
def Dyadic.mul (a b : Dyadic) : Option Dyadic :=
  roundRatio (a.ratio.1 * b.ratio.1) (a.ratio.2 * b.ratio.2)

/-- The rounded quotient of two magnitudes. -/
def Dyadic.div (a b : Dyadic) : Option Dyadic :=
  roundRatio (a.ratio.1 * b.ratio.2) (a.ratio.2 * b.ratio.1)

/-! ## Numbers -/

/-- A finite number: a sign and a magnitude. -/
structure Binary64 where
  /-- Whether the number carries a minus sign. -/
  negative : Bool
  /-- Its distance from zero. -/
  magnitude : Dyadic
  deriving Repr, DecidableEq

/-! ## From decimal -/

/-- A magnitude scaled by a power of ten, in steps of at most `10 ^ 308`.  A
quotient that reaches zero stays zero. -/
def scaleTen : (steps : Nat) → Dyadic → Int → Option Dyadic
  | 0, _, _ => none
  | steps + 1, d, e =>
    if e.natAbs ≤ 308 then
      (roundRatio (Nat.pow 10 e.natAbs) 1).bind fun power =>
        if 0 ≤ e then d.mul power else d.div power
    else if d.significand = 0 then some d
    else if 0 ≤ e then none
    else
      (roundRatio (Nat.pow 10 308) 1).bind fun power =>
        (d.div power).bind fun d => scaleTen steps d (e + 308)

/-- The number of a decimal `digits * 10 ^ exponent`, or none if it is too
large. -/
def ofScientific (negative : Bool) (digits : Nat) (exponent : Int) : Option Binary64 :=
  (roundRatio digits 1).bind fun d =>
    (scaleTen (exponent.natAbs / 308 + 1) d exponent).map fun m => ⟨negative, m⟩

/-! ## To decimal -/

/-- Whether a decimal `digits * 10 ^ power` rounds to a magnitude: it lies
between the two midpoints to the neighbours, which belong to an even
significand. -/
def roundsTo (d : Dyadic) (digits : Nat) (power : Int) : Bool :=
  let dec : Nat × Nat :=
    if 0 ≤ power then (digits * Nat.pow 10 power.toNat, 1) else (digits, Nat.pow 10 (-power).toNat)
  let scale (n : Nat) (e : Int) : Nat × Nat :=
    if 0 ≤ e then (n * Nat.pow 2 e.toNat, 1) else (n, Nat.pow 2 (-e).toNat)
  let atBinade := d.significand = Nat.pow 2 52 ∧ minExponent < d.exponent
  let low :=
    if atBinade then scale (4 * d.significand - 1) (d.exponent - 2)
    else scale (2 * d.significand - 1) (d.exponent - 1)
  let high := scale (2 * d.significand + 1) (d.exponent - 1)
  let below (a b : Nat × Nat) : Bool := decide (a.1 * b.2 < b.1 * a.2)
  if d.significand % 2 = 0 then !below dec low && !below high dec
  else below low dec && below dec high

/-- The number of decimal digits of a whole number, none for zero. -/
def digitCount (n : Nat) : Nat :=
  if n = 0 then 0 else (Nat.toDigits 10 n).length

/-- The power of ten just above a quotient: the least `k` with
`num / den < 10 ^ k`. -/
def decimalExponent (num den : Nat) : Int :=
  if den ≤ num then Int.ofNat (digitCount (num / den))
  else
    let shift := digitCount den - digitCount num
    if num * Nat.pow 10 shift < den then -(Int.ofNat shift)
    else 1 - Int.ofNat shift

/-- The decimal of at most `count` digits that is nearest to a magnitude and
rounds to it, if one does. -/
def decimalOf (d : Dyadic) (count : Nat) : Option (Nat × Int) :=
  let r := d.ratio
  let power := decimalExponent r.1 r.2 - Int.ofNat count
  let scaled : Nat × Nat :=
    if 0 ≤ power then (r.1, r.2 * Nat.pow 10 power.toNat) else (r.1 * Nat.pow 10 (-power).toNat, r.2)
  let low := scaled.1 / scaled.2
  let nearest := roundDiv scaled.1 scaled.2
  let other := if nearest = low then low + 1 else low
  if roundsTo d nearest power then some (nearest, power)
  else if roundsTo d other power then some (other, power)
  else none

/-- The first decimal found when the digits allowed grow from `count`. -/
def shortestFrom (d : Dyadic) : (left : Nat) → (count : Nat) → Nat × Int
  | 0, _ => (d.significand, d.exponent)
  | left + 1, count => (decimalOf d count).getD (shortestFrom d left (count + 1))

/-- A decimal without zeros at its end. -/
def stripZeros : (left : Nat) → Nat × Int → Nat × Int
  | 0, r => r
  | left + 1, (n, p) => if n % 10 = 0 ∧ 0 < n then stripZeros left (n / 10, p + 1) else (n, p)

/-- The shortest decimal that rounds to a magnitude, as digits and the power of
ten of the last of them. -/
def shortest (d : Dyadic) : Nat × Int :=
  if d.significand = 0 then (0, 0) else stripZeros 18 (shortestFrom d 17 1)

/-! ## Texts -/

/-- A decimal written out with a point, and at least one digit on each side. -/
def positional (digits : List Char) (power : Int) : List Char :=
  if 0 ≤ power then digits ++ List.replicate power.toNat '0' ++ ['.', '0']
  else
    let places := (-power).toNat
    if places < digits.length then
      digits.take (digits.length - places) ++ '.' :: digits.drop (digits.length - places)
    else '0' :: '.' :: List.replicate (places - digits.length) '0' ++ digits

/-- A decimal with a power of ten behind the letter `e`. -/
def scientific (digits : List Char) (power : Int) : List Char :=
  let exponent : Int := power + Int.ofNat digits.length - 1
  let mark := if exponent < 0 then ['e', '-'] else ['e']
  let head := match digits with
    | [] => []
    | [c] => [c]
    | c :: cs => c :: '.' :: cs
  head ++ mark ++ Nat.toDigits 10 exponent.natAbs

def Binary64.sign (x : Binary64) : List Char :=
  if x.negative then ['-'] else []

/-- A number in digits and a point, however many that takes. -/
def Binary64.plain (x : Binary64) : List Char :=
  let r := shortest x.magnitude
  x.sign ++ positional (Nat.toDigits 10 r.1) r.2

/-- A number in at most seventeen digits: with a point from `10 ^ -5` up to
`10 ^ 16`, and with a power of ten outside. -/
def Binary64.compact (x : Binary64) : List Char :=
  let r := shortest x.magnitude
  let digits := Nat.toDigits 10 r.1
  let top : Int := r.2 + Int.ofNat digits.length
  x.sign ++
    (if x.magnitude.significand = 0 ∨ (-5 < top ∧ top ≤ 16) then positional digits r.2
     else scientific digits r.2)

end Concord.Number
