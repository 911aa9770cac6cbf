import Concord.Text.Numeral

/-!
# Durations

A duration is a whole number of nanoseconds whose seconds are counted in 64 bits.  So a
sum or a multiple of durations need not be a duration (`Duration.add?`,
`Duration.times?`).

It is displayed in the greatest of four units of which there is one at least, with no
zeros at the end of the fraction.
-/

namespace Concord

open Text

namespace Duration

/-- The nanoseconds of a second. -/
def second : Nat := 1000000000

/-- The nanoseconds of a millisecond. -/
def millisecond : Nat := 1000000

/-- The nanoseconds that are too many for a duration. -/
def limit : Nat := (maxUnsigned64 + 1) * second

end Duration

/-- A length of time. -/
@[ext]
structure Duration where
  nanos : Nat
  /-- Its seconds fit 64 bits. -/
  nanos_lt : nanos < Duration.limit
  deriving Repr, DecidableEq

namespace Duration

/-- The duration of a number of nanoseconds, if they are not too many. -/
def ofNanos? (n : Nat) : Option Duration :=
  if h : n < limit then some ⟨n, h⟩ else none

theorem ofNanos?_eq_some_iff {n : Nat} {d : Duration} : ofNanos? n = some d ↔ d.nanos = n := by
  unfold ofNanos?
  split
  case isTrue h => simp [Duration.ext_iff, eq_comm]
  case isFalse h =>
    have := d.nanos_lt
    simp only [reduceCtorEq, false_iff]
    omega

theorem ofNanos?_eq_none_iff {n : Nat} : ofNanos? n = none ↔ limit ≤ n := by
  simp [ofNanos?]

/-- No time at all. -/
def zero : Duration := ⟨0, by decide⟩

/-- A number of 64 bits counts what is at most a second each. -/
theorem scaled_lt (n : UInt64) {unit : Nat} (h : unit ≤ second) : n.toNat * unit < limit := by
  have hn : n.toNat < maxUnsigned64 + 1 := n.toNat_lt
  calc n.toNat * unit ≤ n.toNat * second := Nat.mul_le_mul_left _ h
    _ < limit := Nat.mul_lt_mul_of_pos_right hn (by decide)

/-- A number of seconds. -/
def ofSeconds (n : UInt64) : Duration := ⟨n.toNat * second, scaled_lt n (Nat.le_refl _)⟩

/-- A number of milliseconds. -/
def ofMillis (n : UInt64) : Duration := ⟨n.toNat * millisecond, scaled_lt n (by decide)⟩

/-- The whole milliseconds of a duration. -/
def millis (d : Duration) : Nat := d.nanos / millisecond

/-- Two durations one after the other, if that is a duration. -/
def add? (a b : Duration) : Option Duration := ofNanos? (a.nanos + b.nanos)

/-- A multiple of a duration, if it is one. -/
def times? (d : Duration) (n : Nat) : Option Duration := ofNanos? (d.nanos * n)

/-- What is said of a sum that is not a duration. -/
def overflowText : String := "overflow when adding durations"

/-! ## Display -/

/-- The digits of a fraction in a number of places. -/
def placeDigits : (places : Nat) → Nat → List Char
  | 0, _ => []
  | places + 1, n => placeDigits places (n / 10) ++ [Nat.digitChar (n % 10)]

/-- A number of nanoseconds in a unit that has `10 ^ places` of them. -/
def displayIn (unit : String) (places nanos : Nat) : String :=
  let digits := placeDigits places (nanos % Nat.pow 10 places)
  let fraction := match (digits.reverse.dropWhile (· = '0')).reverse with
    | [] => ""
    | ds => "." ++ String.ofList ds
  decimal (nanos / Nat.pow 10 places) ++ fraction ++ unit

def display (d : Duration) : String :=
  if second ≤ d.nanos then displayIn "s" 9 d.nanos
  else if millisecond ≤ d.nanos then displayIn "ms" 6 d.nanos
  else if 1000 ≤ d.nanos then displayIn "µs" 3 d.nanos
  else displayIn "ns" 0 d.nanos

example : (ofMillis 1050).display = "1.05s" := by decide +kernel

end Duration

end Concord
