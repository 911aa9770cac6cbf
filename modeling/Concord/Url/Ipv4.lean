import Concord.Text.Numeral
import Concord.Text.Split

/-!
# Addresses of four bytes

An address is a number of 32 bits.  It is written as four bytes in decimal, and read
from one to four numbers: every number but the last is a byte, and the last fills
the bytes that are left.  Each number is in decimal, in hexadecimal behind `0x` or
in octal behind `0`; a point may follow the last.

A name whose last part is a number, or consists of digits, can only be such an
address (`Ipv4.isMeant`).
-/

namespace Concord.Url

open Text

/-- An address of four bytes. -/
structure Ipv4 where
  /-- The address as a number. -/
  number : UInt32
  deriving Repr, DecidableEq

namespace Ipv4

/-! ## Reading -/

/-- The number that digits of a base denote; no digits denote zero. -/
def inBase? (base : Nat) (cs : List Char) : Option Nat :=
  cs.foldlM (fun acc c => (digitValue? base c).map fun d => acc * base + d) 0

/-- The number that a part of an address denotes. -/
def part? : List Char → Option Nat
  | [] => none
  | '0' :: 'x' :: cs => inBase? 16 cs
  | '0' :: 'X' :: cs => inBase? 16 cs
  | '0' :: c :: cs => inBase? 8 (c :: cs)
  | cs => inBase? 10 cs

/-- The parts of a name without the empty one behind a point at its end. -/
def parts (cs : List Char) : List (List Char) :=
  let ps := splitOn '.' cs
  if 1 < ps.length ∧ ps.getLast? = some [] then ps.dropLast else ps

/-- Whether a name can only be an address. -/
def isMeant (cs : List Char) : Bool :=
  match (parts cs).getLast? with
  | none => false
  | some p => (!p.isEmpty && p.all Char.isDigit) || (part? p).isSome

/-- The number that the numbers of an address denote, behind a part already read
with a number of bytes left. -/
def combine? : (acc : Nat) → (left : Nat) → List Nat → Option Nat
  | _, _, [] => none
  | _, 0, _ :: _ => none
  | acc, left + 1, [n] =>
    if n < Nat.pow 256 (left + 1) then some (acc * Nat.pow 256 (left + 1) + n) else none
  | acc, left + 1, n :: ns => if n < 256 then combine? (acc * 256 + n) left ns else none

/-- Reads an address. -/
def read? (cs : List Char) : Option Ipv4 := do
  let ns ← (parts cs).mapM part?
  let n ← combine? 0 4 ns
  return ⟨UInt32.ofNat n⟩

/-! ## Writing -/

/-- An address as it is written. -/
def display (a : Ipv4) : String :=
  let n := a.number.toNat
  decimal (n / 16777216) ++ "." ++ decimal (n / 65536 % 256) ++ "." ++
    decimal (n / 256 % 256) ++ "." ++ decimal (n % 256)

end Ipv4

end Concord.Url
