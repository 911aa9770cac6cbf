/-!
# Arithmetic modulo a prime

The few operations on remainders that the curves need, as functions of the
modulus.  The inverse is the power that Fermat's theorem gives, so it needs a
prime modulus; the inverse of zero is zero.

Bytes are read and written as numbers in either order (`ofBytesLE`, `ofBytesBE`),
and writing takes a fixed number of bytes.
-/

namespace Concord.Curve

/-! ## Remainders -/

/-- The difference of two remainders. -/
def subMod (p a b : Nat) : Nat :=
  (a + (p - b % p)) % p

/-- A power of a remainder by repeated squaring, with the exponent halved at most
`steps` times. -/
def powModSteps (p : Nat) : (steps : Nat) → (base acc exponent : Nat) → Nat
  | 0, _, acc, _ => acc
  | steps + 1, base, acc, e =>
    powModSteps p steps (base * base % p) (if e % 2 = 1 then acc * base % p else acc) (e / 2)

/-- A power of a remainder. -/
def powMod (p a e : Nat) : Nat :=
  powModSteps p (e.log2 + 1) (a % p) (1 % p) e

/-- The inverse of a remainder modulo a prime. -/
def invMod (p a : Nat) : Nat :=
  powMod p a (p - 2)

/-! ## Numbers and bytes -/

/-- The number of some bytes, least byte first. -/
def ofBytesLE : List UInt8 → Nat
  | [] => 0
  | b :: bs => b.toNat + 256 * ofBytesLE bs

/-- The number of some bytes, greatest byte first. -/
def ofBytesBE (bytes : List UInt8) : Nat :=
  bytes.foldl (fun n b => n * 256 + b.toNat) 0

/-- The lower bytes of a number, least byte first. -/
def toBytesLE : (size : Nat) → Nat → List UInt8
  | 0, _ => []
  | size + 1, n => UInt8.ofNat (n % 256) :: toBytesLE size (n / 256)

/-- The lower bytes of a number, greatest byte first. -/
def toBytesBE (size n : Nat) : List UInt8 :=
  (toBytesLE size n).reverse

@[simp] theorem length_toBytesLE (size n : Nat) : (toBytesLE size n).length = size := by
  induction size generalizing n with
  | zero => rfl
  | succ size ih => simp [toBytesLE, ih]

@[simp] theorem length_toBytesBE (size n : Nat) : (toBytesBE size n).length = size := by
  simp [toBytesBE]

end Concord.Curve
