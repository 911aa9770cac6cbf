import Concord.Curve.Sha512

/-!
# Edwards curve 25519

The curve `-x² + y² = 1 + d x² y²` modulo `2 ^ 255 - 19`.  Points are kept with a
common denominator and the product of their coordinates, which makes one formula
of addition serve for all pairs, equal points and the neutral point included.

A private key is hashed first; half of the hash, with some bits fixed, is the
number that multiplies the base point.  The public key is the second coordinate
of the product with one bit of the first on top, thirty-two bytes in all
(`length_publicKey`).
-/

namespace Concord.Curve.Edwards25519

/-! ## The curve -/

/-- The modulus. -/
def p : Nat := Nat.pow 2 255 - 19

/-- The coefficient of the curve. -/
def d : Nat := subMod p 0 (121665 * invMod p 121666)

/-- A point `(x / z, y / z)` with `t = x y / z`. -/
structure Point where
  /-- The first numerator. -/
  x : Nat
  /-- The second numerator. -/
  y : Nat
  /-- The common denominator. -/
  z : Nat
  /-- The product of the coordinates, times the denominator. -/
  t : Nat
  deriving Repr, DecidableEq

/-- The neutral point. -/
def zero : Point := ⟨0, 1, 1, 0⟩

/-- The first coordinate of the base point. -/
def baseX : Nat :=
  15112221349535400772501151409588531511454012693041857206046113283949847762202

/-- The base point, whose second coordinate is four fifths. -/
def base : Point :=
  let y := 4 * invMod p 5 % p
  ⟨baseX, y, 1, baseX * y % p⟩

/-- The sum of two points. -/
def add (u v : Point) : Point :=
  let a := subMod p u.y u.x * subMod p v.y v.x % p
  let b := (u.y + u.x) * (v.y + v.x) % p
  let c := u.t * 2 * d * v.t % p
  let w := u.z * 2 * v.z % p
  let e := subMod p b a
  let f := subMod p w c
  let g := (w + c) % p
  let h := (b + a) % p
  ⟨e * f % p, g * h % p, f * g % p, e * h % p⟩

/-- A multiple of a point by doubling, with the factor halved at most `steps`
times. -/
def mulSteps : (steps : Nat) → Point → (acc : Point) → (factor : Nat) → Point
  | 0, _, acc, _ => acc
  | steps + 1, u, acc, n =>
    mulSteps steps (add u u) (if n % 2 = 1 then add acc u else acc) (n / 2)

def mul (n : Nat) (u : Point) : Point :=
  mulSteps (n.log2 + 1) u zero n

/-- A point in thirty-two bytes. -/
def compress (u : Point) : List UInt8 :=
  let i := invMod p u.z
  toBytesLE 32 (u.y * i % p + (u.x * i % p % 2) * Nat.pow 2 255)

/-! ## Keys -/

/-- The factor of a private key: the lower half of its hash without the three
lowest bits and the highest, and with the highest but one. -/
def factor (secret : List UInt8) : Nat :=
  let n := ofBytesLE ((Sha512.hash secret).take 32)
  n % Nat.pow 2 254 / 8 * 8 + Nat.pow 2 254

/-- The public key of a private key. -/
def publicKey (secret : List UInt8) : List UInt8 :=
  compress (mul (factor secret) base)

theorem length_publicKey (secret : List UInt8) : (publicKey secret).length = 32 := by
  simp [publicKey, compress]

end Concord.Curve.Edwards25519
