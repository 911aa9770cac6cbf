import Concord.Curve.Modular

/-!
# Curve secp256k1

The curve `y² = x³ + 7` modulo `2 ^ 256 - 2 ^ 32 - 977`.  Points are kept with a
denominator `z`, as `(x / z², y / z³)`; the point without coordinates has `z = 0`.

A private key is a number from one up to the order of the group, exclusive, and
its public key is that multiple of the base point.  It is written as the first
coordinate behind a tag that tells whether the second is even or odd
(`head?_publicKey?`), thirty-three bytes in all (`length_publicKey?`).
-/

namespace Concord.Curve.Secp256k1

/-! ## The curve -/

/-- The modulus. -/
def p : Nat := Nat.pow 2 256 - Nat.pow 2 32 - 977

/-- The order of the group. -/
def order : Nat := 0xFFFFFFFFFFFFFFFFFFFFFFFFFFFFFFFEBAAEDCE6AF48A03BBFD25E8CD0364141

/-- A point `(x / z², y / z³)`. -/
structure Point where
  /-- The first numerator. -/
  x : Nat
  /-- The second numerator. -/
  y : Nat
  /-- The denominator. -/
  z : Nat
  deriving Repr, DecidableEq

/-- The neutral point. -/
def zero : Point := ⟨1, 1, 0⟩

def base : Point :=
  ⟨0x79BE667EF9DCBBAC55A06295CE870B07029BFCDB2DCE28D959F2815B16F81798,
   0x483ADA7726A3C4655DA4FBFC0E1108A8FD17B448A68554199C47D08FFB10D4B8, 1⟩

/-- Twice a point. -/
def double (u : Point) : Point :=
  let a := u.x * u.x % p
  let b := u.y * u.y % p
  let c := b * b % p
  let s := 4 * u.x * b % p
  let m := 3 * a % p
  let x := subMod p (m * m) (2 * s)
  ⟨x, subMod p (m * subMod p s x) (8 * c), 2 * u.y * u.z % p⟩

/-- The sum of two points. -/
def add (u v : Point) : Point :=
  if u.z = 0 then v
  else if v.z = 0 then u
  else
    let uz := u.z * u.z % p
    let vz := v.z * v.z % p
    let a := u.x * vz % p
    let b := v.x * uz % p
    let c := u.y * vz * v.z % p
    let e := v.y * uz * u.z % p
    if a = b then if c = e then double u else zero
    else
      let h := subMod p b a
      let r := subMod p e c
      let hh := h * h % p
      let hhh := h * hh % p
      let w := a * hh % p
      let x := subMod p (r * r) (hhh + 2 * w)
      ⟨x, subMod p (r * subMod p w x) (c * hhh), h * u.z * v.z % p⟩

/-- A multiple of a point by doubling, with the factor halved at most `steps`
times. -/
def mulSteps : (steps : Nat) → Point → (acc : Point) → (factor : Nat) → Point
  | 0, _, acc, _ => acc
  | steps + 1, u, acc, n =>
    mulSteps steps (double u) (if n % 2 = 1 then add acc u else acc) (n / 2)

def mul (n : Nat) (u : Point) : Point :=
  mulSteps (n.log2 + 1) u zero n

/-- A point in thirty-three bytes. -/
def compress (u : Point) : List UInt8 :=
  let i := invMod p u.z
  let y := u.y * i * i * i % p
  (if y % 2 = 0 then 2 else 3) :: toBytesBE 32 (u.x * i * i % p)

/-! ## Keys -/

/-- Whether a number is a private key. -/
def validFactor (n : Nat) : Bool :=
  0 < n && n < order

/-- The public key of a private key, if it is one. -/
def publicKey? (secret : List UInt8) : Option (List UInt8) :=
  let n := ofBytesBE secret
  if validFactor n then some (compress (mul n base)) else none

theorem length_publicKey? {secret key : List UInt8} (h : publicKey? secret = some key) :
    key.length = 33 := by
  rw [publicKey?, Option.ite_none_right_eq_some] at h
  rw [← Option.some.inj h.2]
  simp [compress]

theorem head?_publicKey? {secret key : List UInt8} (h : publicKey? secret = some key) :
    key.head? = some 2 ∨ key.head? = some 3 := by
  rw [publicKey?, Option.ite_none_right_eq_some] at h
  rw [← Option.some.inj h.2, compress]
  split <;> simp

end Concord.Curve.Secp256k1
