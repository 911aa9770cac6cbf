import Concord.Curve.Modular

/-!
# The hash function SHA-512

The message is padded to blocks of 128 bytes, and each block is mixed into eight
words of 64 bits in eighty rounds.  The words of the standard are not listed but
computed: the eight starting words are the first 64 bits behind the point of the
square roots of the first eight primes, and the eighty words of the rounds those
of the cube roots of the first eighty.
-/

namespace Concord.Curve.Sha512

/-! ## Words of the standard -/

/-- The first eighty primes. -/
def primes : List Nat :=
  [2, 3, 5, 7, 11, 13, 17, 19, 23, 29, 31, 37, 41, 43, 47, 53, 59, 61, 67, 71, 73, 79, 83, 89, 97,
   101, 103, 107, 109, 113, 127, 131, 137, 139, 149, 151, 157, 163, 167, 173, 179, 181, 191, 193,
   197, 199, 211, 223, 227, 229, 233, 239, 241, 251, 257, 263, 269, 271, 277, 281, 283, 293, 307,
   311, 313, 317, 331, 337, 347, 349, 353, 359, 367, 373, 379, 383, 389, 397, 401, 409]

/-- The greatest number whose power `k` is at most `n`, among `acc` with some of
its lower `bits` bits set. -/
def rootBits (k n : Nat) : (bits : Nat) → (acc : Nat) → Nat
  | 0, acc => acc
  | bits + 1, acc =>
    let next := acc + Nat.pow 2 bits
    rootBits k n bits (if Nat.pow next k ≤ n then next else acc)

/-- The first 64 bits behind the point of a root. -/
def rootFraction (k p : Nat) : UInt64 :=
  UInt64.ofNat (rootBits k (p * Nat.pow 2 (64 * k)) 72 0)

/-- The words that hashing starts from. -/
def initial : List UInt64 :=
  (primes.take 8).map (rootFraction 2)

def roundWords : List UInt64 :=
  primes.map (rootFraction 3)

/-! ## Rounds -/

/-- A word turned right. -/
def rotr (x : UInt64) (n : UInt64) : UInt64 :=
  (x >>> n) ||| (x <<< (64 - n))

/-- The schedule of a block: its words, extended from the sixteen before. -/
def extend : (left : Nat) → List UInt64 → List UInt64
  | 0, ws => ws.reverse
  | left + 1, ws =>
    let s0 (x : UInt64) : UInt64 := rotr x 1 ^^^ rotr x 8 ^^^ (x >>> 7)
    let s1 (x : UInt64) : UInt64 := rotr x 19 ^^^ rotr x 61 ^^^ (x >>> 6)
    let w (i : Nat) : UInt64 := ws.getD (i - 1) 0
    extend left ((w 16 + s0 (w 15) + w 7 + s1 (w 2)) :: ws)

/-- The eight words that a round mixes. -/
structure State where
  /-- The first word. -/
  a : UInt64
  /-- The second word. -/
  b : UInt64
  /-- The third word. -/
  c : UInt64
  /-- The fourth word. -/
  d : UInt64
  /-- The fifth word. -/
  e : UInt64
  /-- The sixth word. -/
  f : UInt64
  /-- The seventh word. -/
  g : UInt64
  /-- The eighth word. -/
  h : UInt64
  deriving Repr, DecidableEq

/-- The state of eight words; missing words are zero. -/
def State.ofList (ws : List UInt64) : State :=
  let w (i : Nat) : UInt64 := ws.getD i 0
  ⟨w 0, w 1, w 2, w 3, w 4, w 5, w 6, w 7⟩

/-- The words of a state. -/
def State.toList (s : State) : List UInt64 :=
  [s.a, s.b, s.c, s.d, s.e, s.f, s.g, s.h]

/-- One round, with its word of the standard and of the schedule. -/
def round (s : State) (k w : UInt64) : State :=
  let big1 := rotr s.e 14 ^^^ rotr s.e 18 ^^^ rotr s.e 41
  let choose := (s.e &&& s.f) ^^^ ((~~~ s.e) &&& s.g)
  let t1 := s.h + big1 + choose + k + w
  let big0 := rotr s.a 28 ^^^ rotr s.a 34 ^^^ rotr s.a 39
  let majority := (s.a &&& s.b) ^^^ (s.a &&& s.c) ^^^ (s.b &&& s.c)
  ⟨t1 + big0 + majority, s.a, s.b, s.c, s.d + t1, s.e, s.f, s.g⟩

def blockWords : (count : Nat) → List UInt8 → List UInt64
  | 0, _ => []
  | count + 1, bytes => UInt64.ofNat (ofBytesBE (bytes.take 8)) :: blockWords count (bytes.drop 8)

/-- Mixes a block into the words of the hash. -/
def compress (hash : List UInt64) (block : List UInt8) : List UInt64 :=
  let schedule := extend 64 (blockWords 16 block).reverse
  let mixed := (roundWords.zip schedule).foldl (fun s kw => round s kw.1 kw.2) (.ofList hash)
  List.zipWith (· + ·) hash mixed.toList

/-! ## Messages -/

/-- A message with its padding: a single bit, zeros, and its length in bits. -/
def pad (message : List UInt8) : List UInt8 :=
  let n := message.length
  message ++ 0x80 :: (List.replicate ((239 - n % 128) % 128) 0 ++ toBytesBE 16 (8 * n))

/-- Mixes some blocks into the words of the hash. -/
def absorb : (blocks : Nat) → List UInt64 → List UInt8 → List UInt64
  | 0, hash, _ => hash
  | blocks + 1, hash, bytes => absorb blocks (compress hash (bytes.take 128)) (bytes.drop 128)

/-- The sixty-four bytes of the hash of a message. -/
def hash (message : List UInt8) : List UInt8 :=
  let padded := pad message
  (absorb (padded.length / 128) initial padded).flatMap fun w => toBytesBE 8 w.toNat

end Concord.Curve.Sha512
