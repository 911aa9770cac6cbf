import Concord.Random.ChaCha12

/-!
# Random values

A random stream is the key stream of a seed and the place reached in it.  A value
is a whole number of words: one for 32 bits, two for 64 bits with the low one
first, and as many as are begun for a string of bytes, so that the rest of its last
word is not used.

The seed has 64 bits and is spread over the key by a linear congruence, eight
words of which are drawn with a rotation that depends on the state.
-/

namespace Concord.Random

/-! ## Keys of seeds -/

/-- The next state of the congruence. -/
def nextState (state : UInt64) : UInt64 :=
  state * 6364136223846793005 + 11634580027462260723

/-- The word drawn from a state of the congruence. -/
def drawnWord (state : UInt64) : UInt32 :=
  let mixed : UInt32 := (((state >>> 18) ^^^ state) >>> 27).toUInt32
  let turn : UInt32 := (state >>> 59).toUInt32
  (mixed >>> turn) ||| (mixed <<< ((32 - turn) % 32))

/-- The state of the congruence after a number of steps. -/
def stateAfter (seed : UInt64) : Nat → UInt64
  | 0 => seed
  | n + 1 => nextState (stateAfter seed n)

def keyOf (seed : UInt64) : ChaCha12.Key :=
  Vector.ofFn fun (i : Fin 8) => drawnWord (stateAfter seed (i.val + 1))

/-! ## Streams -/

/-- A random stream. -/
structure Stream where
  key : ChaCha12.Key
  /-- The number of words drawn so far. -/
  place : Nat
  deriving DecidableEq

/-- The bytes of a word, the low one first. -/
def bytesOfWord (w : UInt32) : List UInt8 :=
  [w.toUInt8, (w >>> 8).toUInt8, (w >>> 16).toUInt8, (w >>> 24).toUInt8]

namespace Stream

def ofSeed (seed : UInt64) : Stream := ⟨keyOf seed, 0⟩

/-- Draws words. -/
def words (s : Stream) (count : Nat) : List UInt32 × Stream :=
  (ChaCha12.words s.key s.place count, { s with place := s.place + count })

/-- Draws a value of 32 bits. -/
def nat32 (s : Stream) : UInt32 × Stream :=
  let r := s.words 1
  (r.1.headD 0, r.2)

/-- Draws a value of 64 bits. -/
def nat64 (s : Stream) : UInt64 × Stream :=
  let r := s.words 2
  match r.1 with
  | [low, high] => (low.toUInt64 ||| (high.toUInt64 <<< 32), r.2)
  | _ => (0, r.2)

/-- Draws a string of bytes. -/
def bytes (s : Stream) (count : Nat) : List UInt8 × Stream :=
  let r := s.words ((count + 3) / 4)
  ((r.1.flatMap bytesOfWord).take count, r.2)

theorem length_flatMap_bytesOfWord (ws : List UInt32) :
    (ws.flatMap bytesOfWord).length = 4 * ws.length := by
  induction ws with
  | nil => rfl
  | cons w ws ih => simp [bytesOfWord] at ih ⊢; omega

theorem length_bytes (s : Stream) (count : Nat) : (s.bytes count).1.length = count := by
  rw [bytes, words, List.length_take, length_flatMap_bytesOfWord, ChaCha12.length_words]
  omega

end Stream

end Concord.Random
