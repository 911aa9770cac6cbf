import Concord.Text.Numeral
import Concord.Text.Split

/-!
# Tables of characters

A table of a standard is written as lines of items between spaces.  An item is a
code point or a run of them, in hexadecimal, and what the table says of them:

* `A-B` is the run from `A` to `B`, and `A~B` every second code point of it;
* `+D` and `<D` move each code point up or down by `D`;
* `>X.Y` gives the same code points for each, `>` none at all.
-/

namespace Concord.Url.Domain

open Text

/-- What a table says of a code point. -/
inductive Entry where
  | here
  /-- Another code point, so much above. -/
  | up (distance : Nat)
  /-- Another code point, so much below. -/
  | down (distance : Nat)
  /-- Given code points. -/
  | fixed (points : List Nat)
  deriving Repr, DecidableEq

/-- A run of code points in a table. -/
structure Run where
  /-- The first code point. -/
  first : Nat
  /-- The last code point. -/
  last : Nat
  /-- The distance between two of them. -/
  step : Nat
  /-- What the table says of them. -/
  entry : Entry
  deriving Repr, DecidableEq

/-! ## Looking up -/

/-- Whether a code point is in a run. -/
def Run.holds (r : Run) (n : Nat) : Bool :=
  r.first ≤ n && n ≤ r.last && (n - r.first) % r.step = 0

def findRun? (runs : List Run) (c : Char) : Option Run :=
  runs.find? fun r => r.holds c.toNat

/-- The characters that a run gives for a character. -/
def Run.image (r : Run) (c : Char) : List Char :=
  match r.entry with
  | .here => [c]
  | .up d => [Char.ofNat (c.toNat + d)]
  | .down d => [Char.ofNat (c.toNat - d)]
  | .fixed ps => ps.map Char.ofNat

/-- The number that a table gives for a character. -/
def valueIn? (runs : List Run) (c : Char) : Option Nat :=
  match (findRun? runs c).map Run.entry with
  | some (.fixed (n :: _)) => some n
  | _ => none

/-! ## Reading -/

/-- The number that a text denotes in hexadecimal. -/
def readHexNat (cs : List Char) : Nat :=
  cs.foldl (fun acc c => acc * 16 + (digitValue? 16 c).getD 0) 0

/-- The code points between points. -/
def readPoints (cs : List Char) : List Nat :=
  if cs = [] then [] else (splitOn '.' cs).map readHexNat

/-- What stands behind a run. -/
def readEntry : List Char → Entry
  | '+' :: cs => .up (readHexNat cs)
  | '<' :: cs => .down (readHexNat cs)
  | '>' :: cs => .fixed (readPoints cs)
  | _ => .here

def isHexDigit (c : Char) : Bool := (digitValue? 16 c).isSome

/-- Reads an item. -/
def readRun (cs : List Char) : Run :=
  let first := readHexNat (cs.takeWhile isHexDigit)
  match cs.dropWhile isHexDigit with
  | '-' :: rest =>
    ⟨first, readHexNat (rest.takeWhile isHexDigit), 1, readEntry (rest.dropWhile isHexDigit)⟩
  | '~' :: rest =>
    ⟨first, readHexNat (rest.takeWhile isHexDigit), 2, readEntry (rest.dropWhile isHexDigit)⟩
  | rest => ⟨first, first, 1, readEntry rest⟩

def readRuns (lines : List String) : List Run :=
  lines.flatMap fun line => (splitOn ' ' line.toList).map readRun

end Concord.Url.Domain
