import Concord.Text.Numeral
import Concord.Text.Split

/-!
# Addresses of eight pieces

An address is a list of eight numbers of 16 bits, its pieces.  It is written with
colons between the pieces, in hexadecimal without zeros in front, and two colons in
the place of the longest run of zeros if that has two or more.  It is read in the
same form; the two colons may stand for any run of zeros, and the last two pieces
may be four bytes in decimal with points between them.
-/

namespace Concord.Url

open Text

/-- An address of eight pieces. -/
structure Ipv6 where
  pieces : List Nat
  /-- There are eight. -/
  length_pieces : pieces.length = 8
  deriving DecidableEq

namespace Ipv6

/-! ## Reading -/

/-- The piece that one to four digits denote. -/
def piece? (cs : List Char) : Option Nat :=
  if cs = [] ∨ 4 < cs.length then none
  else cs.foldlM (fun acc c => (digitValue? 16 c).map fun d => acc * 16 + d) 0

/-- The byte that decimal digits denote, without zeros in front. -/
def byte? (cs : List Char) : Option Nat :=
  match cs with
  | [] => none
  | ['0'] => some 0
  | '0' :: _ => none
  | cs => do
    let n ← cs.foldlM (fun acc c => (digitValue? 10 c).map fun d => acc * 10 + d) 0
    if n < 256 then some n else none

/-- The two pieces that four bytes denote. -/
def bytes? (cs : List Char) : Option (List Nat) :=
  match (splitOn '.' cs).mapM byte? with
  | some [a, b, c, d] => some [a * 256 + b, c * 256 + d]
  | _ => none

/-- The pieces of the groups between colons.  Four bytes may stand in the last. -/
def groups? (bytesAllowed : Bool) : List (List Char) → Option (List Nat)
  | [] => some []
  | [g] =>
    match piece? g with
    | some n => some [n]
    | none => if bytesAllowed then bytes? g else none
  | g :: gs => do
    let n ← piece? g
    let ns ← groups? bytesAllowed gs
    return n :: ns

/-- The pieces of a side of the two colons. -/
def side? (bytesAllowed : Bool) (cs : List Char) : Option (List Nat) :=
  if cs = [] then some [] else groups? bytesAllowed (splitOn ':' cs)

/-- The parts of a text around the first two colons in a row, if it has them. -/
def splitColons : List Char → Option (List Char × List Char)
  | ':' :: ':' :: cs => some ([], cs)
  | c :: cs => (splitColons cs).map fun p => (c :: p.1, p.2)
  | [] => none

/-- An address of given pieces, if they are eight. -/
def ofPieces? (pieces : List Nat) : Option Ipv6 :=
  if h : pieces.length = 8 then some ⟨pieces, h⟩ else none

/-- Reads an address. -/
def read? (cs : List Char) : Option Ipv6 :=
  match splitColons cs with
  | none => do
    let ns ← groups? true (splitOn ':' cs)
    ofPieces? ns
  | some (left, right) => do
    let ls ← side? false left
    let rs ← side? true right
    if ls.length + rs.length ≤ 7 then
      ofPieces? (ls ++ List.replicate (8 - ls.length - rs.length) 0 ++ rs)
    else none

/-! ## Writing -/

/-- A piece as it is written. -/
def pieceText (n : Nat) : String :=
  String.ofList (Nat.toDigits 16 n)

/-- The number of zeros that a list starts with. -/
def leadingZeros (ns : List Nat) : Nat :=
  (ns.takeWhile (· = 0)).length

/-- The place and the length of the first longest run of zeros, given the best of
what stands before. -/
def longestZeros : (place : Nat) → (best : Nat × Nat) → List Nat → Nat × Nat
  | _, best, [] => best
  | place, best, n :: ns =>
    let length := leadingZeros (n :: ns)
    longestZeros (place + 1) (if best.2 < length then (place, length) else best) ns

/-- Pieces with colons between them. -/
def joined (ns : List Nat) : String :=
  String.intercalate ":" (ns.map pieceText)

/-- An address as it is written, between brackets. -/
def display (a : Ipv6) : String :=
  let run := longestZeros 0 (0, 0) a.pieces
  let text :=
    if run.2 < 2 then joined a.pieces
    else joined (a.pieces.take run.1) ++ "::" ++ joined (a.pieces.drop (run.1 + run.2))
  "[" ++ text ++ "]"

end Ipv6

end Concord.Url
