import Concord.Text.Hex

/-!
# Percent encoding

A part of an address writes some characters as the bytes of their UTF-8 form, each
byte as a percent sign and two digits in upper case.  Which characters those are
depends on the part; controls and characters beyond ASCII are always among them.

Reading turns every percent sign with two digits behind it into a byte, and leaves
the rest alone.
-/

namespace Concord.Url

open Text

/-! ## Sets of characters -/

/-- Controls and characters beyond ASCII. -/
def isUnprinted (c : Char) : Bool :=
  c.toNat < 0x20 || 0x7E < c.toNat

/-- The characters that a fragment encodes. -/
def inFragmentSet (c : Char) : Bool :=
  isUnprinted c || " \"<>`".toList.contains c

/-- The characters that a path encodes. -/
def inPathSet (c : Char) : Bool :=
  inFragmentSet c || "#?\x7b\x7d".toList.contains c

/-- The characters that a user name or a password encodes. -/
def inUserSet (c : Char) : Bool :=
  inPathSet c || "/:;=@[\\]^|".toList.contains c

/-- The characters that a query encodes. -/
def inQuerySet (c : Char) : Bool :=
  isUnprinted c || " \"#<>'".toList.contains c

/-! ## Writing -/

/-- A byte as a percent sign and two digits. -/
def percentByte (b : UInt8) : List Char :=
  '%' :: (hexPair b).map Char.toUpper

/-- A text with the characters of a set encoded. -/
def percentEncode (inSet : Char → Bool) (cs : List Char) : List Char :=
  cs.flatMap fun c => if inSet c then (String.utf8EncodeChar c).flatMap percentByte else [c]

/-! ## Reading -/

/-- The bytes of a text, with every encoded byte in the place of its three. -/
def percentDecode : List UInt8 → List UInt8
  | [] => []
  | [a] => [a]
  | [a, b] => [a, b]
  | a :: b :: c :: rest =>
    match hexValue? b, hexValue? c with
    | some hi, some lo =>
      if a = 0x25 then UInt8.ofNat (hi * 16 + lo) :: percentDecode rest
      else a :: percentDecode (b :: c :: rest)
    | _, _ => a :: percentDecode (b :: c :: rest)

end Concord.Url
