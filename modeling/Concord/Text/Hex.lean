import Concord.Text.Blank
import Concord.Text.Numeral
import Concord.Text.Quoted

/-!
# Hexadecimal text of bytes

Bytes are written as two digits each, in lower case.  Reading accepts digits of
either case, and counts what it reads in the bytes of UTF-8: an odd number of
them is refused first, then the first byte that is no digit is named with its
place.

`decodeHex` reads a text that a person or a file supplies, so it first cuts the
blanks off both ends and then one marker `0x`.
-/

namespace Concord.Text

/-! ## Writing -/

/-- The two digits of a byte, the high one first. -/
def hexPair (b : UInt8) : List Char :=
  [Nat.digitChar (b.toNat / 16), Nat.digitChar (b.toNat % 16)]

/-- The digits of a string of bytes. -/
def hexDigits (bytes : List UInt8) : List Char :=
  bytes.flatMap hexPair

def encodeHex (bytes : List UInt8) : String :=
  String.ofList (hexDigits bytes)

@[simp] theorem hexDigits_nil : hexDigits [] = [] := rfl

@[simp] theorem hexDigits_cons (b : UInt8) (bytes : List UInt8) :
    hexDigits (b :: bytes) = hexPair b ++ hexDigits bytes := rfl

theorem length_hexDigits (bytes : List UInt8) : (hexDigits bytes).length = 2 * bytes.length := by
  induction bytes with
  | nil => rfl
  | cons b bytes ih => simp [hexPair, ih]; omega

/-! ## Reading -/

/-- Why a text is not the hexadecimal form of bytes. -/
inductive HexError where
  /-- The last digit lacks its partner. -/
  | oddLength
  /-- A byte of the text is not a digit. -/
  | invalidCharacter (byte : UInt8) (index : Nat)
  deriving Repr, DecidableEq

/-- The wording of each error.  A byte is shown as the character of its code. -/
def HexError.message : HexError → String
  | .oddLength => "Odd number of digits"
  | .invalidCharacter byte index =>
    "Invalid character " ++ quotedChar (Char.ofNat byte.toNat) ++ " at position " ++ decimal index

/-- The bytes of characters in UTF-8. -/
def utf8Bytes (cs : List Char) : List UInt8 :=
  cs.flatMap String.utf8EncodeChar

/-- The value of a hexadecimal digit given by its ASCII code. -/
def hexValue? (b : UInt8) : Option Nat :=
  digitValue? 16 (Char.ofNat b.toNat)

/-- Reads pairs of digits, the first of them at place `index` of the text. -/
def readHexPairs (index : Nat) : List UInt8 → Except HexError (List UInt8)
  | [] => .ok []
  | [_] => .error .oddLength
  | hi :: lo :: rest =>
    match hexValue? hi, hexValue? lo with
    | none, _ => .error (.invalidCharacter hi index)
    | some _, none => .error (.invalidCharacter lo (index + 1))
    | some h, some l =>
      (readHexPairs (index + 2) rest).map (UInt8.ofNat (h * 16 + l) :: ·)

/-- Reads the digits of a string of bytes. -/
def readHex (text : List UInt8) : Except HexError (List UInt8) :=
  if text.length % 2 = 1 then .error .oddLength else readHexPairs 0 text

/-- The characters behind one marker `0x`, if they start with it. -/
def dropHexMarker : List Char → List Char
  | '0' :: 'x' :: cs => cs
  | cs => cs

/-- The bytes of a supplied hexadecimal text. -/
def decodeHex (encoded : String) : Except HexError (List UInt8) :=
  readHex (utf8Bytes (dropHexMarker (trimBlanks encoded.toList)))

end Concord.Text
