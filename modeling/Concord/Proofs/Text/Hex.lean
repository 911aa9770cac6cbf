import Concord.Proofs.Text.Spelling

/-!
# Sizes of hexadecimal text

The text of bytes has two digits for each of them, and a digit is one byte in UTF-8
(`utf8ByteSize_encodeHex`).  Other texts may have blanks and a marker besides, so that bytes take
at least as much text as that (`two_mul_length_le_of_decodeHex`).
-/

namespace Concord.Text

theorem length_encodeHex (bytes : List UInt8) : (encodeHex bytes).length = 2 * bytes.length := by
  rw [encodeHex, String.length_ofList, length_hexDigits]

/-! ## Sizes in UTF-8 -/

theorem length_utf8Bytes_toList (s : String) : (utf8Bytes s.toList).length = s.utf8ByteSize := by
  obtain ⟨cs, rfl⟩ := s.exists_eq_ofList
  rw [← String.size_toByteArray, String.toByteArray_ofList, String.toList_ofList,
    List.utf8Encode, List.size_toByteArray, utf8Bytes]

/-- Every byte takes two bytes of text. -/
theorem utf8ByteSize_encodeHex (bytes : List UInt8) :
    (encodeHex bytes).utf8ByteSize = 2 * bytes.length := by
  rw [← length_utf8Bytes_toList, encodeHex, String.toList_ofList,
    (AllDigits.of_hexDigits bytes).utf8Bytes, List.length_map, length_hexDigits]

theorem length_utf8Bytes_append (cs ds : List Char) :
    (utf8Bytes (cs ++ ds)).length = (utf8Bytes cs).length + (utf8Bytes ds).length := by
  rw [utf8Bytes, utf8Bytes, utf8Bytes, List.flatMap_append, List.length_append]

/-! ## Sizes of what is read -/

/-- What is cut off a text at either end leaves no more bytes than there were. -/
theorem length_utf8Bytes_trimBlanks (cs : List Char) :
    (utf8Bytes (trimBlanks cs)).length ≤ (utf8Bytes cs).length := by
  obtain ⟨before, after, hcs, -⟩ := exists_eq_trimBlanks cs
  conv => rhs; rw [hcs, length_utf8Bytes_append, length_utf8Bytes_append]
  omega

theorem length_utf8Bytes_dropHexMarker (cs : List Char) :
    (utf8Bytes (dropHexMarker cs)).length ≤ (utf8Bytes cs).length := by
  unfold dropHexMarker
  split
  case h_1 rest =>
      show _ ≤ (utf8Bytes (['0', 'x'] ++ rest)).length
      rw [length_utf8Bytes_append]
      exact Nat.le_add_left _ _
  case h_2 => exact Nat.le_refl _

theorem length_readHexPairs :
    ∀ {text bytes : List UInt8} {index : Nat}, readHexPairs index text = .ok bytes →
      2 * bytes.length = text.length
  | [], _, _, h => by
      cases h
      rfl
  | [_], _, _, h => by cases h
  | hi :: lo :: rest, bytes, index, h => by
      rw [readHexPairs] at h
      split at h
      case h_1 => cases h
      case h_2 => cases h
      case h_3 =>
          cases hrest : readHexPairs (index + 2) rest with
          | error e =>
              rw [hrest] at h
              cases h
          | ok more =>
              have hlength := length_readHexPairs hrest
              rw [hrest] at h
              cases h
              rw [List.length_cons, List.length_cons, List.length_cons]
              omega

/-- A text has at least two bytes for every byte that it is read as. -/
theorem two_mul_length_le_of_decodeHex {encoded : String} {bytes : List UInt8}
    (h : decodeHex encoded = .ok bytes) : 2 * bytes.length ≤ encoded.utf8ByteSize := by
  rw [decodeHex, readHex] at h
  split at h
  case isTrue => cases h
  case isFalse =>
      rw [length_readHexPairs h, ← length_utf8Bytes_toList]
      exact Nat.le_trans (length_utf8Bytes_dropHexMarker _) (length_utf8Bytes_trimBlanks _)

end Concord.Text
