import Concord.Key.Tree
import Concord.Proofs.Text.Hex

/-!
# Single keys in their framings

A well formed key is read from its raw bytes and from the bytes behind its header, and from
nothing else (`stripHeader_eq_ok`).  What is read under a given algorithm is found by its
length as well (`detect_of_stripHeader`), and is never taken for a message: the text of a
single key in either framing decodes to its tree (`KeyTree.decode_of_rawDecode`).
-/

namespace Concord

open Text

/-! ## Headers -/

section

variable {a : Algorithm} {header raw bytes : List UInt8} {size : Nat}

/-- What is unframed has its size, and is raw or behind the header. -/
theorem unframe_eq_ok (h : unframe a header size bytes = .ok raw) :
    raw.length = size ∧ (bytes = raw ∨ bytes = header ++ raw) := by
  rw [unframe] at h
  split at h
  case isTrue hraw =>
      cases h
      exact ⟨hraw, Or.inl rfl⟩
  case isFalse =>
      split at h
      case isFalse => cases h
      case isTrue hframed =>
          split at h
          case isFalse => cases h
          case isTrue hheader =>
              cases h
              refine ⟨?_, Or.inr ?_⟩
              · rw [List.length_drop]
                omega
              · calc bytes = bytes.take header.length ++ bytes.drop header.length :=
                      (List.take_append_drop _ _).symm
                  _ = header ++ bytes.drop header.length := by rw [hheader]

theorem unframe_raw (h : bytes.length = size) : unframe a header size bytes = .ok bytes := by
  rw [unframe, if_pos h]

theorem unframe_framed (h : raw.length = size) (hpos : 0 < header.length) :
    unframe a header size (header ++ raw) = .ok raw := by
  have hne : ¬ (header ++ raw).length = size := by
    rw [List.length_append]
    omega
  rw [unframe, if_neg hne, if_pos (by rw [List.length_append, h]), List.take_left,
    if_pos rfl, List.drop_left]

end

/-! ## Points -/

theorem checkPoint_of_wellFormed {k : RawKey} (h : k.WellFormed) :
    checkPoint k.algorithm k.bytes = .ok () := by
  obtain ⟨a, bytes⟩ := k
  cases a with
  | ed25519 => rfl
  | secp256k1 =>
      cases bytes with
      | nil => rfl
      | cons tag rest =>
          have htag : tag = 2 ∨ tag = 3 := by simpa using h.2 rfl
          show (if tag = 2 ∨ tag = 3 then _ else _) = _
          rw [if_pos htag]

theorem wellFormed_of_checkPoint {a : Algorithm} {raw : List UInt8}
    (hsize : raw.length = a.publicSize) (h : checkPoint a raw = .ok ()) :
    RawKey.WellFormed ⟨a, raw⟩ := by
  refine ⟨hsize, ?_⟩
  rintro rfl
  cases raw with
  | nil => cases hsize
  | cons tag rest =>
      by_cases htag : tag = 2 ∨ tag = 3
      · simpa using htag
      · have hfail : checkPoint .secp256k1 (tag :: rest)
            = .error (.invalidMaterial .secp256k1 (.notCompressed tag)) := if_neg htag
        rw [hfail] at h
        cases h

namespace RawKey

/-! ## Reading under an algorithm -/

theorem length_publicHeader_pos (a : Algorithm) : 0 < a.publicHeader.length := by
  cases a <;> decide

/-- What is read under an algorithm is a well formed key of the algorithm, raw or behind
its header. -/
theorem stripHeader_eq_ok {a : Algorithm} {bytes : List UInt8} {k : RawKey}
    (h : stripHeader a bytes = .ok k) :
    k.algorithm = a ∧ k.WellFormed ∧ (bytes = k.bytes ∨ bytes = k.framed) := by
  cases hunframe : unframe a a.publicHeader a.publicSize bytes with
  | error e =>
      rw [stripHeader, hunframe] at h
      cases h
  | ok raw =>
      obtain ⟨hsize, hbytes⟩ := unframe_eq_ok hunframe
      cases hcheck : checkPoint a raw with
      | error e =>
          rw [stripHeader, hunframe] at h
          simp only [hcheck] at h
          cases h
      | ok u =>
          rw [stripHeader, hunframe] at h
          simp only [hcheck] at h
          cases h
          exact ⟨rfl, wellFormed_of_checkPoint hsize hcheck, hbytes⟩

theorem stripHeader_bytes {k : RawKey} (h : k.WellFormed) :
    stripHeader k.algorithm k.bytes = .ok k := by
  rw [stripHeader, unframe_raw h.1]
  simp only [checkPoint_of_wellFormed h]

theorem stripHeader_framed {k : RawKey} (h : k.WellFormed) :
    stripHeader k.algorithm k.framed = .ok k := by
  rw [stripHeader, framed, unframe_framed h.1 (length_publicHeader_pos k.algorithm)]
  simp only [checkPoint_of_wellFormed h]

/-! ## Finding the algorithm -/

theorem length_framed {k : RawKey} (h : k.WellFormed) :
    k.framed.length = k.algorithm.publicHeader.length + k.algorithm.publicSize := by
  rw [framed, List.length_append, h.1]

theorem find?_of_length {a : Algorithm} {n : Nat}
    (h : n = a.publicSize ∨ n = a.publicHeader.length + a.publicSize) :
    (Algorithm.all.find? fun b =>
      n = b.publicSize ∨ n = b.publicHeader.length + b.publicSize) = some a := by
  cases a with
  | ed25519 => rcases h with rfl | rfl <;> decide
  | secp256k1 => rcases h with rfl | rfl <;> decide

theorem length_of_stripHeader {a : Algorithm} {bytes : List UInt8} {k : RawKey}
    (h : stripHeader a bytes = .ok k) :
    bytes.length = a.publicSize ∨ bytes.length = a.publicHeader.length + a.publicSize := by
  obtain ⟨rfl, hwf, rfl | rfl⟩ := stripHeader_eq_ok h
  · exact Or.inl hwf.1
  · exact Or.inr (length_framed hwf)

/-- A key that is read under an algorithm is found without it. -/
theorem detect_of_stripHeader {a : Algorithm} {bytes : List UInt8} {k : RawKey}
    (h : stripHeader a bytes = .ok k) : detect bytes = .ok k := by
  rw [detect, find?_of_length (length_of_stripHeader h)]
  exact h

/-! ## Recognition -/

theorem looksSingle_bytes {k : RawKey} (h : k.WellFormed) :
    KeyMessage.looksSingle k.bytes = true := by
  obtain ⟨a, bytes⟩ := k
  have hsize : bytes.length = a.publicSize := h.1
  cases bytes with
  | nil => cases a <;> cases hsize
  | cons tag rest =>
      cases a with
      | ed25519 =>
          have hlength : (tag :: rest).length = 32 := hsize
          simp [KeyMessage.looksSingle, hlength]
      | secp256k1 =>
          have hlength : (tag :: rest).length = 33 := hsize
          have htag : tag = 2 ∨ tag = 3 := by simpa using h.2 rfl
          simp [KeyMessage.looksSingle, hlength, htag]

theorem looksSingle_framed (k : RawKey) : KeyMessage.looksSingle k.framed = true := by
  obtain ⟨a, bytes⟩ := k
  cases a <;> rfl

theorem ofEncodedBytes_of_stripHeader {a : Algorithm} {bytes : List UInt8} {k : RawKey}
    (h : stripHeader a bytes = .ok k) :
    KeyMessage.ofEncodedBytes bytes = .ok (.single k) := by
  obtain ⟨-, hwf, hbytes⟩ := stripHeader_eq_ok h
  have hsingle : KeyMessage.looksSingle bytes = true := by
    rcases hbytes with rfl | rfl
    · exact looksSingle_bytes hwf
    · exact looksSingle_framed k
  rw [KeyMessage.ofEncodedBytes, if_pos hsingle, detect_of_stripHeader h]
  rfl

/-! ## Texts -/

theorem exists_of_decode {a : Algorithm} {encoded : String} {k : RawKey}
    (h : decode a encoded = .ok k) :
    ∃ bytes, decodeHex encoded = .ok bytes ∧ stripHeader a bytes = .ok k := by
  cases hhex : decodeHex encoded with
  | error e =>
      rw [decode, hhex] at h
      cases h
  | ok bytes =>
      rw [decode, hhex] at h
      exact ⟨bytes, rfl, h⟩

theorem wellFormed_of_decode {a : Algorithm} {encoded : String} {k : RawKey}
    (h : decode a encoded = .ok k) : k.WellFormed := by
  obtain ⟨bytes, -, hstrip⟩ := exists_of_decode h
  exact (stripHeader_eq_ok hstrip).2.1

/-- A well formed key is read from the text that is written of it. -/
theorem decode_encode {k : RawKey} (h : k.WellFormed) : decode k.algorithm k.encode = .ok k := by
  rw [decode, encode, decodeHex_encodeHex]
  exact stripHeader_framed h

theorem decode_hex {k : RawKey} (h : k.WellFormed) : decode k.algorithm k.hex = .ok k := by
  rw [decode, hex, decodeHex_encodeHex]
  exact stripHeader_bytes h

end RawKey

namespace KeyTree

/-- The key in a message may be framed itself. -/
theorem ofMessage_single_of_stripHeader {l k : RawKey}
    (h : RawKey.stripHeader l.algorithm l.bytes = .ok k) :
    ofMessage (.single l) = .ok (.single k) := by
  obtain ⟨a, bytes⟩ := l
  cases a with
  | ed25519 =>
      show (RawKey.stripHeader .ed25519 bytes).map single = _
      rw [h]
      rfl
  | secp256k1 =>
      show (RawKey.stripHeader .secp256k1 bytes).map single = _
      rw [h]
      rfl

theorem ofMessage_single {k : RawKey} (h : k.WellFormed) :
    ofMessage (.single k) = .ok (.single k) :=
  ofMessage_single_of_stripHeader (RawKey.stripHeader_bytes h)

theorem ofBytes_of_stripHeader {a : Algorithm} {bytes : List UInt8} {k : RawKey}
    (h : RawKey.stripHeader a bytes = .ok k) : ofBytes bytes = .ok (.single k) := by
  rw [ofBytes, RawKey.ofEncodedBytes_of_stripHeader h]
  exact ofMessage_single (RawKey.stripHeader_eq_ok h).2.1

/-- The text of a single key has the tree of the key, whichever way it is framed. -/
theorem decode_of_rawDecode {a : Algorithm} {encoded : String} {k : RawKey}
    (h : RawKey.decode a encoded = .ok k) : decode encoded = .ok (.single k) := by
  obtain ⟨bytes, hhex, hstrip⟩ := RawKey.exists_of_decode h
  rw [decode, KeyMessage.ofEncoded, hhex]
  exact ofBytes_of_stripHeader hstrip

end KeyTree

end Concord
