import Concord.Proofs.Key.Bounds
import Concord.Proofs.Key.Tree

/-!
# Trees that are read

Whatever text a tree is read from, its leaves are well formed (`leavesWellFormed_of_decode`),
and if it is a list the message that the network uses for it has at most twice the bytes
that the text is made of (`length_toMessage_of_decode`).

It may have more of them than the text: a threshold may come without its list, and is
written with an empty one.  The other differences make the message shorter, since headers of
leaves are not written and all bytes are canonical.
-/

namespace Concord

open Key Text

namespace KeyTree

/-! ## Trees of messages -/

theorem exists_of_ofMessages_cons {m : KeyMessage} {ms : List KeyMessage} {ts : List KeyTree}
    (h : ofMessages (m :: ms) = .ok ts) :
    ∃ t us, ofMessage m = .ok t ∧ ofMessages ms = .ok us ∧ ts = t :: us := by
  rw [ofMessages] at h
  split at h
  case h_1 => cases h
  case h_2 t hhead =>
      obtain ⟨us, htail, hend⟩ := exists_of_map_ok h
      exact ⟨t, us, hhead, htail, hend.symm⟩

mutual

theorem leavesWellFormed_of_ofMessage : ∀ {m : KeyMessage} {t : KeyTree},
    ofMessage m = .ok t → t.LeavesWellFormed
  | .empty, _, h => by
      rw [ofMessage] at h
      cases h
  | .ed25519 b, _, h => by
      rw [ofMessage] at h
      obtain ⟨k, hk, rfl⟩ := exists_of_map_ok h
      exact .single (RawKey.stripHeader_eq_ok hk).2.1
  | .secp256k1 b, _, h => by
      rw [ofMessage] at h
      obtain ⟨k, hk, rfl⟩ := exists_of_map_ok h
      exact .single (RawKey.stripHeader_eq_ok hk).2.1
  | .keyList ks, _, h => by
      rw [ofMessage] at h
      obtain ⟨ts, hts, rfl⟩ := exists_of_map_ok h
      exact .list (leavesWellFormed_of_ofMessages hts)
  | .threshold n none, _, h => by
      rw [ofMessage] at h
      cases h
      exact .list (by simp)
  | .threshold n (some ks), _, h => by
      rw [ofMessage] at h
      obtain ⟨ts, hts, rfl⟩ := exists_of_map_ok h
      exact .list (leavesWellFormed_of_ofMessages hts)

theorem leavesWellFormed_of_ofMessages : ∀ {ms : List KeyMessage} {ts : List KeyTree},
    ofMessages ms = .ok ts → ∀ t ∈ ts, t.LeavesWellFormed
  | [], _, h => by
      cases h
      simp
  | m :: ms, _, h => by
      obtain ⟨t, us, hhead, htail, rfl⟩ := exists_of_ofMessages_cons h
      intro u hu
      rcases List.mem_cons.1 hu with rfl | hmem
      · exact leavesWellFormed_of_ofMessage hhead
      · exact leavesWellFormed_of_ofMessages htail u hmem

end

/-! ## Sizes -/

theorem length_field_double (tag : Nat) (htag : tag < 16) {value more : List UInt8}
    (h : more.length ≤ 2 * value.length) :
    (KeyMessage.field tag more).length ≤ 2 * (KeyMessage.field tag value).length := by
  have hmore : more.length ≤ value.length + value.length := by omega
  have hgrow := KeyMessage.length_field_merge htag (Or.inr rfl) hmore
  have hsize := KeyMessage.length_field_of_tag_lt htag value
  omega

/-- A leaf is written without the header that it may have been read behind. -/
theorem length_leaf_le {a : Algorithm} {b : List UInt8} {k : RawKey} {tag : Nat}
    (htag : tag < 16) (h : RawKey.stripHeader a b = .ok k) :
    (KeyMessage.field tag k.bytes).length ≤ 2 * (KeyMessage.field tag b).length := by
  obtain ⟨-, -, hbytes⟩ := RawKey.stripHeader_eq_ok h
  refine length_field_double tag htag ?_
  rcases hbytes with rfl | rfl
  · omega
  · rw [RawKey.framed, List.length_append]
    omega

/-- The empty list that is written behind a bare threshold takes two bytes. -/
theorem length_bare_le (n : UInt32) :
    (KeyMessage.field 5 (KeyMessage.thresholdField n ++ KeyMessage.field 2 [])).length
      ≤ 2 * (KeyMessage.field 5 (KeyMessage.thresholdField n)).length := by
  have hkeys : (KeyMessage.field 2 []).length = 2 := length_field_of_lt (by decide) (by decide)
  have hlength : (KeyMessage.thresholdField n ++ KeyMessage.field 2 []).length
      = (KeyMessage.thresholdField n).length + 2 := by rw [List.length_append, hkeys]
  by_cases hshort : (KeyMessage.thresholdField n).length < 126
  · rw [length_field_of_lt (by decide) (by omega), length_field_of_lt (by decide) (by omega),
      hlength]
    omega
  · exact length_field_double _ (by decide) (by omega)

mutual

/-- The message of a tree that is read has at most twice the canonical bytes of the message
that it is read from. -/
theorem length_toMessage_le : ∀ {m : KeyMessage} {t : KeyTree}, ofMessage m = .ok t →
    t.toMessage.bytes.length ≤ 2 * m.bytes.length
  | .empty, _, h => by
      rw [ofMessage] at h
      cases h
  | .ed25519 b, _, h => by
      rw [ofMessage] at h
      obtain ⟨⟨a, raw⟩, hk, rfl⟩ := exists_of_map_ok h
      obtain rfl : a = .ed25519 := (RawKey.stripHeader_eq_ok hk).1
      show (KeyMessage.ed25519 raw).bytes.length ≤ _
      rw [KeyMessage.bytes, KeyMessage.bytes]
      exact length_leaf_le (by decide) hk
  | .secp256k1 b, _, h => by
      rw [ofMessage] at h
      obtain ⟨⟨a, raw⟩, hk, rfl⟩ := exists_of_map_ok h
      obtain rfl : a = .secp256k1 := (RawKey.stripHeader_eq_ok hk).1
      show (KeyMessage.secp256k1 raw).bytes.length ≤ _
      rw [KeyMessage.bytes, KeyMessage.bytes]
      exact length_leaf_le (by decide) hk
  | .keyList ks, _, h => by
      rw [ofMessage] at h
      obtain ⟨ts, hts, rfl⟩ := exists_of_map_ok h
      rw [toMessage, KeyMessage.list, KeyMessage.bytes, KeyMessage.bytes]
      exact length_field_double _ (by decide) (length_toMessages_le hts)
  | .threshold n none, _, h => by
      rw [ofMessage] at h
      cases h
      rw [toMessage, toMessages, KeyMessage.list, KeyMessage.bytes, KeyMessage.bytes,
        KeyMessage.listBytes]
      exact length_bare_le n
  | .threshold n (some ks), _, h => by
      rw [ofMessage] at h
      obtain ⟨ts, hts, rfl⟩ := exists_of_map_ok h
      have hkeys := length_field_double 2 (by decide) (length_toMessages_le hts)
      rw [toMessage, KeyMessage.list, KeyMessage.bytes, KeyMessage.bytes]
      refine length_field_double _ (by decide) ?_
      rw [List.length_append, List.length_append]
      omega

theorem length_toMessages_le : ∀ {ms : List KeyMessage} {ts : List KeyTree},
    ofMessages ms = .ok ts →
      (KeyMessage.listBytes (toMessages ts)).length ≤ 2 * (KeyMessage.listBytes ms).length
  | [], _, h => by
      cases h
      exact Nat.zero_le _
  | m :: ms, _, h => by
      obtain ⟨t, us, hhead, htail, rfl⟩ := exists_of_ofMessages_cons h
      have hfirst := length_field_double 1 (by decide) (length_toMessage_le hhead)
      have hrest := length_toMessages_le htail
      rw [toMessages, KeyMessage.listBytes, KeyMessage.listBytes, List.length_append,
        List.length_append]
      omega

end

/-! ## Trees of texts -/

theorem exists_of_decode {encoded : String} {t : KeyTree} (h : decode encoded = .ok t) :
    ∃ bytes m, decodeHex encoded = .ok bytes ∧ KeyMessage.ofEncodedBytes bytes = .ok m ∧
      ofMessage m = .ok t := by
  rw [decode] at h
  split at h
  case h_1 => cases h
  case h_2 m hread =>
      rw [KeyMessage.ofEncoded] at hread
      split at hread
      case h_1 => cases hread
      case h_2 bytes hhex => exact ⟨bytes, m, hhex, hread, h⟩

theorem ofMessage_single_ne_list {k : RawKey} {required : Option UInt32} {ts : List KeyTree} :
    ofMessage (.single k) ≠ .ok (.list required ts) := by
  obtain ⟨a, bytes⟩ := k
  intro h
  cases a with
  | ed25519 =>
      obtain ⟨k, -, hk⟩ := exists_of_map_ok
        (show (RawKey.stripHeader .ed25519 bytes).map single = .ok (.list required ts) from h)
      cases hk
  | secp256k1 =>
      obtain ⟨k, -, hk⟩ := exists_of_map_ok
        (show (RawKey.stripHeader .secp256k1 bytes).map single = .ok (.list required ts) from h)
      cases hk

theorem exists_of_decode_list {encoded : String} {required : Option UInt32}
    {ts : List KeyTree} (h : decode encoded = .ok (.list required ts)) :
    ∃ bytes m, decodeHex encoded = .ok bytes ∧ KeyMessage.ofBytes bytes = .ok m ∧
      ofMessage m = .ok (.list required ts) := by
  obtain ⟨bytes, m, hhex, hread, htree⟩ := exists_of_decode h
  refine ⟨bytes, m, hhex, ?_, htree⟩
  rw [KeyMessage.ofEncodedBytes] at hread
  split at hread
  case isTrue =>
      obtain ⟨k, -, rfl⟩ := exists_of_map_ok hread
      exact absurd htree ofMessage_single_ne_list
  case isFalse => exact KeyMessage.ofBytes_of_read hread

theorem leavesWellFormed_of_decode {encoded : String} {t : KeyTree}
    (h : decode encoded = .ok t) : t.LeavesWellFormed := by
  obtain ⟨bytes, m, -, -, htree⟩ := exists_of_decode h
  exact leavesWellFormed_of_ofMessage htree

/-- A list that is read off a text is written with no more bytes than the text has. -/
theorem length_toMessage_of_decode {encoded : String} {required : Option UInt32}
    {ts : List KeyTree} (h : decode encoded = .ok (.list required ts)) :
    (toMessage (.list required ts)).bytes.length ≤ encoded.utf8ByteSize := by
  obtain ⟨bytes, m, hhex, hread, htree⟩ := exists_of_decode_list h
  have hwritten := length_toMessage_le htree
  have hread := (KeyMessage.bounds_of_ofBytes hread).2
  have htext := two_mul_length_le_of_decodeHex hhex
  omega

end KeyTree

end Concord
