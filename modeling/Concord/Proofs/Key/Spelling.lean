import Concord.Proofs.Key.Observed
import Concord.Proofs.Key.Separation
import Concord.Proofs.Text.Spelling

/-!
# Framings and spellings of a single key

A single key comes in four framings (`RawKey.FramedAs`): its raw bytes, raw behind its header,
and either of the two in a message.  The bytes of a key are arbitrary, so that the raw bytes may
start like a header, like a compressed point or like a field.  They are told apart by their
length all the same: no message that holds a key is as short as a raw key, and none starts like
a header (`KeyMessage.ofEncodedBytes_single`).

Whatever the framing, and however it is spelled, the tree of the key is read.  A report that
names the algorithm of a key refuses some of these texts and reads the others alike
(`KeyTree.decode_of_framing`).
-/

namespace Concord

open Key Text

/-! ## Framings -/

/-- The bytes that stand for a key. -/
inductive RawKey.FramedAs (k : RawKey) : List UInt8 → Prop where
  | raw : FramedAs k k.bytes
  | header : FramedAs k k.framed
  /-- A message that holds the raw bytes. -/
  | message : FramedAs k (KeyMessage.single k).bytes
  /-- A message that holds the bytes behind their header. -/
  | messageOfHeader : FramedAs k (KeyMessage.single ⟨k.algorithm, k.framed⟩).bytes

/-! ## Keys in messages -/

namespace KeyMessage

/-- A message that holds a key is taken for a message. -/
theorem ofEncodedBytes_single {l : RawKey} (h : l.algorithm.PublicLength l.bytes.length) :
    ofEncodedBytes (single l).bytes = .ok (single l) := by
  obtain ⟨hlong, hshort⟩ := h.bounds
  obtain ⟨tag, htag, hbytes⟩ := bytes_single l
  have hlt : tag < 16 := by omega
  have hlength : (single l).bytes.length = 2 + l.bytes.length := by
    rw [hbytes, KeyTree.length_field_of_lt hlt hshort]
  have hnot : looksSingle (single l).bytes = false := by
    rw [hbytes, field, writeKey_of_lt hlt, List.singleton_append] at hlength ⊢
    -- Neither key of a field starts a header or a compressed point.
    rcases htag with rfl | rfl
    · exact KeyTree.looksSingle_cons_of_ne (by decide) (by decide) (by decide) (by omega)
    · exact KeyTree.looksSingle_cons_of_ne (by decide) (by decide) (by decide) (by omega)
  rw [ofEncodedBytes, hnot, if_neg Bool.false_ne_true]
  refine read_bytes ?_ ?_
  · rw [nest_single]
    exact Nat.zero_le _
  · have hsize : 130 < UInt64.size := by decide
    omega

end KeyMessage

namespace KeyTree

theorem ofBytes_message_of_stripHeader {l k : RawKey}
    (h : RawKey.stripHeader l.algorithm l.bytes = .ok k) :
    ofBytes (KeyMessage.single l).bytes = .ok (.single k) := by
  rw [ofBytes, KeyMessage.ofEncodedBytes_single (RawKey.length_of_stripHeader h)]
  exact ofMessage_single_of_stripHeader h

/-- A key is read from each of its framings. -/
theorem ofBytes_of_framedAs {k : RawKey} {bytes : List UInt8} (hk : k.WellFormed)
    (h : k.FramedAs bytes) : ofBytes bytes = .ok (.single k) := by
  cases h with
  | raw => exact ofBytes_of_stripHeader (RawKey.stripHeader_bytes hk)
  | header => exact ofBytes_of_stripHeader (RawKey.stripHeader_framed hk)
  | message => exact ofBytes_message_of_stripHeader (RawKey.stripHeader_bytes hk)
  | messageOfHeader => exact ofBytes_message_of_stripHeader (RawKey.stripHeader_framed hk)

/-- A text is read as the bytes are that it spells. -/
theorem decode_of_spells {text : String} {bytes : List UInt8} (h : Spells bytes text.toList) :
    decode text = ofBytes bytes := by
  rw [decode, KeyMessage.ofEncoded, decodeHex_of_spells h, ofBytes]

end KeyTree

/-! ## Reports under a type -/

/-- What is read of a report that names an algorithm is a key, and would be read without the
name. -/
theorem ObservedKey.decode_of_tree {o : ObservedKey} {a : Algorithm} {t : KeyTree}
    (htype : o.keyType = a.name) (h : o.tree = .ok t) : KeyTree.decode o.key = .ok t := by
  rw [tree, htype, Algorithm.ofName?_name] at h
  obtain ⟨k, hk, rfl⟩ := exists_of_map_ok h
  exact KeyTree.decode_of_rawDecode hk

/-! ## All framings -/

namespace KeyTree

/-- A key is read from every text that spells it in one of its framings.  A report that names an
algorithm refuses some texts, and has the tree of those that it does not refuse. -/
theorem decode_of_framing :
    (∀ k : RawKey, k.WellFormed → ∀ bytes, k.FramedAs bytes → ∀ text : String,
      Spells bytes text.toList → decode text = .ok (.single k)) ∧
    ∀ (o : ObservedKey) (a : Algorithm), o.keyType = a.name → ∀ t, o.tree = .ok t →
      decode o.key = .ok t := by
  constructor
  · intro k hk bytes hbytes text htext
    rw [decode_of_spells htext]
    exact ofBytes_of_framedAs hk hbytes
  · intro o a htype t h
    exact ObservedKey.decode_of_tree htype h

/-- A compressed point behind its header in a message, in upper case, marked and between blanks,
and the report of a key of curve 25519 that starts like a header. -/
theorem decode_of_framing_of_upper :
    decode (" 0x3A2F302D300706052B8104000A03220003ABABABABABABABABABABABABABABABAB" ++
        "ABABABABABABABABABABABABABABABAB\n")
        = .ok (.single ⟨.secp256k1, 3 :: List.replicate 32 0xab⟩) ∧
      decode "302a300506032b6570032100302a300506032b6570032100302a300506032b65"
        = .ok (.single ⟨.ed25519, [0x30, 0x2a, 0x30, 0x05, 0x06, 0x03, 0x2b, 0x65, 0x70, 0x03,
          0x21, 0x00, 0x30, 0x2a, 0x30, 0x05, 0x06, 0x03, 0x2b, 0x65, 0x70, 0x03, 0x21, 0x00,
          0x30, 0x2a, 0x30, 0x05, 0x06, 0x03, 0x2b, 0x65]⟩) := by
  have hspells : Spells
      (KeyMessage.single ⟨.secp256k1,
        RawKey.framed ⟨.secp256k1, 3 :: List.replicate 32 0xab⟩⟩).bytes
      ([' '] ++ (['0', 'x'] ++ ("3A2F302D300706052B8104000A03220003" ++
        "ABABABABABABABABABABABABABABABABABABABABABABABABABABABABABABABAB").toList)
          ++ ['\n']) :=
    .mk (by simpa using show isBlank ' ' = true by decide) (.inr rfl) (by decide +kernel)
      (by simpa using show isBlank '\n' = true by decide)
  have htext : (" 0x3A2F302D300706052B8104000A03220003ABABABABABABABABABABABABABABABAB" ++
      "ABABABABABABABABABABABABABABABAB\n").toList
      = [' '] ++ (['0', 'x'] ++ ("3A2F302D300706052B8104000A03220003" ++
        "ABABABABABABABABABABABABABABABABABABABABABABABABABABABABABABABAB").toList)
          ++ ['\n'] := by
    decide +kernel
  rw [← htext] at hspells
  have hkey := (decode_of_framing.1 ⟨.secp256k1, 3 :: List.replicate 32 0xab⟩ (by decide) _
    .messageOfHeader _ hspells)
  have hreport := decode_of_framing.2
    ⟨"ED25519", "302a300506032b6570032100302a300506032b6570032100302a300506032b65"⟩ .ed25519 rfl
    (.single ⟨.ed25519, [0x30, 0x2a, 0x30, 0x05, 0x06, 0x03, 0x2b, 0x65, 0x70, 0x03,
      0x21, 0x00, 0x30, 0x2a, 0x30, 0x05, 0x06, 0x03, 0x2b, 0x65, 0x70, 0x03, 0x21, 0x00,
      0x30, 0x2a, 0x30, 0x05, 0x06, 0x03, 0x2b, 0x65]⟩)
  exact ⟨hkey, hreport (by rfl)⟩

end KeyTree

end Concord
