import Concord.Proofs.Key.Depth
import Concord.Proofs.Key.Tree

/-!
# What trees are read back as

A tree with well formed leaves is read back from the text that the network uses for it if it
is *legible* (`KeyTree.Legible`).  Single keys are.  A list can fail to be in two ways.

* Its message has thirty-two bytes, the size of a key of curve 25519, and is taken for one.
* Its message nests deeper than a message may, and is refused.

There is no other way, and both really fail (`KeyTree.decode_encode_reads`).  Thresholds play
no part in this: that no list with sound thresholds has thirty-two bytes is a fact about
sizes (`KeyTree.legible_of_sound`).
-/

namespace Concord

open Key Text

namespace KeyTree

/-- A tree is legible unless it is a list whose message has the size of a key of curve 25519
or nests too deep. -/
def Legible : KeyTree → Prop
  | .single _ => True
  | .list required ts =>
    (toMessage (.list required ts)).bytes.length ≠ 32 ∧
      (toMessage (.list required ts)).nest ≤ 100

instance : (t : KeyTree) → Decidable t.Legible
  | .single _ => inferInstanceAs (Decidable True)
  | .list _ _ => inferInstanceAs (Decidable (_ ∧ _))

/-- What is read off the text of a tree. -/
inductive ReadBackAs : KeyTree → Except KeyError KeyTree → Prop where
  | itself {t} (h : t.Legible) : ReadBackAs t (.ok t)
  /-- A list of thirty-two bytes is taken for the single key that has these bytes. -/
  | mistaken {required ts} (h : (toMessage (.list required ts)).bytes.length = 32) :
      ReadBackAs (.list required ts)
        (.ok (.single ⟨.ed25519, (toMessage (.list required ts)).bytes⟩))
  | tooDeep {required ts path} (h : (toMessage (.list required ts)).bytes.length ≠ 32)
      (hdeep : 100 < (toMessage (.list required ts)).nest) :
      ReadBackAs (.list required ts) (.error (.invalidMessage ⟨path, .recursionLimit⟩))

theorem ReadBackAs.eq_ok_iff {t : KeyTree} {r : Except KeyError KeyTree}
    (h : t.ReadBackAs r) : r = .ok t ↔ t.Legible := by
  cases h with
  | itself hlegible => exact ⟨fun _ => hlegible, fun _ => rfl⟩
  | mistaken hsize =>
      constructor
      · intro heq
        cases heq
      · intro hlegible
        exact absurd hsize hlegible.1
  | tooDeep _ hdeep =>
      constructor
      · intro heq
        cases heq
      · intro hlegible
        exact absurd hlegible.2 (Nat.not_le.2 hdeep)

/-! ## Recognition -/

/-- Thirty-two bytes are a key of curve 25519, whatever they are. -/
theorem ofBytes_of_length {bytes : List UInt8} (h : bytes.length = 32) :
    ofBytes bytes = .ok (.single ⟨.ed25519, bytes⟩) := by
  have hwf : RawKey.WellFormed ⟨.ed25519, bytes⟩ := ⟨h, fun hne => by cases hne⟩
  exact ofBytes_of_stripHeader (RawKey.stripHeader_bytes hwf)

theorem ofEncodedBytes_list {required : Option UInt32} {ts : List KeyTree}
    (h : (toMessage (.list required ts)).bytes.length ≠ 32) :
    KeyMessage.ofEncodedBytes (toMessage (.list required ts)).bytes
      = KeyMessage.read (toMessage (.list required ts)).bytes := by
  rw [KeyMessage.ofEncodedBytes, looksSingle_list h, if_neg Bool.false_ne_true]

/-! ## Reading back -/

theorem ofBytes_list_reads {required : Option UInt32} {ts : List KeyTree}
    (hleaves : LeavesWellFormed (.list required ts))
    (hlength : (toMessage (.list required ts)).bytes.length < UInt64.size) :
    ReadBackAs (.list required ts) (ofBytes (toMessage (.list required ts)).bytes) := by
  by_cases hsize : (toMessage (.list required ts)).bytes.length = 32
  · rw [ofBytes_of_length hsize]
    exact .mistaken hsize
  · rw [ofBytes, ofEncodedBytes_list hsize]
    by_cases hnest : (toMessage (.list required ts)).nest ≤ 100
    · rw [KeyMessage.read_bytes hnest hlength]
      show ReadBackAs _ (ofMessage _)
      rw [ofMessage_toMessage hleaves]
      exact .itself ⟨hsize, hnest⟩
    · obtain ⟨path, hread⟩ := KeyMessage.read_bytes_of_deep (Nat.lt_of_not_le hnest) hlength
      rw [hread]
      exact .tooDeep hsize (Nat.lt_of_not_le hnest)

theorem decode_encode_reads {t : KeyTree} (hleaves : t.LeavesWellFormed)
    (hlength : t.encode.length < UInt64.size) : t.ReadBackAs (decode t.encode) := by
  cases t with
  | single k =>
      cases hleaves with
      | single hk =>
          rw [encode, networkBytes, ← RawKey.encode, decode_of_rawDecode (RawKey.decode_encode hk)]
          exact .itself trivial
  | list required ts =>
      rw [encode, length_encodeHex, networkBytes] at hlength
      rw [encode, decode_encodeHex, networkBytes]
      exact ofBytes_list_reads hleaves (by omega)

theorem legible_of_sound {t : KeyTree} (hleaves : t.LeavesWellFormed)
    (hthresholds : t.ThresholdsSound) (hnest : t.toMessage.nest ≤ 100) : t.Legible := by
  cases t with
  | single k => exact trivial
  | list required ts => exact ⟨(listSize_toMessage hleaves hthresholds).ne, hnest⟩

theorem decode_encode {t : KeyTree} (hleaves : t.LeavesWellFormed)
    (hthresholds : t.ThresholdsSound) (hnest : t.toMessage.nest ≤ 100)
    (hlength : t.encode.length < UInt64.size) : decode t.encode = .ok t :=
  (decode_encode_reads hleaves hlength).eq_ok_iff.2
    (legible_of_sound hleaves hthresholds hnest)

/-- A tree with well formed leaves and sound thresholds that nests as deep as messages may is
read back from its text, and what is read has the same text.  `hlength` says no more than
that the text can be held in memory. -/
theorem text_round_trip {t : KeyTree} (hleaves : t.LeavesWellFormed)
    (hthresholds : t.ThresholdsSound) (hnest : t.toMessage.nest ≤ 100)
    (hlength : t.encode.length < UInt64.size) :
    decode t.encode = .ok t ∧ (decode t.encode).map encode = .ok t.encode := by
  have hread := decode_encode hleaves hthresholds hnest hlength
  refine ⟨hread, ?_⟩
  rw [hread]
  rfl

/-- One of two keys, one of them the empty list. -/
theorem text_round_trip_of_pair :
    LeavesWellFormed
        (.list (some 1) [.single ⟨.secp256k1, 2 :: List.replicate 32 7⟩, .list none []]) ∧
      ThresholdsSound
        (.list (some 1) [.single ⟨.secp256k1, 2 :: List.replicate 32 7⟩, .list none []]) ∧
      decode ("2a2d080112290a233a21020707070707070707070707070707070707" ++
          "0707070707070707070707070707070a023200")
        = .ok (.list (some 1)
          [.single ⟨.secp256k1, 2 :: List.replicate 32 7⟩, .list none []]) := by
  have hkey : RawKey.WellFormed ⟨.secp256k1, 2 :: List.replicate 32 7⟩ := by decide
  have hone : SoundThreshold 2 (some 1) := by
    intro n h
    cases h
    decide
  have hall : SoundThreshold 0 none := by
    intro n h
    cases h
  have hempty : LeavesWellFormed (.list none []) := .list (by simp)
  have hleaves : LeavesWellFormed
      (.list (some 1) [.single ⟨.secp256k1, 2 :: List.replicate 32 7⟩, .list none []]) :=
    .list (by simpa using ⟨.single hkey, hempty⟩)
  have hthresholds : ThresholdsSound
      (.list (some 1) [.single ⟨.secp256k1, 2 :: List.replicate 32 7⟩, .list none []]) :=
    .list hone (by simpa using ⟨.single, .list hall (by simp)⟩)
  have htext : encode
      (.list (some 1) [.single ⟨.secp256k1, 2 :: List.replicate 32 7⟩, .list none []])
      = "2a2d080112290a233a21020707070707070707070707070707070707" ++
        "0707070707070707070707070707070a023200" := by
    decide +kernel
  have hread := (text_round_trip hleaves hthresholds (by decide) (by decide +kernel)).1
  rw [htext] at hread
  exact ⟨hleaves, hthresholds, hread⟩

end KeyTree

end Concord
