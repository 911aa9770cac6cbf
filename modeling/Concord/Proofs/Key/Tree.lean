import Concord.Proofs.Key.Framing
import Concord.Proofs.Key.Message

/-!
# Messages of key trees

The tree of the message of a tree is the tree itself when its leaves are well formed
(`KeyTree.ofMessage_toMessage`).

The bytes of the message of a list start like no single key, so the one way in which they
could be taken for one is their size: every string of thirty-two bytes is taken for a key of
curve 25519 (`KeyTree.looksSingle_list`).  No list with sound thresholds has this size.  One
that has no leaf is made of fields of two bytes, of which every list and every threshold
takes as many as leaves its size even and not divisible by four; one that has a leaf is
longer (`KeyTree.listSize_toMessage`).
-/

namespace Concord

open Key Text

/-! ## Messages of single keys -/

namespace KeyMessage

theorem nest_single (l : RawKey) : (single l).nest = 0 := by
  obtain ⟨a, bytes⟩ := l
  cases a <;> rfl

/-- The message of a key is one field. -/
theorem bytes_single (l : RawKey) : ∃ tag, (tag = 2 ∨ tag = 7) ∧
    (single l).bytes = field tag l.bytes := by
  obtain ⟨a, bytes⟩ := l
  cases a with
  | ed25519 =>
      refine ⟨2, .inl rfl, ?_⟩
      show (ed25519 bytes).bytes = _
      rw [KeyMessage.bytes]
  | secp256k1 =>
      refine ⟨7, .inr rfl, ?_⟩
      show (secp256k1 bytes).bytes = _
      rw [KeyMessage.bytes]

end KeyMessage

namespace KeyTree

/-! ## Well formed trees -/

/-- All leaves of a tree are well formed. -/
inductive LeavesWellFormed : KeyTree → Prop where
  | single {k} (h : k.WellFormed) : LeavesWellFormed (.single k)
  | list {required ts} (h : ∀ t ∈ ts, LeavesWellFormed t) : LeavesWellFormed (.list required ts)

/-- A threshold is neither zero nor more than the children it counts. -/
def SoundThreshold (children : Nat) (required : Option UInt32) : Prop :=
  ∀ n, required = some n → 0 < n.toNat ∧ n.toNat ≤ children

/-- All thresholds of a tree are sound. -/
inductive ThresholdsSound : KeyTree → Prop where
  | single {k} : ThresholdsSound (.single k)
  | list {required ts} (hrequired : SoundThreshold ts.length required)
      (h : ∀ t ∈ ts, ThresholdsSound t) : ThresholdsSound (.list required ts)

/-! ## From messages -/

theorem ofMessages_toMessages {ts : List KeyTree}
    (h : ∀ t ∈ ts, ofMessage (toMessage t) = .ok t) : ofMessages (toMessages ts) = .ok ts := by
  induction ts with
  | nil => rfl
  | cons t ts ih =>
      have hrest : ofMessages (toMessages ts) = .ok ts :=
        ih fun u hu => h u (List.mem_cons_of_mem t hu)
      rw [toMessages, ofMessages, h t List.mem_cons_self, hrest]
      rfl

theorem ofMessage_toMessage {t : KeyTree} (h : LeavesWellFormed t) :
    ofMessage (toMessage t) = .ok t := by
  induction h with
  | single hk => exact ofMessage_single hk
  | @list required ts _ ih =>
      have hchildren := ofMessages_toMessages ih
      cases required with
      | none =>
          rw [toMessage, KeyMessage.list, ofMessage, hchildren]
          rfl
      | some n =>
          rw [toMessage, KeyMessage.list, ofMessage, hchildren]
          rfl

/-! ## The size of a list -/

/-- The size of a message that is not taken for a key: that of a list without leaves, or
one that has room for a leaf. -/
def ListSize (n : Nat) : Prop := n % 4 = 2 ∨ 34 ≤ n

/-- The size of what stands in a list of keys. -/
def ContentSize (n : Nat) : Prop := n % 4 = 0 ∨ 34 ≤ n

theorem ListSize.ne {n : Nat} (h : ListSize n) : n ≠ 32 := by
  unfold ListSize at h
  omega

theorem ContentSize.add {n m : Nat} (hn : ContentSize n) (hm : ContentSize m) :
    ContentSize (n + m) := by
  unfold ContentSize at *
  omega

theorem length_field_of_lt {tag : Nat} {value : List UInt8} (htag : tag < 16)
    (h : value.length < 128) : (KeyMessage.field tag value).length = 2 + value.length := by
  rw [KeyMessage.length_field, writeKey_of_lt htag, writeVarint_of_lt h]
  simp only [List.length_singleton]
  omega

theorem two_add_le_length_field (tag : Nat) (value : List UInt8) :
    2 + value.length ≤ (KeyMessage.field tag value).length := by
  have hkey := length_writeKey_pos ⟨tag, .delimited⟩
  have hlength := length_writeVarint_pos value.length
  rw [KeyMessage.length_field]
  omega

theorem listSize_field {tag : Nat} {value : List UInt8} (htag : tag < 16)
    (h : ContentSize value.length) : ListSize (KeyMessage.field tag value).length := by
  have hle := two_add_le_length_field tag value
  unfold ContentSize at h
  unfold ListSize
  by_cases hshort : value.length < 128
  · rw [length_field_of_lt htag hshort]
    omega
  · omega

theorem contentSize_field {tag : Nat} {value : List UInt8} (htag : tag < 16)
    (h : ListSize value.length) : ContentSize (KeyMessage.field tag value).length := by
  have hle := two_add_le_length_field tag value
  unfold ListSize at h
  unfold ContentSize
  by_cases hshort : value.length < 128
  · rw [length_field_of_lt htag hshort]
    omega
  · omega

/-- A leaf does not fit into less than thirty-four bytes. -/
theorem listSize_single {k : RawKey} (h : k.WellFormed) :
    ListSize (KeyMessage.single k).bytes.length := by
  obtain ⟨tag, -, hbytes⟩ := KeyMessage.bytes_single k
  have hle := two_add_le_length_field tag k.bytes
  have hsize : 32 ≤ k.bytes.length := by
    rw [h.1]
    cases k.algorithm <;> decide
  right
  rw [hbytes]
  omega

theorem contentSize_listBytes {ts : List KeyTree}
    (h : ∀ t ∈ ts, ListSize (toMessage t).bytes.length) :
    ContentSize (KeyMessage.listBytes (toMessages ts)).length := by
  induction ts with
  | nil => exact Or.inl rfl
  | cons t ts ih =>
      rw [toMessages, KeyMessage.listBytes, List.length_append]
      exact (contentSize_field (by decide) (h t List.mem_cons_self)).add
        (ih fun u hu => h u (List.mem_cons_of_mem t hu))

theorem two_mul_length_le_listBytes (ts : List KeyTree) :
    2 * ts.length ≤ (KeyMessage.listBytes (toMessages ts)).length := by
  induction ts with
  | nil => exact Nat.le_refl 0
  | cons t ts ih =>
      have hchild := two_add_le_length_field 1 (toMessage t).bytes
      rw [toMessages, KeyMessage.listBytes, List.length_append, List.length_cons]
      omega

/-- A sound threshold takes two bytes, unless there are many children. -/
theorem length_thresholdField {n : UInt32} (hpos : 0 < n.toNat) (h : n.toNat < 128) :
    (KeyMessage.thresholdField n).length = 2 := by
  have hne : n ≠ 0 := by
    rintro rfl
    exact absurd hpos (by decide)
  rw [KeyMessage.thresholdField, if_neg hne, List.length_append, writeKey_of_lt (by decide),
    writeVarint_of_lt h]
  rfl

theorem contentSize_threshold {n : UInt32} {ts : List KeyTree}
    (hrequired : SoundThreshold ts.length (some n))
    (h : ContentSize (KeyMessage.listBytes (toMessages ts)).length) :
    ContentSize (KeyMessage.thresholdField n ++
      KeyMessage.field 2 (KeyMessage.listBytes (toMessages ts))).length := by
  obtain ⟨hpos, hle⟩ := hrequired n rfl
  have hkeys : ListSize
      (KeyMessage.field 2 (KeyMessage.listBytes (toMessages ts))).length :=
    listSize_field (by decide) h
  rw [List.length_append]
  by_cases hn : n.toNat < 128
  · rw [length_thresholdField hpos hn]
    unfold ListSize at hkeys
    unfold ContentSize
    omega
  · -- A threshold of more than one digit has more children than fit into a short list.
    have hmany := two_mul_length_le_listBytes ts
    have hfield := two_add_le_length_field 2 (KeyMessage.listBytes (toMessages ts))
    right
    omega

/-- No list is as long as a key of curve 25519. -/
theorem listSize_toMessage {t : KeyTree} (hleaves : LeavesWellFormed t)
    (hthresholds : ThresholdsSound t) : ListSize (toMessage t).bytes.length := by
  induction hleaves with
  | single hk => exact listSize_single hk
  | @list required ts _ ih =>
      cases hthresholds with
      | list hrequired hchildren =>
          have hcontent := contentSize_listBytes fun t ht => ih t ht (hchildren t ht)
          cases required with
          | none =>
              rw [toMessage, KeyMessage.list, KeyMessage.bytes]
              exact listSize_field (by decide) hcontent
          | some n =>
              rw [toMessage, KeyMessage.list, KeyMessage.bytes]
              exact listSize_field (by decide) (contentSize_threshold hrequired hcontent)

/-! ## Recognition -/

/-- The first byte of the message of a list is the key of a field that holds a list. -/
theorem exists_bytes_list (required : Option UInt32) (ts : List KeyTree) :
    ∃ b rest, (toMessage (.list required ts)).bytes = b :: rest ∧ (b = 0x32 ∨ b = 0x2a) := by
  cases required with
  | none =>
      rw [toMessage, KeyMessage.list, KeyMessage.bytes, KeyMessage.field,
        writeKey_of_lt (by decide)]
      exact ⟨0x32, _, rfl, Or.inl rfl⟩
  | some n =>
      rw [toMessage, KeyMessage.list, KeyMessage.bytes, KeyMessage.field,
        writeKey_of_lt (by decide)]
      exact ⟨0x2a, _, rfl, Or.inr rfl⟩

/-- Bytes are not taken for a single key unless they start like one or have the size of
one. -/
theorem looksSingle_cons_of_ne {b : UInt8} {rest : List UInt8} (hheader : b ≠ 0x30)
    (heven : b ≠ 2) (hodd : b ≠ 3) (hlength : (b :: rest).length ≠ 32) :
    KeyMessage.looksSingle (b :: rest) = false := by
  simp only [KeyMessage.looksSingle, hheader, heven, hodd, hlength, decide_false,
    Bool.false_or, Bool.false_and]

/-- What starts like the message of a list starts like no single key. -/
theorem looksSingle_cons_of_list {b : UInt8} {rest : List UInt8} (hb : b = 0x32 ∨ b = 0x2a)
    (hlength : (b :: rest).length ≠ 32) : KeyMessage.looksSingle (b :: rest) = false := by
  rcases hb with rfl | rfl
  · exact looksSingle_cons_of_ne (by decide) (by decide) (by decide) hlength
  · exact looksSingle_cons_of_ne (by decide) (by decide) (by decide) hlength

/-- The bytes of a list are not taken for a single key unless they have the size of one. -/
theorem looksSingle_list {required : Option UInt32} {ts : List KeyTree}
    (h : (toMessage (.list required ts)).bytes.length ≠ 32) :
    KeyMessage.looksSingle (toMessage (.list required ts)).bytes = false := by
  obtain ⟨b, rest, hbytes, hb⟩ := exists_bytes_list required ts
  rw [hbytes] at h ⊢
  exact looksSingle_cons_of_list hb h

/-! ## Texts -/

theorem decode_encodeHex (bytes : List UInt8) : decode (encodeHex bytes) = ofBytes bytes := by
  rw [decode, KeyMessage.ofEncoded, decodeHex_encodeHex, ofBytes]

end KeyTree

end Concord
