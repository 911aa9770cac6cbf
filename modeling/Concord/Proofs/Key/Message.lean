import Concord.Key.Message.Decoder
import Concord.Proofs.Key.Wire

/-!
# Reading key messages back

The canonical bytes of a message are read as the message, as long as it does not nest
deeper than a message may and is no longer than the numbers of the wire can say
(`ofBytes_bytes`).

A message merges into the empty one along its own bytes, under every budget that covers its
nesting (`merges_bytes`).  The induction is on the message, and what it says of the children
of a list is put together field by field (`merges_listBytes`).
-/

namespace Concord.KeyMessage

open Key

/-! ## Sizes -/

theorem length_field (tag : Nat) (value : List UInt8) : (field tag value).length
    = (writeKey ⟨tag, .delimited⟩).length + ((writeVarint value.length).length
      + value.length) := by
  rw [field, List.length_append, length_writeDelimited]

theorem length_lt_field (tag : Nat) (value : List UInt8) :
    value.length < (field tag value).length := by
  have hkey := length_writeKey_pos ⟨tag, .delimited⟩
  rw [length_field]
  omega

theorem length_field_pos (tag : Nat) (value : List UInt8) : 0 < (field tag value).length :=
  Nat.lt_of_le_of_lt (Nat.zero_le _) (length_lt_field tag value)

/-! ## Single fields -/

section

variable {tag : Nat} {bytes rest : List UInt8}

theorem readKey_field (hpos : 0 < tag) (htag : tag * 8 + 7 ≤ Text.maxUnsigned32) :
    readKey (field tag bytes ++ rest)
      = .ok (⟨tag, .delimited⟩, writeDelimited bytes ++ rest) := by
  rw [field, List.append_assoc, readKey_writeKey hpos htag]

theorem readKeyBytes_writeDelimited (h : bytes.length < UInt64.size) :
    readKeyBytes .delimited (writeDelimited bytes ++ rest) = .ok (bytes, rest) := by
  rw [readKeyBytes, expectForm, if_pos rfl]
  exact readBytes_writeDelimited h rest

end

section

variable {budget : Nat} {m : KeyMessage} {bytes : List UInt8}

theorem takes_ed25519 (h : bytes.length < UInt64.size) :
    Takes (mergeKeyField budget) m (field 2 bytes) (.ed25519 bytes) := by
  intro rest
  rw [mergeKeyField, readKey_field (by decide) (by decide)]
  simp only [readKeyBytes_writeDelimited h, Except.map, inField]

theorem takes_secp256k1 (h : bytes.length < UInt64.size) :
    Takes (mergeKeyField budget) m (field 7 bytes) (.secp256k1 bytes) := by
  intro rest
  rw [mergeKeyField, readKey_field (by decide) (by decide)]
  simp only [readKeyBytes_writeDelimited h, Except.map, inField]

/-- A list of keys is entered with one less to spend. -/
theorem takes_keyList {ks : List KeyMessage}
    (hmerge : Merges (mergeListField budget) m.keysOf bytes ks) (h : bytes.length < UInt64.size) :
    Takes (mergeKeyField (budget + 1)) m (field 6 bytes) (.keyList ks) := by
  intro rest
  rw [mergeKeyField, readKey_field (by decide) (by decide)]
  simp only [expectForm, if_true, readDelimited_of_merges hmerge h, Except.map, inField]

theorem takes_threshold {n : UInt32} {ks : Option (List KeyMessage)}
    (hmerge : Merges (mergeThresholdField budget) m.thresholdOf bytes (n, ks))
    (h : bytes.length < UInt64.size) :
    Takes (mergeKeyField (budget + 1)) m (field 5 bytes) (.threshold n ks) := by
  intro rest
  rw [mergeKeyField, readKey_field (by decide) (by decide)]
  simp only [expectForm, if_true, readDelimited_of_merges hmerge h, Except.map, inField]

/-- A child of a list is read into the empty message. -/
theorem takes_child {ks : List KeyMessage} {k : KeyMessage}
    (hmerge : Merges (mergeKeyField budget) .empty bytes k) (h : bytes.length < UInt64.size) :
    Takes (mergeListField (budget + 1)) ks (field 1 bytes) (ks ++ [k]) := by
  intro rest
  rw [mergeListField, readKey_field (by decide) (by decide)]
  simp only [expectForm, if_true, readDelimited_of_merges hmerge h, Except.map, inField]

/-- The list of a threshold is read into the list that is there. -/
theorem takes_thresholdKeys {t : UInt32 × Option (List KeyMessage)} {ks : List KeyMessage}
    (hmerge : Merges (mergeListField budget) (t.2.getD []) bytes ks)
    (h : bytes.length < UInt64.size) :
    Takes (mergeThresholdField (budget + 1)) t (field 2 bytes) (t.1, some ks) := by
  intro rest
  rw [mergeThresholdField, readKey_field (by decide) (by decide)]
  simp only [expectForm, if_true, readDelimited_of_merges hmerge h, Except.map, inField]

theorem takes_required {t : UInt32 × Option (List KeyMessage)} (n : UInt32) :
    Takes (mergeThresholdField budget) t (writeKey ⟨1, .varint⟩ ++ writeVarint n.toNat)
      (n, t.2) := by
  intro rest
  have hn : n.toNat < UInt64.size := Nat.lt_trans n.toNat_lt (by decide)
  rw [mergeThresholdField, List.append_assoc, readKey_writeKey (by decide) (by decide)]
  simp only [expectForm, if_true, readVarint_writeVarint hn, Except.map, inField,
    UInt32.ofNat_toNat]

/-- A threshold of zero is not written, and is what is there at first. -/
theorem merges_thresholdField (n : UInt32) (ks : Option (List KeyMessage)) :
    Merges (mergeThresholdField budget) (0, ks) (thresholdField n) (n, ks) := by
  rw [thresholdField]
  split
  case isTrue h =>
      subst h
      exact .nil
  case isFalse =>
      refine (takes_required n).merges ?_
      rw [List.length_append]
      exact Nat.add_pos_left (length_writeVarint_pos _) _

end

/-! ## Whole messages -/

/-- A message that can be read back under a budget. -/
def ReadsBack (m : KeyMessage) : Prop :=
  ∀ budget, m.nest ≤ budget → m.bytes.length < UInt64.size →
    Merges (mergeKeyField budget) .empty m.bytes m

/-- The children of a list join those that were read before them. -/
theorem merges_listBytes {ks : List KeyMessage} (h : ∀ k ∈ ks, ReadsBack k) :
    ∀ {budget : Nat} (done : List KeyMessage), nestList ks ≤ budget →
      (listBytes ks).length < UInt64.size →
      Merges (mergeListField budget) done (listBytes ks) (done ++ ks) := by
  induction ks with
  | nil =>
      intro budget done _ _
      rw [listBytes, List.append_nil]
      exact .nil
  | cons k ks ih =>
      intro budget done hnest hlength
      rw [nestList] at hnest
      rw [listBytes, List.length_append] at hlength
      have hfield := length_lt_field 1 k.bytes
      cases budget with
      | zero => omega
      | succ budget =>
          -- A child is entered with one less, and its siblings with as much as before.
          have hchild : Merges (mergeKeyField budget) .empty k.bytes k :=
            h k List.mem_cons_self budget (by omega) (by omega)
          have hrest : Merges (mergeListField (budget + 1)) (done ++ [k]) (listBytes ks)
              (done ++ [k] ++ ks) :=
            ih (fun c hc => h c (List.mem_cons_of_mem k hc)) (done ++ [k]) (by omega)
              (by omega)
          rw [List.append_assoc, List.singleton_append] at hrest
          rw [listBytes]
          exact .cons (length_field_pos _ _) (takes_child hchild (by omega)) hrest

theorem readsBack_keyList {ks : List KeyMessage} (h : ∀ k ∈ ks, ReadsBack k) :
    ReadsBack (.keyList ks) := by
  intro budget hnest hlength
  rw [nest] at hnest
  rw [bytes] at hlength ⊢
  have hfield := length_lt_field 6 (listBytes ks)
  cases budget with
  | zero => omega
  | succ budget =>
      have hlist : Merges (mergeListField budget) [] (listBytes ks) ks :=
        merges_listBytes h [] (by omega) (by omega)
      exact (takes_keyList (m := .empty) hlist (by omega)).merges (length_field_pos _ _)

theorem readsBack_bare (n : UInt32) : ReadsBack (.threshold n none) := by
  intro budget hnest hlength
  rw [nest] at hnest
  rw [bytes] at hlength ⊢
  have hfield := length_lt_field 5 (thresholdField n)
  cases budget with
  | zero => omega
  | succ budget =>
      have hvalue : Merges (mergeThresholdField budget) (0, none) (thresholdField n) (n, none) :=
        merges_thresholdField n none
      exact (takes_threshold (m := .empty) hvalue (by omega)).merges (length_field_pos _ _)

theorem readsBack_threshold {ks : List KeyMessage} (n : UInt32) (h : ∀ k ∈ ks, ReadsBack k) :
    ReadsBack (.threshold n (some ks)) := by
  intro budget hnest hlength
  rw [nest] at hnest
  rw [bytes] at hlength ⊢
  have hfield := length_lt_field 5 (thresholdField n ++ field 2 (listBytes ks))
  rw [List.length_append] at hfield
  have hlist := length_lt_field 2 (listBytes ks)
  cases budget with
  | zero => omega
  | succ budget =>
      cases budget with
      | zero => omega
      | succ budget =>
          have hkeys : Merges (mergeListField budget) [] (listBytes ks) ks :=
            merges_listBytes h [] (by omega) (by omega)
          have hvalue : Merges (mergeThresholdField (budget + 1)) (0, none)
              (thresholdField n ++ field 2 (listBytes ks)) (n, some ks) :=
            (merges_thresholdField n none).append
              ((takes_thresholdKeys (t := (n, none)) hkeys (by omega)).merges
                (length_field_pos _ _))
          exact (takes_threshold (m := .empty) hvalue (by rw [List.length_append]; omega)).merges
            (length_field_pos _ _)

/-- Every message merges into the empty one along its bytes. -/
theorem merges_bytes : ∀ m, ReadsBack m :=
  Hereditary.all {
    empty := by
      intro budget _ _
      rw [bytes]
      exact .nil
    ed25519 := by
      intro b budget _ hlength
      rw [bytes] at hlength ⊢
      have hfield := length_lt_field 2 b
      exact (takes_ed25519 (by omega)).merges (length_field_pos _ _)
    secp256k1 := by
      intro b budget _ hlength
      rw [bytes] at hlength ⊢
      have hfield := length_lt_field 7 b
      exact (takes_secp256k1 (by omega)).merges (length_field_pos _ _)
    keyList := fun _ h => readsBack_keyList h
    bare := readsBack_bare
    threshold := fun n _ h => readsBack_threshold n h }

/-- The canonical bytes of a message are read as the message. -/
theorem ofBytes_bytes {m : KeyMessage} (hnest : m.nest ≤ nestingBudget)
    (hlength : m.bytes.length < UInt64.size) : ofBytes m.bytes = .ok m := by
  have hmerge := mergeFields_of_merges (merges_bytes m nestingBudget hnest hlength) []
    (Nat.le_refl _)
  rw [List.append_nil, List.length_nil] at hmerge
  rw [ofBytes, hmerge]
  rfl

end Concord.KeyMessage
