import Concord.Proofs.Key.Decoded
import Concord.Proofs.Key.Depth

/-!
# Lists level by level

A list can be read as a whole, or level by level: the lists below a level are then written in
their canonical form, and each is read again as a text of its own (`KeyList.expand`).  Both
ways lead to the same tree (`KeyList.expand_iff_decode`).

* Texts get shorter from level to level, so that the expansion ends (`KeyList.nested_lt`).
* The budget for nesting starts afresh with every text, and the text is another than the part
  that was read.  It is read as the same message nevertheless: what is below a level nests no
  deeper than the level, and it has stood behind a length, so that its own length can be
  written (`KeyMessage.read_child`).
* A level is never taken for a single key, while the text of a tree may be.  Bytes that start
  like a single key are no message (`KeyMessage.read_of_header`, `KeyMessage.read_of_point`),
  which leaves those of which only the size is that of a key.
-/

namespace Concord

open Key Text

namespace KeyMessage

variable {m : KeyMessage} {required : Option UInt32} {ks : List KeyMessage}

/-! ## Lists and their children -/

/-- A message is a list, with or without a threshold, and these are its children. -/
inductive IsList : KeyMessage → Option UInt32 → List KeyMessage → Prop where
  | keyList (ks : List KeyMessage) : IsList (.keyList ks) none ks
  | bare (n : UInt32) : IsList (.threshold n none) (some n) []
  | threshold (n : UInt32) (ks : List KeyMessage) :
      IsList (.threshold n (some ks)) (some n) ks

theorem nest_le_nestList {k : KeyMessage} (hk : k ∈ ks) : k.nest ≤ nestList ks := by
  induction ks with
  | nil => cases hk
  | cons j ks ih =>
      rw [nestList]
      rcases List.mem_cons.1 hk with rfl | hmem
      · omega
      · have hrest := ih hmem
        omega

theorem length_lt_listBytes {k : KeyMessage} (hk : k ∈ ks) :
    k.bytes.length < (listBytes ks).length := by
  induction ks with
  | nil => cases hk
  | cons j ks ih =>
      rw [listBytes, List.length_append]
      rcases List.mem_cons.1 hk with rfl | hmem
      · have hfield := length_lt_field 1 k.bytes
        omega
      · have hrest := ih hmem
        omega

theorem IsList.nest_le (h : IsList m required ks) {k : KeyMessage} (hk : k ∈ ks) :
    k.nest ≤ m.nest := by
  have hlist := nest_le_nestList hk
  cases h with
  | keyList =>
      rw [nest]
      omega
  | bare => cases hk
  | threshold =>
      rw [nest]
      omega

theorem IsList.length_lt (h : IsList m required ks) {k : KeyMessage} (hk : k ∈ ks) :
    k.bytes.length < m.bytes.length := by
  have hlist := length_lt_listBytes hk
  cases h with
  | keyList =>
      have hfield := length_lt_field 6 (listBytes ks)
      rw [bytes]
      omega
  | bare => cases hk
  | @threshold n =>
      have hfield := length_lt_field 5 (thresholdField n ++ field 2 (listBytes ks))
      have hinner := length_lt_field 2 (listBytes ks)
      rw [List.length_append] at hfield
      rw [bytes]
      omega

/-! ## Children that have been read -/

/-- The lengths of some messages can be written. -/
def Short (ks : List KeyMessage) : Prop := ∀ k ∈ ks, k.bytes.length < UInt64.size

section

variable {budget : Nat} {bytes rest : List UInt8}

/-- A child is merged into nothing, so that its length bounds it. -/
theorem short_mergeListField {ks' : List KeyMessage} (hks : Short ks)
    (h : mergeListField budget ks bytes = .ok (ks', rest)) : Short ks' := by
  obtain ⟨key, tail, -, hfield⟩ := exists_listFieldRead h
  cases hfield with
  | @child left k _ _ _ hread =>
      obtain ⟨-, n, hn, hsize, -⟩ :=
        (frugal_merge left).1.readDelimited (a := .empty) (Nat.zero_le _) hread
      rw [KeyMessage.bytes, List.length_nil, Nat.zero_add] at hsize
      intro j hj
      rcases List.mem_append.1 hj with hold | hnew
      · exact hks j hold
      · obtain rfl := List.mem_singleton.1 hnew
        exact Nat.lt_of_le_of_lt hsize hn
  | unknown => exact hks

theorem short_mergeThresholdField {t t' : UInt32 × Option (List KeyMessage)}
    (ht : Short (t.2.getD [])) (h : mergeThresholdField budget t bytes = .ok (t', rest)) :
    Short (t'.2.getD []) := by
  obtain ⟨key, tail, -, hfield⟩ := exists_thresholdFieldRead h
  cases hfield with
  | required => exact ht
  | keys _ _ hread => exact readDelimited_keeps short_mergeListField ht hread
  | unknown => exact ht

/-- What a message has below it of lists and thresholds is short. -/
def ShortBelow (m : KeyMessage) : Prop := ∀ ⦃required ks⦄, IsList m required ks → Short ks

theorem ShortBelow.keysOf (h : ShortBelow m) : Short m.keysOf := by
  cases m with
  | keyList ks => exact h (.keyList ks)
  | _ => exact List.forall_mem_nil _

theorem ShortBelow.thresholdOf (h : ShortBelow m) : Short (m.thresholdOf.2.getD []) := by
  cases m with
  | threshold n ks =>
      cases ks with
      | none => exact List.forall_mem_nil _
      | some ks => exact h (.threshold n ks)
  | _ => exact List.forall_mem_nil _

theorem shortBelow_mergeKeyField {m' : KeyMessage} (hm : ShortBelow m)
    (h : mergeKeyField budget m bytes = .ok (m', rest)) : ShortBelow m' := by
  obtain ⟨key, tail, -, hfield⟩ := exists_keyFieldRead h
  intro required ks hlist
  cases hfield with
  | ed25519 => cases hlist
  | secp256k1 => cases hlist
  | keyList _ _ hread =>
      cases hlist
      exact readDelimited_keeps short_mergeListField hm.keysOf hread
  | @threshold left t _ _ _ hread =>
      have ht := readDelimited_keeps (p := fun t => Short (t.2.getD []))
        short_mergeThresholdField hm.thresholdOf hread
      obtain ⟨n, js⟩ := t
      cases hlist with
      | bare => exact ht
      | threshold => exact ht
  | unknown => exact hm hlist

/-- Whatever the bytes are that a message is read from, its children are short. -/
theorem shortBelow_of_read (h : read bytes = .ok m) : ShortBelow m := by
  obtain ⟨⟨m', left⟩, hmerge, rfl⟩ := exists_of_map_ok (ofBytes_of_read h)
  have hempty : ShortBelow .empty := by
    intro required ks hlist
    cases hlist
  exact mergeFields_keeps (p := fun m _ => ShortBelow m) shortBelow_mergeKeyField hempty hmerge

/-- A child of a message that has been read is read back from its canonical bytes. -/
theorem read_child (h : read bytes = .ok m) (hlist : IsList m required ks) {k : KeyMessage}
    (hk : k ∈ ks) : read k.bytes = .ok k := by
  have hnest := (bounds_of_ofBytes (ofBytes_of_read h)).1
  exact read_bytes (Nat.le_trans (hlist.nest_le hk) hnest) (shortBelow_of_read h hlist k hk)

end

/-! ## Bytes that start like a single key -/

/-- The first byte of a header would be the key of a list that is no list. -/
theorem read_of_header (rest : List UInt8) :
    read (0x30 :: rest)
      = .error (.invalidMessage ⟨["KeyMessage.key"], .wrongForm .varint .delimited⟩) := rfl

/-- The tags of compressed points would be keys of a field without a tag. -/
theorem read_of_point {tag : UInt8} (h : tag = 2 ∨ tag = 3) (rest : List UInt8) :
    read (tag :: rest) = .error (.invalidMessage ⟨[], .invalidTag⟩) := by
  rcases h with rfl | rfl
  · rfl
  · rfl

/-- Bytes that start like a single key are no message. -/
theorem exists_error_of_head {bytes : List UInt8}
    (h : bytes.head? = some 0x30 ∨ bytes.head? = some 2 ∨ bytes.head? = some 3) :
    ∃ e, read bytes = .error (.invalidMessage e) := by
  cases bytes with
  | nil => simp at h
  | cons b rest =>
      simp only [List.head?_cons, Option.some.injEq] at h
      rcases h with rfl | htag
      · exact ⟨_, read_of_header rest⟩
      · exact ⟨_, read_of_point htag rest⟩

/-- Of the bytes of a message, only their number can be that of a single key. -/
theorem looksSingle_of_read {bytes : List UInt8} (h : read bytes = .ok m)
    (hlength : bytes.length ≠ 32) : looksSingle bytes = false := by
  cases bytes with
  | nil => rfl
  | cons b rest =>
      have hhead : ¬ (b = 0x30 ∨ b = 2 ∨ b = 3) := by
        intro hhead
        have hfirst : (b :: rest).head? = some 0x30 ∨ (b :: rest).head? = some 2 ∨
            (b :: rest).head? = some 3 := by
          simpa using hhead
        obtain ⟨e, herror⟩ := exists_error_of_head hfirst
        rw [h] at herror
        cases herror
      have ⟨hheader, htags⟩ := not_or.1 hhead
      have ⟨heven, hodd⟩ := not_or.1 htags
      exact KeyTree.looksSingle_cons_of_ne hheader heven hodd hlength

end KeyMessage

/-! ## Trees of lists -/

namespace KeyTree

theorem ofMessages_cons_eq_ok_iff {m : KeyMessage} {ms : List KeyMessage} {ts : List KeyTree} :
    ofMessages (m :: ms) = .ok ts ↔
      ∃ t us, ofMessage m = .ok t ∧ ofMessages ms = .ok us ∧ ts = t :: us := by
  constructor
  · exact exists_of_ofMessages_cons
  · rintro ⟨t, us, hhead, htail, rfl⟩
    rw [ofMessages, hhead, htail]
    rfl

theorem ofMessage_of_isList {m : KeyMessage} {required : Option UInt32} {ks : List KeyMessage}
    (h : m.IsList required ks) : ofMessage m = (ofMessages ks).map (list required) := by
  cases h with
  | keyList => rfl
  | bare => rfl
  | threshold => rfl

/-- A tree that is a list is that of a list. -/
theorem exists_isList_of_ofMessage {m : KeyMessage} {required : Option UInt32}
    {ts : List KeyTree} (h : ofMessage m = .ok (.list required ts)) :
    ∃ ks, m.IsList required ks := by
  cases m with
  | empty => cases h
  | ed25519 b =>
      obtain ⟨k, -, hk⟩ := exists_of_map_ok h
      cases hk
  | secp256k1 b =>
      obtain ⟨k, -, hk⟩ := exists_of_map_ok h
      cases hk
  | keyList ks =>
      obtain ⟨us, -, hend⟩ := exists_of_map_ok h
      cases hend
      exact ⟨ks, .keyList ks⟩
  | threshold n ks =>
      cases ks with
      | none =>
          cases h
          exact ⟨[], .bare n⟩
      | some ks =>
          obtain ⟨us, -, hend⟩ := exists_of_map_ok h
          cases hend
          exact ⟨ks, .threshold n ks⟩

end KeyTree

/-! ## Levels -/

namespace KeyList

variable {m : KeyMessage} {required : Option UInt32} {ks : List KeyMessage} {encoded : String}
  {l : KeyList}

theorem entry_of_isList (h : m.IsList required ks) : entry m = .ok (.nested m.hex) := by
  cases h with
  | keyList => rfl
  | bare => rfl
  | threshold => rfl

theorem hex_of_entry {s : String} (h : entry m = .ok (.nested s)) : s = m.hex := by
  cases m with
  | empty => cases h
  | ed25519 b =>
      obtain ⟨k, -, hk⟩ := exists_of_map_ok h
      cases hk
  | secp256k1 b =>
      obtain ⟨k, -, hk⟩ := exists_of_map_ok h
      cases hk
  | keyList ks =>
      cases h
      rfl
  | threshold n ks =>
      cases h
      rfl

theorem entriesOf_cons_eq_ok_iff {es : List KeyEntry} :
    entriesOf (m :: ks) = .ok es ↔
      ∃ e ds, entry m = .ok e ∧ entriesOf ks = .ok ds ∧ es = e :: ds := by
  rw [entriesOf]
  cases entry m with
  | error e => simp
  | ok e =>
      show (entriesOf ks).map (e :: ·) = .ok es ↔ _
      rw [map_eq_ok_iff]
      simp [eq_comm]

theorem exists_of_mem_entriesOf {es : List KeyEntry} (h : entriesOf ks = .ok es) {e : KeyEntry}
    (he : e ∈ es) : ∃ k ∈ ks, entry k = .ok e := by
  induction ks generalizing es with
  | nil =>
      cases h
      cases he
  | cons k ks ih =>
      obtain ⟨d, ds, hhead, htail, rfl⟩ := entriesOf_cons_eq_ok_iff.1 h
      rcases List.mem_cons.1 he with rfl | hmem
      · exact ⟨k, List.mem_cons_self, hhead⟩
      · obtain ⟨j, hj, hentry⟩ := ih htail hmem
        exact ⟨j, List.mem_cons_of_mem k hj, hentry⟩

theorem ofMessage_of_isList (h : m.IsList required ks) :
    ofMessage m = (entriesOf ks).map fun es => ⟨required, es⟩ := by
  cases h with
  | keyList => rfl
  | bare => rfl
  | threshold => rfl

theorem exists_isList_of_ofMessage (h : ofMessage m = .ok l) :
    ∃ ks, m.IsList l.required ks ∧ entriesOf ks = .ok l.entries := by
  cases m with
  | empty => cases h
  | ed25519 b => cases h
  | secp256k1 b => cases h
  | keyList ks =>
      obtain ⟨es, hes, rfl⟩ := exists_of_map_ok h
      exact ⟨ks, .keyList ks, hes⟩
  | threshold n ks =>
      obtain ⟨es, hes, rfl⟩ := exists_of_map_ok h
      cases ks with
      | none => exact ⟨[], .bare n, hes⟩
      | some ks => exact ⟨ks, .threshold n ks, hes⟩

theorem decode_of_read {bytes : List UInt8} (hhex : decodeHex encoded = .ok bytes)
    (hread : KeyMessage.read bytes = .ok m) : decode encoded = ofMessage m := by
  simp only [decode, hhex, hread]

theorem exists_of_decode (h : decode encoded = .ok l) :
    ∃ bytes m, decodeHex encoded = .ok bytes ∧ KeyMessage.read bytes = .ok m ∧
      ofMessage m = .ok l := by
  rw [decode] at h
  split at h
  case h_1 => cases h
  case h_2 bytes hhex =>
      split at h
      case h_1 => cases h
      case h_2 m hread => exact ⟨bytes, m, hhex, hread, h⟩

/-- A text that is nested in another is shorter. -/
theorem nested_lt {s : String} (h : decode encoded = .ok l) (hmem : .nested s ∈ l.entries) :
    s.utf8ByteSize < encoded.utf8ByteSize := by
  obtain ⟨bytes, m, hhex, hread, hlevel⟩ := exists_of_decode h
  obtain ⟨ks, hlist, hentries⟩ := exists_isList_of_ofMessage hlevel
  obtain ⟨k, hk, hentry⟩ := exists_of_mem_entriesOf hentries hmem
  have hchild := hlist.length_lt hk
  have hmessage := (KeyMessage.bounds_of_ofBytes (KeyMessage.ofBytes_of_read hread)).2
  have htext := two_mul_length_le_of_decodeHex hhex
  rw [hex_of_entry hentry, KeyMessage.hex, utf8ByteSize_encodeHex]
  omega

/-! ## Expansion -/

/-- The tree of a list that is read level by level. -/
def expand (encoded : String) : Except KeyError KeyTree :=
  match h : decode encoded with
  | .error e => .error e
  | .ok l => do
    let ts ← l.entries.attach.mapM fun
      | ⟨.key k, _⟩ => pure (.single k)
      | ⟨.nested s, hmem⟩ =>
        have := nested_lt h hmem
        expand s
    return .list l.required ts
termination_by encoded.utf8ByteSize

/-- The tree of a child: a single key, or what its text expands to. -/
def expandEntry : KeyEntry → Except KeyError KeyTree
  | .key k => .ok (.single k)
  | .nested s => expand s

theorem expand_of_error {e : KeyError} (h : decode encoded = .error e) :
    expand encoded = .error e := by
  rw [expand]
  split
  case h_1 hdecode => rw [Except.error.inj (hdecode.symm.trans h)]
  case h_2 hdecode =>
      rw [h] at hdecode
      cases hdecode

theorem expand_of_ok (h : decode encoded = .ok l) :
    expand encoded = (l.entries.mapM expandEntry).map (.list l.required) := by
  rw [expand]
  split
  case h_1 hdecode =>
      rw [h] at hdecode
      cases hdecode
  case h_2 l' hdecode =>
      obtain rfl : l' = l := Except.ok.inj (hdecode.symm.trans h)
      rw [List.mapM_subtype (g := expandEntry), List.unattach_attach]
      · cases l'.entries.mapM expandEntry <;> rfl
      · intro entry hmem
        cases entry <;> rfl

theorem exists_of_expand {t : KeyTree} (h : expand encoded = .ok t) :
    ∃ l ts, decode encoded = .ok l ∧ l.entries.mapM expandEntry = .ok ts ∧
      t = .list l.required ts := by
  cases hdecode : decode encoded with
  | error e =>
      rw [expand_of_error hdecode] at h
      cases h
  | ok l =>
      rw [expand_of_ok hdecode] at h
      obtain ⟨ts, hts, rfl⟩ := exists_of_map_ok h
      exact ⟨l, ts, rfl, hts, rfl⟩

theorem mapM_cons_eq_ok_iff {e : KeyEntry} {es : List KeyEntry} {ts : List KeyTree} :
    (e :: es).mapM expandEntry = .ok ts ↔
      ∃ t us, expandEntry e = .ok t ∧ es.mapM expandEntry = .ok us ∧ ts = t :: us := by
  rw [List.mapM_cons]
  cases expandEntry e with
  | error e => simp [bind, Except.bind]
  | ok t =>
      cases es.mapM expandEntry with
      | error e => simp [bind, Except.bind]
      | ok us => simp [bind, Except.bind, pure, Except.pure, eq_comm]

/-! ## Both ways agree -/

/-- What the children of a list become as entries is what they are as messages, if that holds
of each of them. -/
theorem exists_entries_iff
    (h : ∀ k ∈ ks, ∀ t, (∃ e, entry k = .ok e ∧ expandEntry e = .ok t) ↔
      KeyTree.ofMessage k = .ok t) {ts : List KeyTree} :
    (∃ es, entriesOf ks = .ok es ∧ es.mapM expandEntry = .ok ts) ↔
      KeyTree.ofMessages ks = .ok ts := by
  induction ks generalizing ts with
  | nil =>
      constructor
      · rintro ⟨es, hes, hts⟩
        cases hes
        exact hts
      · intro hts
        exact ⟨[], rfl, hts⟩
  | cons k ks ih =>
      have hfirst := h k List.mem_cons_self
      have hrest : ∀ {us}, _ ↔ KeyTree.ofMessages ks = .ok us :=
        ih fun j hj => h j (List.mem_cons_of_mem k hj)
      rw [KeyTree.ofMessages_cons_eq_ok_iff]
      constructor
      · rintro ⟨es, hes, hts⟩
        obtain ⟨e, ds, he, hds, rfl⟩ := entriesOf_cons_eq_ok_iff.1 hes
        obtain ⟨t, us, ht, hus, rfl⟩ := mapM_cons_eq_ok_iff.1 hts
        exact ⟨t, us, (hfirst t).1 ⟨e, he, ht⟩, hrest.1 ⟨ds, hds, hus⟩, rfl⟩
      · rintro ⟨t, us, ht, hus, rfl⟩
        obtain ⟨e, he, hentry⟩ := (hfirst t).2 ht
        obtain ⟨ds, hds, hentries⟩ := hrest.2 hus
        exact ⟨e :: ds, entriesOf_cons_eq_ok_iff.2 ⟨e, ds, he, hds, rfl⟩,
          mapM_cons_eq_ok_iff.2 ⟨t, us, hentry, hentries, rfl⟩⟩

/-- A single key is the same as an entry and as a message. -/
theorem exists_key_iff {a : Algorithm} {b : List UInt8} {t : KeyTree} :
    (∃ e, (RawKey.stripHeader a b).map KeyEntry.key = .ok e ∧ expandEntry e = .ok t) ↔
      (RawKey.stripHeader a b).map KeyTree.single = .ok t := by
  cases RawKey.stripHeader a b with
  | error e => simp [Except.map]
  | ok k => simp [Except.map, expandEntry]

/-- A child is the same as an entry and as a message, if its text expands to its tree. -/
theorem exists_entry_iff {k : KeyMessage}
    (h : ∀ {required ks}, k.IsList required ks → ∀ t,
      expand k.hex = .ok t ↔ KeyTree.ofMessage k = .ok t) {t : KeyTree} :
    (∃ e, entry k = .ok e ∧ expandEntry e = .ok t) ↔ KeyTree.ofMessage k = .ok t := by
  have hnested : ∀ {required ks}, k.IsList required ks →
      ((∃ e, entry k = .ok e ∧ expandEntry e = .ok t) ↔ KeyTree.ofMessage k = .ok t) := by
    intro required ks hlist
    rw [entry_of_isList hlist, ← h hlist t]
    simp [expandEntry]
  cases k with
  | empty => simp [entry, KeyTree.ofMessage]
  | ed25519 b => exact exists_key_iff
  | secp256k1 b => exact exists_key_iff
  | keyList ks => exact hnested (.keyList ks)
  | threshold n ks =>
      cases ks with
      | none => exact hnested (.bare n)
      | some ks => exact hnested (.threshold n ks)

/-- A list is expanded to its tree if its children are. -/
theorem expand_of_isList {bytes : List UInt8} (hhex : decodeHex encoded = .ok bytes)
    (hread : KeyMessage.read bytes = .ok m) (hlist : m.IsList required ks)
    (h : ∀ k ∈ ks, ∀ t, (∃ e, entry k = .ok e ∧ expandEntry e = .ok t) ↔
      KeyTree.ofMessage k = .ok t) (t : KeyTree) :
    expand encoded = .ok t ↔ KeyTree.ofMessage m = .ok t := by
  have hdecode : decode encoded = (entriesOf ks).map fun es => ⟨required, es⟩ :=
    (decode_of_read hhex hread).trans (ofMessage_of_isList hlist)
  rw [KeyTree.ofMessage_of_isList hlist, map_eq_ok_iff]
  constructor
  · intro hexpand
    obtain ⟨l, ts, hlevel, hts, rfl⟩ := exists_of_expand hexpand
    obtain ⟨es, hes, rfl⟩ := exists_of_map_ok (hdecode.symm.trans hlevel)
    exact ⟨ts, (exists_entries_iff h).1 ⟨es, hes, hts⟩, rfl⟩
  · rintro ⟨ts, hts, rfl⟩
    obtain ⟨es, hes, hentries⟩ := (exists_entries_iff h).2 hts
    rw [hes] at hdecode
    rw [expand_of_ok hdecode, hentries]
    rfl

/-- A text that is read as a list expands to the tree of the list. -/
theorem expand_of_read {bytes : List UInt8} (hhex : decodeHex encoded = .ok bytes)
    (hread : KeyMessage.read bytes = .ok m) (hlist : m.IsList required ks) (t : KeyTree) :
    expand encoded = .ok t ↔ KeyTree.ofMessage m = .ok t := by
  -- The texts of the children are others than the parts of this text that they stand for, so
  -- the induction is on the size of the message, over all texts that it is read from.
  induction hsize : m.bytes.length using Nat.strongRecOn
    generalizing encoded bytes m required ks t with
  | ind size ih =>
      subst hsize
      refine expand_of_isList hhex hread hlist (fun k hk t => exists_entry_iff ?_) t
      intro _ _ hnested t
      have hchild := KeyMessage.read_child hread hlist hk
      exact ih _ (hlist.length_lt hk) (decodeHex_encodeHex k.bytes) hchild hnested t rfl

/-- What is read as a message is expanded if it is a list, and then to its tree. -/
theorem expand_iff_ofMessage {bytes : List UInt8} (hhex : decodeHex encoded = .ok bytes)
    (hread : KeyMessage.read bytes = .ok m) {t : KeyTree} :
    expand encoded = .ok t ↔
      KeyTree.ofMessage m = .ok t ∧ ∃ required ts, t = .list required ts := by
  constructor
  · intro h
    obtain ⟨l, ts, hdecode, -, rfl⟩ := exists_of_expand h
    rw [decode_of_read hhex hread] at hdecode
    obtain ⟨ks, hlist, -⟩ := exists_isList_of_ofMessage hdecode
    exact ⟨(expand_of_read hhex hread hlist _).1 h, l.required, ts, rfl⟩
  · rintro ⟨htree, required, ts, rfl⟩
    obtain ⟨ks, hlist⟩ := KeyTree.exists_isList_of_ofMessage htree
    exact (expand_of_read hhex hread hlist _).2 htree

theorem exists_read_of_expand {bytes : List UInt8} (hhex : decodeHex encoded = .ok bytes)
    {t : KeyTree} (h : expand encoded = .ok t) : ∃ m, KeyMessage.read bytes = .ok m := by
  obtain ⟨l, -, hdecode, -⟩ := exists_of_expand h
  obtain ⟨bytes', m, hhex', hread, -⟩ := exists_of_decode hdecode
  obtain rfl := Except.ok.inj (hhex.symm.trans hhex')
  exact ⟨m, hread⟩

/-- Reading a text level by level and reading it as a whole lead to the same list, unless its
size is that of a raw key of curve 25519.  Nothing that starts like a single key is read as a
level, and the texts below a level are shorter than its own. -/
theorem expand_iff_decode {bytes : List UInt8} (hhex : decodeHex encoded = .ok bytes) :
    (bytes.length ≠ 32 → ∀ t, expand encoded = .ok t ↔
      KeyTree.decode encoded = .ok t ∧ ∃ required ts, t = .list required ts) ∧
    (bytes.head? = some 0x30 ∨ bytes.head? = some 2 ∨ bytes.head? = some 3 →
      ∃ e, decode encoded = .error (.invalidMessage e)) ∧
    (∀ l s, decode encoded = .ok l → .nested s ∈ l.entries →
      s.utf8ByteSize < encoded.utf8ByteSize) := by
  refine ⟨fun hlength t => ⟨fun h => ?_, fun ⟨htree, hlist⟩ => ?_⟩, fun hhead => ?_,
    fun l s => nested_lt⟩
  · obtain ⟨m, hread⟩ := exists_read_of_expand hhex h
    have hwhole := (expand_iff_ofMessage hhex hread).1 h
    refine ⟨?_, hwhole.2⟩
    have hsingle := KeyMessage.looksSingle_of_read hread hlength
    simp only [KeyTree.decode, KeyMessage.ofEncoded, KeyMessage.ofEncodedBytes, hhex, hsingle,
      hread, Bool.false_eq_true, if_false]
    exact hwhole.1
  · obtain ⟨required, ts, rfl⟩ := hlist
    obtain ⟨bytes', m, hhex', hmessage, hend⟩ := KeyTree.exists_of_decode_list htree
    obtain rfl := Except.ok.inj (hhex.symm.trans hhex')
    have hread : KeyMessage.read bytes = .ok m := by rw [KeyMessage.read, hmessage]
    exact (expand_iff_ofMessage hhex hread).2 ⟨hend, required, ts, rfl⟩
  · obtain ⟨e, hread⟩ := KeyMessage.exists_error_of_head hhead
    exact ⟨e, by simp only [decode, hhex, hread]⟩

/-- A list in a list, whose length is written with a byte that it does not need. -/
theorem expand_of_long_length :
    expand "3284000a023200" = .ok (.list none [.list none []]) := by
  have htext : encodeHex [0x32, 0x84, 0x00, 0x0a, 0x02, 0x32, 0x00] = "3284000a023200" := by
    decide +kernel
  have hhex := decodeHex_encodeHex [0x32, 0x84, 0x00, 0x0a, 0x02, 0x32, 0x00]
  have hread : KeyTree.decode "3284000a023200" = .ok (.list none [.list none []]) := by
    rw [← htext, KeyTree.decode_encodeHex]
    rfl
  rw [htext] at hhex
  exact ((expand_iff_decode hhex).1 (by decide) _).2 ⟨hread, none, _, rfl⟩

end KeyList

end Concord
