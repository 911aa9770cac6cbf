import Concord.Proofs.Key.Bounds
import Concord.Proofs.Key.Tree

/-!
# Different trees have different texts

The text of a tree is read back as the tree only within the limits of the decoder, and only
when the leaves are well formed.  That two trees never share a text needs neither
(`KeyTree.encode_eq_encode_iff`).

* A writer is *self-delimiting* when what it writes can be split off the front of any bytes.
  Numbers are written so, since a reader with enough digits left reads every one of them, and
  with them keys of fields, lengths and fields.
* A message holds at most one field, told by its tag and its value (`KeyMessage.content`).
  Those determine the message: the value of a list is a sequence of fields, which cannot be
  cut in two ways (`SelfDelimiting.flatMap_injective`), and a threshold that is left out is
  told from one that is not by the first field (`KeyMessage.thresholdField_append_inj`).
* A single key starts with the header of its algorithm, and no list starts like one.
-/

namespace Concord.Key

/-! ## Self-delimiting writers -/

/-- What is written of a value can be split off the front of any bytes. -/
def SelfDelimiting {α : Type} (write : α → List UInt8) : Prop :=
  ∀ ⦃a b : α⦄ ⦃xs ys : List UInt8⦄, write a ++ xs = write b ++ ys → a = b ∧ xs = ys

section

variable {α : Type} {write : α → List UInt8}

/-- A sequence of values is determined by what is written of it when each of them takes a
byte at least. -/
theorem SelfDelimiting.flatMap_injective (h : SelfDelimiting write)
    (hne : ∀ a, write a ≠ []) : Function.Injective fun as : List α => as.flatMap write := by
  intro as
  induction as with
  | nil =>
      intro bs heq
      cases bs with
      | nil => rfl
      | cons b bs => exact absurd heq.symm (List.append_ne_nil_of_left_ne_nil (hne b) _)
  | cons a as ih =>
      intro bs heq
      cases bs with
      | nil => exact absurd heq (List.append_ne_nil_of_left_ne_nil (hne a) _)
      | cons b bs =>
          simp only [List.flatMap_cons] at heq
          obtain ⟨rfl, hrest⟩ := h heq
          rw [ih hrest]

end

/-! ## Numbers and lengths -/

/-- Two numbers are both read by a reader that has as many digits left as the greater of them
counts, so that neither can be the front of the other. -/
theorem selfDelimiting_writeVarint : SelfDelimiting writeVarint := by
  intro n m xs ys h
  have hn : n < capacity (max n m) :=
    Nat.lt_of_le_of_lt (Nat.le_max_left n m) (lt_capacity _)
  have hm : m < capacity (max n m) :=
    Nat.lt_of_le_of_lt (Nat.le_max_right n m) (lt_capacity _)
  have hread := readDigits_writeVarint (max n m) xs hn
  rw [h, readDigits_writeVarint (max n m) ys hm] at hread
  cases hread
  exact ⟨rfl, rfl⟩

theorem WireForm.code_injective : Function.Injective WireForm.code := by
  intro f g h
  have hcode := WireForm.ofCode?_code f
  rw [h, WireForm.ofCode?_code] at hcode
  exact (Option.some.inj hcode).symm

theorem selfDelimiting_writeKey : SelfDelimiting writeKey := by
  rintro ⟨t, f⟩ ⟨u, g⟩ xs ys h
  obtain ⟨hsum, hrest⟩ := selfDelimiting_writeVarint h
  have hnumber : t * 8 + f.code = u * 8 + g.code := hsum
  have hf := f.code_lt
  have hg := g.code_lt
  have htag : t = u := by omega
  have hform : f = g := WireForm.code_injective (by omega)
  rw [htag, hform]
  exact ⟨rfl, hrest⟩

theorem selfDelimiting_writeDelimited : SelfDelimiting writeDelimited := by
  intro a b xs ys h
  rw [writeDelimited, writeDelimited, List.append_assoc, List.append_assoc] at h
  obtain ⟨hlength, hrest⟩ := selfDelimiting_writeVarint h
  exact List.append_inj hrest hlength

end Concord.Key

namespace Concord.KeyMessage

open Key

/-! ## Fields -/

theorem field_append_inj {t u : Nat} {a b xs ys : List UInt8}
    (h : field t a ++ xs = field u b ++ ys) : t = u ∧ a = b ∧ xs = ys := by
  rw [field, field, List.append_assoc, List.append_assoc] at h
  -- The tag ends before the length, and the length says where the value ends.
  obtain ⟨hkey, hrest⟩ := selfDelimiting_writeKey h
  obtain ⟨hvalue, hbehind⟩ := selfDelimiting_writeDelimited hrest
  exact ⟨congrArg FieldKey.tag hkey, hvalue, hbehind⟩

theorem field_inj {t u : Nat} {a b : List UInt8} (h : field t a = field u b) :
    t = u ∧ a = b := by
  have hnil : field t a ++ [] = field u b ++ [] := by rw [h]
  obtain ⟨htag, hvalue, -⟩ := field_append_inj hnil
  exact ⟨htag, hvalue⟩

theorem field_ne_nil (tag : Nat) (value : List UInt8) : field tag value ≠ [] :=
  List.ne_nil_of_length_pos (length_field_pos tag value)

theorem selfDelimiting_field (tag : Nat) : SelfDelimiting (field tag) :=
  fun _ _ _ _ h => (field_append_inj h).2

theorem listBytes_eq_flatMap (ks : List KeyMessage) :
    listBytes ks = (ks.map bytes).flatMap (field 1) := by
  induction ks with
  | nil => rfl
  | cons k ks ih => rw [listBytes, List.map_cons, List.flatMap_cons, ih]

/-- The children of a list are told apart by their bytes. -/
theorem map_bytes_eq_of_listBytes_eq {ks js : List KeyMessage}
    (h : listBytes ks = listBytes js) : ks.map bytes = js.map bytes := by
  rw [listBytes_eq_flatMap, listBytes_eq_flatMap] at h
  exact (selfDelimiting_field 1).flatMap_injective (field_ne_nil 1) h

/-! ## Thresholds -/

/-- Whether a threshold was left out is seen when what comes behind it does not start like
one. -/
theorem thresholdField_append_inj {n m : UInt32} {xs ys : List UInt8}
    (hxs : ∀ rest, xs ≠ writeKey ⟨1, .varint⟩ ++ rest)
    (hys : ∀ rest, ys ≠ writeKey ⟨1, .varint⟩ ++ rest)
    (h : thresholdField n ++ xs = thresholdField m ++ ys) : n = m ∧ xs = ys := by
  rw [thresholdField, thresholdField] at h
  by_cases hn : n = 0
  · by_cases hm : m = 0
    · rw [if_pos hn, if_pos hm] at h
      exact ⟨hn.trans hm.symm, h⟩
    · rw [if_pos hn, if_neg hm, List.append_assoc] at h
      exact absurd h (hxs _)
  · by_cases hm : m = 0
    · rw [if_neg hn, if_pos hm, List.append_assoc] at h
      exact absurd h.symm (hys _)
    · rw [if_neg hn, if_neg hm, List.append_assoc, List.append_assoc] at h
      obtain ⟨-, hrest⟩ := selfDelimiting_writeKey h
      obtain ⟨hnumber, hbehind⟩ := selfDelimiting_writeVarint hrest
      exact ⟨UInt32.toNat_inj.1 hnumber, hbehind⟩

theorem keysField_ne (ks : Option (List KeyMessage)) (rest : List UInt8) :
    keysField ks ≠ writeKey ⟨1, .varint⟩ ++ rest := by
  intro h
  cases ks with
  | none =>
      have hkey := length_writeKey_pos ⟨1, .varint⟩
      have hlength := congrArg List.length h
      rw [keysField, List.length_append, List.length_nil] at hlength
      omega
  | some ks =>
      rw [keysField, field] at h
      obtain ⟨hkey, -⟩ := selfDelimiting_writeKey h
      cases hkey

/-- The threshold and the bytes of its list are told by the bytes of both. -/
theorem thresholdBytes_inj {t u : UInt32 × Option (List KeyMessage)}
    (h : thresholdBytes t = thresholdBytes u) :
    t.1 = u.1 ∧ t.2.map listBytes = u.2.map listBytes := by
  obtain ⟨n, ks⟩ := t
  obtain ⟨m, js⟩ := u
  obtain ⟨hrequired, hkeys⟩ := thresholdField_append_inj (keysField_ne ks) (keysField_ne js) h
  refine ⟨hrequired, ?_⟩
  cases ks with
  | none =>
      cases js with
      | none => rfl
      | some js => exact absurd hkeys.symm (field_ne_nil 2 _)
  | some ks =>
      cases js with
      | none => exact absurd hkeys (field_ne_nil 2 _)
      | some js => exact congrArg some (field_inj hkeys).2

/-! ## Messages -/

/-- The tag and the value of the field that a message holds, if it holds one. -/
def content : KeyMessage → Option (Nat × List UInt8)
  | .empty => none
  | .ed25519 b => some (2, b)
  | .threshold n ks => some (5, thresholdBytes (n, ks))
  | .keyList ks => some (6, listBytes ks)
  | .secp256k1 b => some (7, b)

theorem bytes_eq_content (m : KeyMessage) :
    m.bytes = match m.content with
      | none => []
      | some f => field f.1 f.2 := by
  cases m with
  | empty => rw [bytes, content]
  | ed25519 b => rw [bytes, content]
  | secp256k1 b => rw [bytes, content]
  | keyList ks => rw [bytes, content]
  | threshold n ks => exact bytes_threshold (n, ks)

theorem content_eq_of_bytes_eq {k m : KeyMessage} (h : k.bytes = m.bytes) :
    k.content = m.content := by
  rw [bytes_eq_content, bytes_eq_content] at h
  cases hk : k.content with
  | none =>
      cases hm : m.content with
      | none => rfl
      | some g =>
          rw [hk, hm] at h
          exact absurd h.symm (field_ne_nil g.1 g.2)
  | some f =>
      cases hm : m.content with
      | none =>
          rw [hk, hm] at h
          exact absurd h (field_ne_nil f.1 f.2)
      | some g =>
          rw [hk, hm] at h
          obtain ⟨htag, hvalue⟩ := field_inj h
          exact congrArg some (Prod.ext htag hvalue)

/-- No other message has the bytes of this one. -/
def DeterminedByBytes (k : KeyMessage) : Prop :=
  ∀ m : KeyMessage, k.bytes = m.bytes → k = m

theorem eq_of_listBytes_eq {ks js : List KeyMessage} (h : ∀ k ∈ ks, DeterminedByBytes k)
    (heq : listBytes ks = listBytes js) : ks = js := by
  have hbytes := map_bytes_eq_of_listBytes_eq heq
  clear heq
  -- Both lists are cut into the same pieces, so that they are compared child by child.
  induction ks generalizing js with
  | nil => exact (List.map_eq_nil_iff.1 hbytes.symm).symm
  | cons k ks ih =>
      obtain ⟨j, js, rfl, hk, hks⟩ := List.map_eq_cons_iff.1 hbytes.symm
      rw [h k List.mem_cons_self j hk.symm,
        ih (fun c hc => h c (List.mem_cons_of_mem k hc)) hks.symm]

theorem determinedByBytes_keyList {ks : List KeyMessage} (h : ∀ k ∈ ks, DeterminedByBytes k) :
    DeterminedByBytes (.keyList ks) := by
  intro m heq
  have hcontent := content_eq_of_bytes_eq heq
  cases m with
  | keyList js =>
      simp only [content, Option.some.injEq, Prod.mk.injEq, true_and] at hcontent
      rw [eq_of_listBytes_eq h hcontent]
  | _ => simp [content] at hcontent

/-- The bytes of a threshold are those of a threshold alone, with as many keys required. -/
theorem exists_of_bytes_threshold_eq {n : UInt32} {ks : Option (List KeyMessage)}
    {m : KeyMessage} (h : (threshold n ks).bytes = m.bytes) :
    ∃ js, m = .threshold n js ∧ ks.map listBytes = js.map listBytes := by
  have hcontent := content_eq_of_bytes_eq h
  cases m with
  | threshold l js =>
      simp only [content, Option.some.injEq, Prod.mk.injEq, true_and] at hcontent
      obtain ⟨hrequired, hkeys⟩ := thresholdBytes_inj hcontent
      obtain rfl : n = l := hrequired
      exact ⟨js, rfl, hkeys⟩
  | _ => simp [content] at hcontent

theorem determinedByBytes_bare (n : UInt32) : DeterminedByBytes (.threshold n none) := by
  intro m heq
  obtain ⟨js, rfl, hkeys⟩ := exists_of_bytes_threshold_eq heq
  rw [Option.map_eq_none_iff.1 hkeys.symm]

theorem determinedByBytes_threshold (n : UInt32) {ks : List KeyMessage}
    (h : ∀ k ∈ ks, DeterminedByBytes k) : DeterminedByBytes (.threshold n (some ks)) := by
  intro m heq
  obtain ⟨js, rfl, hkeys⟩ := exists_of_bytes_threshold_eq heq
  obtain ⟨js, rfl, hlist⟩ := Option.map_eq_some_iff.1 hkeys.symm
  rw [eq_of_listBytes_eq h hlist.symm]

/-- Messages of different kinds have different tags, and those of one kind are told apart by
their values. -/
theorem determinedByBytes : ∀ k, DeterminedByBytes k :=
  Hereditary.all {
    empty := by
      intro m heq
      have hcontent := content_eq_of_bytes_eq heq
      cases m with
      | empty => rfl
      | _ => simp [content] at hcontent
    ed25519 := by
      intro b m heq
      have hcontent := content_eq_of_bytes_eq heq
      cases m with
      | ed25519 c => simpa [content] using hcontent
      | _ => simp [content] at hcontent
    secp256k1 := by
      intro b m heq
      have hcontent := content_eq_of_bytes_eq heq
      cases m with
      | secp256k1 c => simpa [content] using hcontent
      | _ => simp [content] at hcontent
    keyList := fun _ h => determinedByBytes_keyList h
    bare := determinedByBytes_bare
    threshold := fun n _ h => determinedByBytes_threshold n h }

/-- No two messages have the same bytes. -/
theorem bytes_injective : Function.Injective bytes :=
  fun k m h => determinedByBytes k m h

/-! ## Single keys and lists in messages -/

theorem single_injective : Function.Injective single := by
  rintro ⟨a, b⟩ ⟨c, d⟩ h
  cases a with
  | ed25519 =>
      cases c with
      | ed25519 =>
          obtain rfl : b = d := ed25519.inj h
          rfl
      | secp256k1 => cases h
  | secp256k1 =>
      cases c with
      | ed25519 => cases h
      | secp256k1 =>
          obtain rfl : b = d := secp256k1.inj h
          rfl

theorem list_inj {n m : Option UInt32} {ks js : List KeyMessage} (h : list n ks = list m js) :
    n = m ∧ ks = js := by
  cases n with
  | none =>
      cases m with
      | none => exact ⟨rfl, keyList.inj h⟩
      | some m => cases h
  | some n =>
      cases m with
      | none => cases h
      | some m =>
          obtain ⟨rfl, hkeys⟩ := threshold.inj h
          exact ⟨rfl, Option.some.inj hkeys⟩

theorem single_ne_list (k : RawKey) (n : Option UInt32) (ks : List KeyMessage) :
    single k ≠ list n ks := by
  obtain ⟨a, b⟩ := k
  intro h
  cases a <;> cases n <;> cases h

end Concord.KeyMessage

namespace Concord

/-! ## Framed keys -/

theorem Algorithm.publicCount_injective : Function.Injective Algorithm.publicCount := by
  intro a b h
  cases a with
  | ed25519 =>
      cases b with
      | ed25519 => rfl
      | secp256k1 => cases h
  | secp256k1 =>
      cases b with
      | ed25519 => cases h
      | secp256k1 => rfl

namespace RawKey

theorem framed_get_one (k : RawKey) : k.framed[1]? = some k.algorithm.publicCount := by
  have hlength : 1 < k.algorithm.publicHeader.length := by
    rw [Algorithm.length_publicHeader]
    split <;> decide
  rw [framed, List.getElem?_append_left hlength, Algorithm.publicHeader_get_one]

/-- The headers of the algorithms differ in the second byte. -/
theorem framed_injective : Function.Injective framed := by
  rintro ⟨a, b⟩ ⟨c, d⟩ h
  have hsecond := congrArg (fun bytes : List UInt8 => bytes[1]?) h
  simp only [framed_get_one, Option.some.injEq] at hsecond
  obtain rfl := Algorithm.publicCount_injective hsecond
  obtain rfl : b = d := List.append_cancel_left h
  rfl

theorem exists_framed (k : RawKey) : ∃ rest, k.framed = 0x30 :: rest := by
  obtain ⟨a, b⟩ := k
  cases a with
  | ed25519 => exact ⟨_, rfl⟩
  | secp256k1 => exact ⟨_, rfl⟩

end RawKey

/-! ## Trees -/

namespace KeyTree

open Text

mutual

theorem toMessage_inj : ∀ {a b : KeyTree}, toMessage a = toMessage b → a = b
  | .single k, .single l, h => by
      rw [toMessage, toMessage] at h
      rw [KeyMessage.single_injective h]
  | .single k, .list m us, h => by
      rw [toMessage, toMessage] at h
      exact absurd h (KeyMessage.single_ne_list _ _ _)
  | .list n ts, .single l, h => by
      rw [toMessage, toMessage] at h
      exact absurd h.symm (KeyMessage.single_ne_list _ _ _)
  | .list n ts, .list m us, h => by
      rw [toMessage, toMessage] at h
      obtain ⟨hrequired, hkeys⟩ := KeyMessage.list_inj h
      rw [hrequired, toMessages_inj hkeys]

theorem toMessages_inj : ∀ {ts us : List KeyTree}, toMessages ts = toMessages us → ts = us
  | [], [], _ => rfl
  | [], _ :: _, h => by
      rw [toMessages, toMessages] at h
      cases h
  | _ :: _, [], h => by
      rw [toMessages, toMessages] at h
      cases h
  | t :: ts, u :: us, h => by
      rw [toMessages, toMessages] at h
      obtain ⟨hhead, htail⟩ := List.cons.inj h
      rw [toMessage_inj hhead, toMessages_inj htail]

end

theorem framed_ne_bytes_list (k : RawKey) (required : Option UInt32) (ts : List KeyTree) :
    k.framed ≠ (toMessage (.list required ts)).bytes := by
  intro h
  obtain ⟨rest, hframed⟩ := k.exists_framed
  obtain ⟨b, more, hlist, hb⟩ := exists_bytes_list required ts
  rw [hframed, hlist] at h
  obtain ⟨rfl, -⟩ := List.cons.inj h
  exact absurd hb (by decide)

theorem networkBytes_injective : Function.Injective networkBytes := by
  intro a b h
  cases a with
  | single k =>
      cases b with
      | single l => rw [RawKey.framed_injective h]
      | list required us => exact absurd h (framed_ne_bytes_list k required us)
  | list required ts =>
      cases b with
      | single l => exact absurd h.symm (framed_ne_bytes_list l required ts)
      | list other us => exact toMessage_inj (KeyMessage.bytes_injective h)

/-- Two trees have one text only if they are the same tree, however deep they are, whatever
their thresholds and however long their leaves.  So lists of the same children have one text
only if both require the same number of them or neither says a number. -/
theorem encode_eq_encode_iff {a b : KeyTree} {n m : Option UInt32} {ts : List KeyTree} :
    (a.encode = b.encode ↔ a = b) ∧
      ((list n ts).encode = (list m ts).encode ↔ n = m) := by
  have hinj : Function.Injective encode :=
    encodeHex_injective.comp networkBytes_injective
  refine ⟨hinj.eq_iff, ?_⟩
  rw [hinj.eq_iff, list.injEq]
  exact and_iff_left rfl

end KeyTree

end Concord
