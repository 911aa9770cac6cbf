import Concord.Key.Encoded
import Concord.Proofs.Key.Consumption
import Concord.Proofs.Key.Message

/-!
# Bounds of what is read

Whatever bytes a message is read from, it nests no deeper than a message may, and its
canonical bytes are no more than those it was read from (`bounds_of_ofBytes`).  The bytes
need not be canonical: lists and thresholds may come in pieces, numbers with more digits
than they need, and fields of unknown tags in between.

The three kinds of message contain each other, and what a field does to each of them is
told by a relation with one case for every field (`KeyFieldRead`, `ListFieldRead`,
`ThresholdFieldRead`).  With these every step is frugal, by induction on the budget: a
field that is entered is merged with one less (`frugal_merge`).
-/

namespace Concord.KeyMessage

open Key

/-! ## Parts of messages -/

/-- The number of messages on the deepest path below a threshold, itself not counted. -/
def nestThreshold (t : UInt32 × Option (List KeyMessage)) : Nat :=
  match t.2 with
  | none => 0
  | some ks => 1 + nestList ks

/-- The canonical bytes of the list of a threshold, if it has one. -/
def keysField : Option (List KeyMessage) → List UInt8
  | none => []
  | some ks => field 2 (listBytes ks)

def thresholdBytes (t : UInt32 × Option (List KeyMessage)) : List UInt8 :=
  thresholdField t.1 ++ keysField t.2

theorem nest_threshold (t : UInt32 × Option (List KeyMessage)) :
    (threshold t.1 t.2).nest = 1 + nestThreshold t := by
  obtain ⟨n, ks⟩ := t
  cases ks with
  | none => rfl
  | some ks =>
      show (threshold n (some ks)).nest = 1 + (1 + nestList ks)
      rw [nest]
      omega

theorem bytes_threshold (t : UInt32 × Option (List KeyMessage)) :
    (threshold t.1 t.2).bytes = field 5 (thresholdBytes t) := by
  obtain ⟨n, ks⟩ := t
  cases ks with
  | none => rw [bytes, thresholdBytes, keysField, List.append_nil]
  | some ks => rw [bytes, thresholdBytes, keysField]

theorem nestList_append (ks js : List KeyMessage) :
    nestList (ks ++ js) = max (nestList ks) (nestList js) := by
  induction ks with
  | nil => exact (Nat.zero_max _).symm
  | cons k ks ih => rw [List.cons_append, nestList, nestList, ih, Nat.max_assoc]

theorem nestList_concat (ks : List KeyMessage) (k : KeyMessage) :
    nestList (ks ++ [k]) = max (nestList ks) (1 + k.nest) := by
  rw [nestList_append, nestList, nestList, Nat.max_zero]

theorem listBytes_append (ks js : List KeyMessage) :
    listBytes (ks ++ js) = listBytes ks ++ listBytes js := by
  induction ks with
  | nil => rfl
  | cons k ks ih => rw [List.cons_append, listBytes, listBytes, ih, List.append_assoc]

theorem length_listBytes_concat (ks : List KeyMessage) (k : KeyMessage) :
    (listBytes (ks ++ [k])).length = (listBytes ks).length + (field 1 k.bytes).length := by
  rw [listBytes_append, listBytes, listBytes, List.append_nil, List.length_append]

/-- What a list merges into is the list that is there, or nothing. -/
theorem keysOf_cases (m : KeyMessage) :
    (nestList m.keysOf = 0 ∧ (listBytes m.keysOf).length = 0) ∨
      (m.nest = 1 + nestList m.keysOf ∧ m.bytes = field 6 (listBytes m.keysOf)) := by
  cases m with
  | keyList ks => exact Or.inr ⟨by rw [nest, keysOf], by rw [bytes, keysOf]⟩
  | _ => exact Or.inl ⟨rfl, rfl⟩

/-- What a threshold merges into is the threshold that is there, or none. -/
theorem thresholdOf_cases (m : KeyMessage) :
    (nestThreshold m.thresholdOf = 0 ∧ (thresholdBytes m.thresholdOf).length = 0) ∨
      (m.nest = 1 + nestThreshold m.thresholdOf ∧
        m.bytes = field 5 (thresholdBytes m.thresholdOf)) := by
  cases m with
  | threshold n ks => exact Or.inr ⟨nest_threshold (n, ks), bytes_threshold (n, ks)⟩
  | _ => exact Or.inl ⟨rfl, rfl⟩

/-- What the list of a threshold merges into is the list that is there, or nothing. -/
theorem keysGetD_cases (t : UInt32 × Option (List KeyMessage)) :
    (nestList (t.2.getD []) = 0 ∧ (listBytes (t.2.getD [])).length = 0) ∨
      (nestThreshold t = 1 + nestList (t.2.getD []) ∧
        keysField t.2 = field 2 (listBytes (t.2.getD []))) := by
  obtain ⟨n, ks⟩ := t
  cases ks with
  | none => exact Or.inl ⟨rfl, rfl⟩
  | some ks => exact Or.inr ⟨rfl, rfl⟩

/-! ## Sizes of fields -/

theorem length_field_of_tag_lt {tag : Nat} (h : tag < 16) (value : List UInt8) :
    (field tag value).length = 1 + ((writeVarint value.length).length + value.length) := by
  rw [length_field, writeKey_of_lt h, List.length_singleton]

/-- A field takes no more than the key, the length and the bytes that are merged into it,
besides what was there of it before, if anything was. -/
theorem length_field_merge {tag : Nat} (htag : tag < 16) {part whole more : List UInt8}
    {n : Nat} (hpart : part.length = 0 ∨ whole = field tag part)
    (hgrow : more.length ≤ part.length + n) :
    (field tag more).length ≤ whole.length + (1 + ((writeVarint n).length + n)) := by
  have hdigits := length_writeVarint_mono hgrow
  rw [length_field_of_tag_lt htag]
  rcases hpart with hnone | rfl
  · rw [hnone, Nat.zero_add] at hdigits hgrow
    omega
  · have hsum := length_writeVarint_add part.length n
    rw [length_field_of_tag_lt htag]
    omega

/-- A field that is new takes no more than it is read from. -/
theorem length_field_of_readBytes (tag : Nat) (htag : tag < 16)
    {bytes value rest : List UInt8} (h : readBytes bytes = .ok (value, rest)) :
    (field tag value).length + rest.length ≤ 1 + bytes.length := by
  have htakes := readBytes_takes h
  rw [length_writeDelimited] at htakes
  rw [length_field_of_tag_lt htag]
  omega

/-- The threshold that is left of a number is no longer than the number. -/
theorem length_thresholdField_le (n : Nat) :
    (thresholdField (UInt32.ofNat n)).length ≤ 1 + (writeVarint n).length := by
  have hvalue : (UInt32.ofNat n).toNat ≤ n := by
    rw [UInt32.toNat_ofNat']
    exact Nat.mod_le n _
  rw [thresholdField]
  split
  case isTrue => exact Nat.zero_le _
  case isFalse =>
      rw [List.length_append, writeKey_of_lt (by decide), List.length_singleton]
      exact Nat.add_le_add_left (length_writeVarint_mono hvalue) 1

/-! ## What a field does -/

/-- What a field does to the message read so far, behind its key. -/
inductive KeyFieldRead (budget : Nat) (m : KeyMessage) (key : FieldKey) (tail : List UInt8) :
    KeyMessage → List UInt8 → Prop where
  | ed25519 {b rest} (htag : key.tag = 2) (h : readBytes tail = .ok (b, rest)) :
      KeyFieldRead budget m key tail (.ed25519 b) rest
  | secp256k1 {b rest} (htag : key.tag = 7) (h : readBytes tail = .ok (b, rest)) :
      KeyFieldRead budget m key tail (.secp256k1 b) rest
  | keyList {left ks rest} (htag : key.tag = 6) (hbudget : budget = left + 1)
      (h : readDelimited (mergeListField left) m.keysOf tail = .ok (ks, rest)) :
      KeyFieldRead budget m key tail (.keyList ks) rest
  | threshold {left t rest} (htag : key.tag = 5) (hbudget : budget = left + 1)
      (h : readDelimited (mergeThresholdField left) m.thresholdOf tail = .ok (t, rest)) :
      KeyFieldRead budget m key tail (.threshold t.1 t.2) rest
  | unknown {rest} (htag : key.tag ∉ [2, 5, 6, 7])
      (h : skipField budget key.form key.tag tail = .ok rest) :
      KeyFieldRead budget m key tail m rest

/-- What a field does to the keys of a list read so far. -/
inductive ListFieldRead (budget : Nat) (ks : List KeyMessage) (key : FieldKey)
    (tail : List UInt8) : List KeyMessage → List UInt8 → Prop where
  | child {left k rest} (htag : key.tag = 1) (hbudget : budget = left + 1)
      (h : readDelimited (mergeKeyField left) .empty tail = .ok (k, rest)) :
      ListFieldRead budget ks key tail (ks ++ [k]) rest
  | unknown {rest} (htag : key.tag ∉ [1])
      (h : skipField budget key.form key.tag tail = .ok rest) :
      ListFieldRead budget ks key tail ks rest

/-- What a field does to the number and the list of a threshold read so far. -/
inductive ThresholdFieldRead (budget : Nat) (t : UInt32 × Option (List KeyMessage))
    (key : FieldKey) (tail : List UInt8) :
    UInt32 × Option (List KeyMessage) → List UInt8 → Prop where
  | required {n rest} (htag : key.tag = 1) (h : readVarint tail = .ok (n, rest)) :
      ThresholdFieldRead budget t key tail (UInt32.ofNat n, t.2) rest
  | keys {left ks rest} (htag : key.tag = 2) (hbudget : budget = left + 1)
      (h : readDelimited (mergeListField left) (t.2.getD []) tail = .ok (ks, rest)) :
      ThresholdFieldRead budget t key tail (t.1, some ks) rest
  | unknown {rest} (htag : key.tag ∉ [1, 2])
      (h : skipField budget key.form key.tag tail = .ok rest) :
      ThresholdFieldRead budget t key tail t rest

theorem readBytes_of_readKeyBytes {form : WireForm} {tail b rest : List UInt8}
    (h : readKeyBytes form tail = .ok (b, rest)) : readBytes tail = .ok (b, rest) := by
  rw [readKeyBytes] at h
  split at h
  case h_1 => cases h
  case h_2 => exact h

/-- A message that is entered is read behind its length, with one less to spend. -/
theorem exists_of_entered {α β : Type} {form : WireForm} {budget : Nat}
    (read : Nat → WireResult α) {f : α × List UInt8 → β × List UInt8} {r : β × List UInt8}
    (h : (match expectForm .delimited form with
      | .error e => .error e
      | .ok () =>
        match budget with
        | 0 => refuse .recursionLimit
        | left + 1 => (read left).map f : WireResult β) = .ok r) :
    ∃ left a, budget = left + 1 ∧ read left = .ok a ∧ f a = r := by
  split at h
  case h_1 => cases h
  case h_2 =>
      cases budget with
      | zero => cases h
      | succ left =>
          obtain ⟨a, hread, hend⟩ := exists_of_map_ok h
          exact ⟨left, a, rfl, hread, hend⟩

section

variable {budget : Nat} {bytes rest : List UInt8}

theorem exists_keyFieldRead {m m' : KeyMessage}
    (h : mergeKeyField budget m bytes = .ok (m', rest)) :
    ∃ key tail, readKey bytes = .ok (key, tail) ∧ KeyFieldRead budget m key tail m' rest := by
  rw [mergeKeyField] at h
  split at h
  case h_1 => cases h
  case h_2 key tail hkey =>
      refine ⟨key, tail, hkey, ?_⟩
      split at h
      case h_1 htag =>
          obtain ⟨⟨b, left⟩, hread, hend⟩ := exists_of_map_ok (ok_of_inField h)
          cases hend
          exact .ed25519 htag (readBytes_of_readKeyBytes hread)
      case h_2 htag =>
          obtain ⟨⟨b, left⟩, hread, hend⟩ := exists_of_map_ok (ok_of_inField h)
          cases hend
          exact .secp256k1 htag (readBytes_of_readKeyBytes hread)
      case h_3 htag =>
          obtain ⟨left, ⟨ks, behind⟩, hbudget, hread, hend⟩ := exists_of_entered
            (fun left => readDelimited (mergeListField left) m.keysOf tail)
            (ok_of_inField h)
          cases hend
          exact .keyList htag hbudget hread
      case h_4 htag =>
          obtain ⟨left, ⟨t, behind⟩, hbudget, hread, hend⟩ := exists_of_entered
            (fun left => readDelimited (mergeThresholdField left) m.thresholdOf tail)
            (ok_of_inField h)
          cases hend
          exact .threshold htag hbudget hread
      case h_5 hed hsecp hlist hthreshold =>
          obtain ⟨left, hskip, hend⟩ := exists_of_map_ok h
          cases hend
          exact .unknown (by simpa using ⟨hed, hthreshold, hlist, hsecp⟩) hskip

theorem exists_listFieldRead {ks ks' : List KeyMessage}
    (h : mergeListField budget ks bytes = .ok (ks', rest)) :
    ∃ key tail, readKey bytes = .ok (key, tail) ∧
      ListFieldRead budget ks key tail ks' rest := by
  rw [mergeListField] at h
  split at h
  case h_1 => cases h
  case h_2 key tail hkey =>
      refine ⟨key, tail, hkey, ?_⟩
      split at h
      case h_1 htag =>
          obtain ⟨left, ⟨k, behind⟩, hbudget, hread, hend⟩ := exists_of_entered
            (fun left => readDelimited (mergeKeyField left) .empty tail)
            (ok_of_inField h)
          cases hend
          exact .child htag hbudget hread
      case h_2 hchild =>
          obtain ⟨left, hskip, hend⟩ := exists_of_map_ok h
          cases hend
          exact .unknown (by simpa using hchild) hskip

theorem exists_thresholdFieldRead {t t' : UInt32 × Option (List KeyMessage)}
    (h : mergeThresholdField budget t bytes = .ok (t', rest)) :
    ∃ key tail, readKey bytes = .ok (key, tail) ∧
      ThresholdFieldRead budget t key tail t' rest := by
  rw [mergeThresholdField] at h
  split at h
  case h_1 => cases h
  case h_2 key tail hkey =>
      refine ⟨key, tail, hkey, ?_⟩
      split at h
      case h_1 htag =>
          have h := ok_of_inField h
          split at h
          case h_1 => cases h
          case h_2 =>
              obtain ⟨⟨n, behind⟩, hread, hend⟩ := exists_of_map_ok h
              cases hend
              exact .required htag hread
      case h_2 htag =>
          obtain ⟨left, ⟨ks, behind⟩, hbudget, hread, hend⟩ := exists_of_entered
            (fun left => readDelimited (mergeListField left) (t.2.getD []) tail)
            (ok_of_inField h)
          cases hend
          exact .keys htag hbudget hread
      case h_3 hrequired hkeys =>
          obtain ⟨left, hskip, hend⟩ := exists_of_map_ok h
          cases hend
          exact .unknown (by simpa using ⟨hrequired, hkeys⟩) hskip

end

/-! ## Frugal steps -/

abbrev FrugalKey (budget : Nat) : Prop :=
  Frugal nest KeyMessage.bytes budget (mergeKeyField budget)

abbrev FrugalList (budget : Nat) : Prop :=
  Frugal nestList listBytes budget (mergeListField budget)

abbrev FrugalThreshold (budget : Nat) : Prop :=
  Frugal nestThreshold thresholdBytes budget (mergeThresholdField budget)

section

variable {budget : Nat}

theorem frugal_mergeKeyField (hlist : ∀ left, budget = left + 1 → FrugalList left)
    (hthreshold : ∀ left, budget = left + 1 → FrugalThreshold left) : FrugalKey budget := by
  constructor
  intro m m' bytes rest hm h
  obtain ⟨key, tail, hkey, hread⟩ := exists_keyFieldRead h
  have hpos := readKey_takes hkey
  cases hread with
  | ed25519 _ hbytes =>
      have hsize := length_field_of_readBytes 2 (by decide) hbytes
      refine ⟨Nat.zero_le _, ?_⟩
      rw [KeyMessage.bytes]
      omega
  | secp256k1 _ hbytes =>
      have hsize := length_field_of_readBytes 7 (by decide) hbytes
      refine ⟨Nat.zero_le _, ?_⟩
      rw [KeyMessage.bytes]
      omega
  | @keyList left ks _ _ hbudget hbytes =>
      have hheld : nestList m.keysOf ≤ left := by
        rcases keysOf_cases m with ⟨hnone, -⟩ | ⟨hsome, -⟩ <;> omega
      obtain ⟨hnest, n, -, hgrow, htakes⟩ := (hlist left hbudget).readDelimited hheld hbytes
      have hsize := length_field_merge (by decide)
        ((keysOf_cases m).imp And.right And.right) hgrow
      refine ⟨by rw [nest]; omega, ?_⟩
      rw [KeyMessage.bytes]
      omega
  | @threshold left t _ _ hbudget hbytes =>
      have hheld : nestThreshold m.thresholdOf ≤ left := by
        rcases thresholdOf_cases m with ⟨hnone, -⟩ | ⟨hsome, -⟩ <;> omega
      obtain ⟨hnest, n, -, hgrow, htakes⟩ :=
        (hthreshold left hbudget).readDelimited hheld hbytes
      have hsize := length_field_merge (by decide)
        ((thresholdOf_cases m).imp And.right And.right) hgrow
      refine ⟨by rw [nest_threshold]; omega, ?_⟩
      rw [bytes_threshold]
      omega
  | unknown _ hskip =>
      have htakes := skipField_takes budget hskip
      exact ⟨hm, by omega⟩

theorem frugal_mergeListField (hkey : ∀ left, budget = left + 1 → FrugalKey left) :
    FrugalList budget := by
  constructor
  intro ks ks' bytes rest hks h
  obtain ⟨key, tail, hread, hfield⟩ := exists_listFieldRead h
  have hpos := readKey_takes hread
  cases hfield with
  | @child left k _ _ hbudget hbytes =>
      obtain ⟨hnest, n, -, hgrow, htakes⟩ :=
        (hkey left hbudget).readDelimited (a := .empty) (Nat.zero_le _) hbytes
      have hsize : (field 1 k.bytes).length ≤ ([] : List UInt8).length + _ :=
        length_field_merge (by decide) (Or.inl rfl) hgrow
      refine ⟨by rw [nestList_concat]; omega, ?_⟩
      rw [List.length_nil] at hsize
      rw [length_listBytes_concat]
      omega
  | unknown _ hskip =>
      have htakes := skipField_takes budget hskip
      exact ⟨hks, by omega⟩

theorem frugal_mergeThresholdField (hlist : ∀ left, budget = left + 1 → FrugalList left) :
    FrugalThreshold budget := by
  constructor
  intro t t' bytes rest ht h
  obtain ⟨key, tail, hread, hfield⟩ := exists_thresholdFieldRead h
  have hpos := readKey_takes hread
  cases hfield with
  | @required number _ _ hnumber =>
      have htakes := readVarint_takes hnumber
      have hsize := length_thresholdField_le number
      refine ⟨ht, ?_⟩
      simp only [thresholdBytes, List.length_append]
      omega
  | @keys left js _ _ hbudget hbytes =>
      have hheld : nestList (t.2.getD []) ≤ left := by
        rcases keysGetD_cases t with ⟨hnone, -⟩ | ⟨hsome, -⟩ <;> omega
      obtain ⟨hnest, number, -, hgrow, htakes⟩ := (hlist left hbudget).readDelimited hheld hbytes
      have hsize := length_field_merge (by decide)
        ((keysGetD_cases t).imp And.right And.right) hgrow
      constructor
      · show 1 + nestList js ≤ budget
        omega
      · show (thresholdField t.1 ++ field 2 (listBytes js)).length + rest.length
          ≤ (thresholdField t.1 ++ keysField t.2).length + bytes.length
        rw [List.length_append, List.length_append]
        omega
  | unknown _ hskip =>
      have htakes := skipField_takes budget hskip
      exact ⟨ht, by omega⟩

end

theorem frugal_merge (budget : Nat) :
    FrugalKey budget ∧ FrugalList budget ∧ FrugalThreshold budget := by
  induction budget with
  | zero =>
      have hnone : ∀ {p : Nat → Prop}, ∀ left, 0 = left + 1 → p left := by
        intro p left h
        cases h
      exact ⟨frugal_mergeKeyField hnone hnone, frugal_mergeListField hnone,
        frugal_mergeThresholdField hnone⟩
  | succ budget ih =>
      obtain ⟨hkey, hlist, hthreshold⟩ := ih
      have hless : ∀ {p : Nat → Prop}, p budget → ∀ left, budget + 1 = left + 1 → p left := by
        intro p hp left h
        cases h
        exact hp
      exact ⟨frugal_mergeKeyField (hless hlist) (hless hthreshold),
        frugal_mergeListField (hless hkey), frugal_mergeThresholdField (hless hlist)⟩

/-! ## Whole messages -/

theorem ofBytes_of_read {bytes : List UInt8} {m : KeyMessage} (h : read bytes = .ok m) :
    ofBytes bytes = .ok m := by
  rw [read] at h
  split at h
  case h_1 => cases h
  case h_2 hread =>
      cases h
      exact hread

/-- What is read of any bytes nests as deep as a message may, and its canonical bytes are no
more than those it was read from. -/
theorem bounds_of_ofBytes {bytes : List UInt8} {m : KeyMessage} (h : ofBytes bytes = .ok m) :
    m.nest ≤ nestingBudget ∧ m.bytes.length ≤ bytes.length := by
  obtain ⟨⟨m', rest⟩, hmerge, hend⟩ := exists_of_map_ok h
  cases hend
  obtain ⟨hnest, hsize⟩ :=
    (frugal_merge nestingBudget).1.mergeFields (a := .empty) (Nat.zero_le _) hmerge
  rw [KeyMessage.bytes, List.length_nil, Nat.zero_add] at hsize
  exact ⟨hnest, Nat.le_of_add_right_le hsize⟩

end Concord.KeyMessage
