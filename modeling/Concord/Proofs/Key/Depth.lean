import Concord.Proofs.Key.Bounds

/-!
# How deep messages nest

A message is read back from its canonical bytes exactly when it nests no deeper than the
budget, and is refused for its depth otherwise; and what is read of any bytes at all is
within the budget, so that it can be read again (`container_round_trip`).

`Breaks step reason a bytes` is the counterpart of `Merges`: a step takes a value along some
of the fields that the bytes are made of and fails at the next one, whatever comes behind.
A message that nests too deep breaks at the first of its children that does
(`breaks_listBytes`).
-/

namespace Concord.Key

/-! ## Steps that fail -/

section

variable {α : Type} {step : α → List UInt8 → WireResult α} {reason : WireReason} {a b : α}
  {bytes : List UInt8}

/-- A step fails at a field for a reason, whatever comes behind it. -/
def Fails (step : α → List UInt8 → WireResult α) (reason : WireReason) (a : α)
    (field : List UInt8) : Prop :=
  ∀ rest, ∃ path, step a (field ++ rest) = .error ⟨path, reason⟩

/-- A step fails for a reason at one of the fields that some bytes are made of. -/
inductive Breaks (step : α → List UInt8 → WireResult α) (reason : WireReason) :
    α → List UInt8 → Prop where
  | here {a field bytes} (hpos : 0 < field.length) (hfail : Fails step reason a field) :
      Breaks step reason a (field ++ bytes)
  | later {a b field bytes} (hpos : 0 < field.length) (htake : Takes step a field b)
      (hrest : Breaks step reason b bytes) : Breaks step reason a (field ++ bytes)

theorem Fails.breaks (h : Fails step reason a bytes) (hpos : 0 < bytes.length) :
    Breaks step reason a bytes := by
  have hhere : Breaks step reason a (bytes ++ []) := .here hpos h
  rwa [List.append_nil] at hhere

theorem Merges.breaks {more : List UInt8} (h : Merges step a bytes b)
    (hmore : Breaks step reason b more) : Breaks step reason a (bytes ++ more) := by
  induction h with
  | nil => exact hmore
  | cons hpos htake _ ih =>
      rw [List.append_assoc]
      exact .later hpos htake (ih hmore)

/-- Fields that break end the merging of fields. -/
theorem mergeFields_of_breaks (h : Breaks step reason a bytes) (rest : List UInt8) :
    ∀ {fuel : Nat}, bytes.length ≤ fuel →
      ∃ path, mergeFields step rest.length fuel a (bytes ++ rest) = .error ⟨path, reason⟩ := by
  induction h with
  | @here a field bytes hpos hfail =>
      intro fuel hfuel
      rw [List.length_append] at hfuel
      cases fuel with
      | zero => omega
      | succ fuel =>
          have hmore : ¬ (field ++ (bytes ++ rest)).length ≤ rest.length := by
            rw [List.length_append, List.length_append]
            omega
          obtain ⟨path, hstep⟩ := hfail (bytes ++ rest)
          refine ⟨path, ?_⟩
          rw [List.append_assoc, mergeFields, if_neg hmore, hstep]
  | @later a b field bytes hpos htake _ ih =>
      intro fuel hfuel
      rw [List.length_append] at hfuel
      cases fuel with
      | zero => omega
      | succ fuel =>
          have hmore : ¬ (field ++ (bytes ++ rest)).length ≤ rest.length := by
            rw [List.length_append, List.length_append]
            omega
          rw [List.append_assoc, mergeFields, if_neg hmore, htake]
          exact ih (by omega)

theorem readDelimited_of_breaks (h : Breaks step reason a bytes)
    (hlength : bytes.length < UInt64.size) (rest : List UInt8) :
    ∃ path, readDelimited step a (writeDelimited bytes ++ rest) = .error ⟨path, reason⟩ := by
  have hsum : (bytes ++ rest).length = bytes.length + rest.length := List.length_append
  have hlimit : (bytes ++ rest).length - bytes.length = rest.length := by omega
  have hunder : ¬ (bytes ++ rest).length < bytes.length := by omega
  have hbreak : ∃ path, mergeFields step rest.length (bytes ++ rest).length a (bytes ++ rest)
      = .error ⟨path, reason⟩ := mergeFields_of_breaks h rest (by omega)
  obtain ⟨path, hmerge⟩ := hbreak
  refine ⟨path, ?_⟩
  rw [readDelimited, writeDelimited, List.append_assoc, readVarint_writeVarint hlength]
  simp only [hunder, if_false, hlimit, hmerge]

end

end Concord.Key

namespace Concord.KeyMessage

open Key

/-! ## Fields that cannot be entered -/

/-- A message cannot be entered if nothing is left to spend, or if it breaks with one
less. -/
theorem error_of_entered {α β : Type} {field : String} {budget : Nat}
    (step : Nat → α → List UInt8 → WireResult α) {a : α}
    {f : α × List UInt8 → β × List UInt8} {bytes : List UInt8}
    (h : ∀ left, budget = left + 1 → Breaks (step left) .recursionLimit a bytes)
    (hlength : bytes.length < UInt64.size) (rest : List UInt8) :
    ∃ path, (inField field (match expectForm .delimited .delimited with
      | .error e => .error e
      | .ok () =>
        match budget with
        | 0 => refuse .recursionLimit
        | left + 1 => (readDelimited (step left) a (writeDelimited bytes ++ rest)).map f) :
        WireResult β) = .error ⟨path, .recursionLimit⟩ := by
  cases budget with
  | zero => exact ⟨[field], rfl⟩
  | succ left =>
      obtain ⟨path, hread⟩ := readDelimited_of_breaks (h left rfl) hlength rest
      refine ⟨path ++ [field], ?_⟩
      simp only [expectForm, if_true, hread, Except.map, inField]

section

variable {budget : Nat} {bytes : List UInt8}

theorem fails_keyList {m : KeyMessage}
    (h : ∀ left, budget = left + 1 →
      Breaks (mergeListField left) .recursionLimit m.keysOf bytes)
    (hlength : bytes.length < UInt64.size) :
    Fails (mergeKeyField budget) .recursionLimit m (field 6 bytes) := by
  intro rest
  rw [mergeKeyField, readKey_field (by decide) (by decide)]
  exact error_of_entered mergeListField h hlength rest

theorem fails_threshold {m : KeyMessage}
    (h : ∀ left, budget = left + 1 →
      Breaks (mergeThresholdField left) .recursionLimit m.thresholdOf bytes)
    (hlength : bytes.length < UInt64.size) :
    Fails (mergeKeyField budget) .recursionLimit m (field 5 bytes) := by
  intro rest
  rw [mergeKeyField, readKey_field (by decide) (by decide)]
  exact error_of_entered mergeThresholdField h hlength rest

theorem fails_child {ks : List KeyMessage}
    (h : ∀ left, budget = left + 1 → Breaks (mergeKeyField left) .recursionLimit .empty bytes)
    (hlength : bytes.length < UInt64.size) :
    Fails (mergeListField budget) .recursionLimit ks (field 1 bytes) := by
  intro rest
  rw [mergeListField, readKey_field (by decide) (by decide)]
  exact error_of_entered mergeKeyField h hlength rest

theorem fails_thresholdKeys {t : UInt32 × Option (List KeyMessage)}
    (h : ∀ left, budget = left + 1 →
      Breaks (mergeListField left) .recursionLimit (t.2.getD []) bytes)
    (hlength : bytes.length < UInt64.size) :
    Fails (mergeThresholdField budget) .recursionLimit t (field 2 bytes) := by
  intro rest
  rw [mergeThresholdField, readKey_field (by decide) (by decide)]
  exact error_of_entered mergeListField h hlength rest

end

/-! ## Messages that nest too deep -/

/-- A message that breaks under every budget that does not cover its nesting. -/
def BreaksBelow (m : KeyMessage) : Prop :=
  ∀ budget, budget < m.nest → m.bytes.length < UInt64.size →
    Breaks (mergeKeyField budget) .recursionLimit .empty m.bytes

/-- A list breaks at the first child that nests too deep; those in front of it are read. -/
theorem breaks_listBytes {ks : List KeyMessage} (h : ∀ k ∈ ks, BreaksBelow k) :
    ∀ {budget : Nat} (done : List KeyMessage), budget < nestList ks →
      (listBytes ks).length < UInt64.size →
      Breaks (mergeListField budget) .recursionLimit done (listBytes ks) := by
  induction ks with
  | nil =>
      intro budget done hnest _
      exact absurd hnest (Nat.not_lt_zero _)
  | cons k ks ih =>
      intro budget done hnest hlength
      rw [nestList] at hnest
      rw [listBytes, List.length_append] at hlength
      have hfield := length_lt_field 1 k.bytes
      rw [listBytes]
      by_cases hfits : 1 + k.nest ≤ budget
      · cases budget with
        | zero => omega
        | succ budget =>
            have hchild : Merges (mergeKeyField budget) .empty k.bytes k :=
              merges_bytes k budget (by omega) (by omega)
            exact .later (length_field_pos _ _) (takes_child hchild (by omega))
              (ih (fun c hc => h c (List.mem_cons_of_mem k hc)) (done ++ [k]) (by omega)
                (by omega))
      · refine .here (length_field_pos _ _) (fails_child ?_ (by omega))
        intro left hbudget
        exact h k List.mem_cons_self left (by omega) (by omega)

theorem breaksBelow_keyList {ks : List KeyMessage} (h : ∀ k ∈ ks, BreaksBelow k) :
    BreaksBelow (.keyList ks) := by
  intro budget hnest hlength
  rw [nest] at hnest
  rw [bytes] at hlength ⊢
  have hfield := length_lt_field 6 (listBytes ks)
  refine Fails.breaks (fails_keyList ?_ (by omega)) (length_field_pos _ _)
  intro left hbudget
  exact breaks_listBytes h _ (by omega) (by omega)

theorem breaksBelow_bare (n : UInt32) : BreaksBelow (.threshold n none) := by
  intro budget hnest hlength
  rw [nest] at hnest
  rw [bytes] at hlength ⊢
  have hfield := length_lt_field 5 (thresholdField n)
  refine Fails.breaks (fails_threshold ?_ (by omega)) (length_field_pos _ _)
  intro left hbudget
  omega

theorem breaksBelow_threshold {ks : List KeyMessage} (n : UInt32)
    (h : ∀ k ∈ ks, BreaksBelow k) : BreaksBelow (.threshold n (some ks)) := by
  intro budget hnest hlength
  rw [nest] at hnest
  rw [bytes] at hlength ⊢
  have hfield := length_lt_field 5 (thresholdField n ++ field 2 (listBytes ks))
  have hlist := length_lt_field 2 (listBytes ks)
  have hcontent : (thresholdField n ++ field 2 (listBytes ks)).length < UInt64.size := by
    omega
  rw [List.length_append] at hfield
  refine Fails.breaks (fails_threshold ?_ hcontent) (length_field_pos _ _)
  intro left hbudget
  -- The number is read, and the list behind it is what breaks.
  refine (merges_thresholdField n none).breaks (Fails.breaks ?_ (length_field_pos _ _))
  refine fails_thresholdKeys ?_ (by omega)
  intro left' hbudget'
  exact breaks_listBytes h _ (by omega) (by omega)

/-- Every message breaks along its bytes under a budget that does not cover it. -/
theorem breaks_bytes : ∀ m, BreaksBelow m :=
  Hereditary.all {
    empty := by
      intro budget hnest _
      exact absurd hnest (Nat.not_lt_zero _)
    ed25519 := by
      intro b budget hnest _
      exact absurd hnest (Nat.not_lt_zero _)
    secp256k1 := by
      intro b budget hnest _
      exact absurd hnest (Nat.not_lt_zero _)
    keyList := fun _ h => breaksBelow_keyList h
    bare := breaksBelow_bare
    threshold := fun n _ h => breaksBelow_threshold n h }

/-! ## The limit -/

section

variable {m : KeyMessage}

theorem read_bytes (hnest : m.nest ≤ nestingBudget) (hlength : m.bytes.length < UInt64.size) :
    read m.bytes = .ok m := by
  rw [read, ofBytes_bytes hnest hlength]

theorem read_bytes_of_deep (hnest : nestingBudget < m.nest)
    (hlength : m.bytes.length < UInt64.size) :
    ∃ path, read m.bytes = .error (.invalidMessage ⟨path, .recursionLimit⟩) := by
  obtain ⟨path, hmerge⟩ := mergeFields_of_breaks (breaks_bytes m nestingBudget hnest hlength)
    [] (Nat.le_refl _)
  rw [List.append_nil, List.length_nil] at hmerge
  refine ⟨path, ?_⟩
  rw [read, ofBytes, hmerge]
  rfl

end

/-- A message is read back from its canonical bytes if it nests at most a hundred messages
deep, and is refused for its depth otherwise.  What is read of any bytes at all is not
deeper and has no more canonical bytes, and so it is read back from these.

The bounds on lengths say no more than that the bytes can be held in memory. -/
theorem container_round_trip :
    (∀ m : KeyMessage, m.bytes.length < UInt64.size →
      (m.nest ≤ 100 → read m.bytes = .ok m) ∧
      (100 < m.nest →
        ∃ path, read m.bytes = .error (.invalidMessage ⟨path, .recursionLimit⟩))) ∧
    ∀ (bytes : List UInt8) (m : KeyMessage), read bytes = .ok m →
      m.nest ≤ 100 ∧ m.bytes.length ≤ bytes.length ∧
        (bytes.length < UInt64.size → read m.bytes = .ok m) := by
  constructor
  · intro m hlength
    exact ⟨fun hnest => read_bytes hnest hlength, fun hnest => read_bytes_of_deep hnest hlength⟩
  · intro bytes m h
    obtain ⟨hnest, hsize⟩ := bounds_of_ofBytes (ofBytes_of_read h)
    exact ⟨hnest, hsize, fun hlength => read_bytes hnest (Nat.lt_of_le_of_lt hsize hlength)⟩

/-- A threshold of zero over no key and a bare threshold is read back; a list around fifty
lists is too deep; and a list in two pieces, with a length of two digits and an unknown
field between them, is read back when it is in one. -/
theorem container_round_trip_of_pieces :
    read (threshold 0 (some [.empty, .threshold 300 none])).bytes
        = .ok (.threshold 0 (some [.empty, .threshold 300 none])) ∧
      (∃ path, read (Nat.repeat (fun m => keyList [m]) 50 (.keyList [])).bytes
        = .error (.invalidMessage ⟨path, .recursionLimit⟩)) ∧
      read [0x32, 0x82, 0x00, 0x0a, 0x00, 0x08, 0x01, 0x32, 0x02, 0x0a, 0x00]
        = .ok (.keyList [.empty, .empty]) ∧
      read (keyList [.empty, .empty]).bytes = .ok (.keyList [.empty, .empty]) := by
  have hpieces : read [0x32, 0x82, 0x00, 0x0a, 0x00, 0x08, 0x01, 0x32, 0x02, 0x0a, 0x00]
      = .ok (.keyList [.empty, .empty]) := by
    rfl
  exact ⟨(container_round_trip.1 _ (by decide +kernel)).1 (by decide +kernel),
    (container_round_trip.1 (Nat.repeat (fun m => keyList [m]) 50 (.keyList []))
      (by decide +kernel)).2 (by decide +kernel), hpieces,
    (container_round_trip.2 _ _ hpieces).2.2 (by decide +kernel)⟩

end Concord.KeyMessage
