import Concord.Json.Shape
import Mathlib.Data.List.Nodup

/-!
# Reading records that were written as objects

An object that is built of members without a repeated name has those members and no others
(`Members.get?_ofList`, `Members.mem_ofList`).  A field of a record is *held* by such members
when it is there and is read, or is absent and may be (`RecordField.Holds`).  If all fields are
held then no member is in the way, and the record is built of what the fields are read as
(`readRecord_object`).  What stands in the place of a field is read by it alone, in an object and
in a list (`RecordField.get_of_value?`).

Putting one member into an object leaves the other members alone (`Members.without_insert`) and
keeps them in order (`Members.Ordered.insert`).
-/

namespace Concord.Json

/-! ## Members -/

namespace Members

theorem mem_insert {members : Members} {name : String} {value : Json} {p : String × Json}
    (h : p ∈ insert members name value) : p = (name, value) ∨ p ∈ members := by
  induction members with
  | nil => exact .inl (List.mem_singleton.1 h)
  | cons m rest ih =>
      obtain ⟨k, v⟩ := m
      rw [insert] at h
      split at h
      case isTrue =>
          rcases List.mem_cons.1 h with hp | hp
          · exact .inl hp
          · exact .inr (List.mem_cons_of_mem _ hp)
      case isFalse =>
          split at h
          case isTrue => exact List.mem_cons.1 h
          case isFalse =>
              rcases List.mem_cons.1 h with hp | hp
              · exact .inr (hp ▸ List.mem_cons_self)
              · exact (ih hp).imp_right (List.mem_cons_of_mem _)

theorem mem_ofList {pairs : Members} {p : String × Json} (h : p ∈ ofList pairs) : p ∈ pairs := by
  have hfold : ∀ (pairs acc : Members), p ∈ pairs.foldl (fun ms q => insert ms q.1 q.2) acc →
      p ∈ acc ∨ p ∈ pairs := by
    intro pairs
    induction pairs with
    | nil => exact fun acc h => .inl h
    | cons q pairs ih =>
        intro acc h
        rcases ih _ h with hacc | hpairs
        · rcases mem_insert hacc with rfl | hacc
          · exact .inr List.mem_cons_self
          · exact .inl hacc
        · exact .inr (List.mem_cons_of_mem q hpairs)
  exact (hfold pairs [] h).resolve_left List.not_mem_nil

theorem get?_eq_none {pairs : Members} {name : String} (h : name ∉ pairs.map Prod.fst) :
    pairs.get? name = none := by
  induction pairs with
  | nil => rfl
  | cons p pairs ih =>
      rw [List.map_cons, List.mem_cons, not_or] at h
      rw [get?_cons, if_neg (Ne.symm h.1), ih h.2]

theorem get?_of_mem {pairs : Members} (hnodup : (pairs.map Prod.fst).Nodup) {name : String}
    {value : Json} (h : (name, value) ∈ pairs) : pairs.get? name = some value := by
  induction pairs with
  | nil => exact absurd h List.not_mem_nil
  | cons p pairs ih =>
      rw [List.map_cons, List.nodup_cons] at hnodup
      rcases List.mem_cons.1 h with rfl | h
      · rw [get?_cons, if_pos rfl]
      · have hne : p.1 ≠ name := by
          rintro rfl
          exact hnodup.1 (List.mem_map.2 ⟨_, h, rfl⟩)
        rw [get?_cons, if_neg hne, ih hnodup.2 h]

/-- Members without a repeated name are found in the object that is built of them. -/
theorem get?_ofList {pairs : Members} (hnodup : (pairs.map Prod.fst).Nodup) (name : String) :
    (ofList pairs).get? name = pairs.get? name := by
  have hfold : ∀ (pairs acc : Members), (pairs.map Prod.fst).Nodup →
      get? (pairs.foldl (fun ms q => insert ms q.1 q.2) acc) name
        = (pairs.get? name).or (acc.get? name) := by
    intro pairs
    induction pairs with
    | nil => exact fun acc _ => rfl
    | cons q pairs ih =>
        intro acc hnodup
        rw [List.map_cons, List.nodup_cons] at hnodup
        rw [List.foldl_cons, ih _ hnodup.2, get?_cons]
        by_cases hq : q.1 = name
        · subst hq
          rw [get?_eq_none hnodup.1, get?_insert_self, if_pos rfl]
          rfl
        · rw [get?_insert_of_ne (Ne.symm hq), if_neg hq]
  rw [ofList, hfold pairs [] hnodup]
  exact Option.or_none

theorem mem_of_get? {ms : Members} {name : String} {value : Json}
    (h : ms.get? name = some value) : (name, value) ∈ ms := by
  induction ms with
  | nil => cases h
  | cons m ms ih =>
      obtain ⟨k, v⟩ := m
      rw [get?_cons] at h
      split at h
      case isTrue hk =>
          cases h
          exact hk ▸ List.mem_cons_self
      case isFalse => exact List.mem_cons_of_mem _ (ih h)

theorem mem_ofList_of_mem {pairs : Members} (hnodup : (pairs.map Prod.fst).Nodup)
    {p : String × Json} (h : p ∈ pairs) : p ∈ ofList pairs :=
  mem_of_get? ((get?_ofList hnodup p.1).trans (get?_of_mem hnodup h))

theorem get?_append (ms more : Members) (name : String) :
    get? (ms ++ more) name = (ms.get? name).or (more.get? name) := by
  induction ms with
  | nil => rfl
  | cons m ms ih =>
      rw [List.cons_append, get?_cons, get?_cons, ih]
      split <;> rfl

theorem get?_optionalMember (name other : String) (o : Option Json) :
    get? (optionalMember name o) other = if name = other then o else none := by
  cases o with
  | none => rw [optionalMember, get?_nil, ite_self]
  | some v => rfl

/-- The members are in the order of their names, none of which is there twice. -/
def Ordered (ms : Members) : Prop := ms.Pairwise fun m n => m.1 < n.1

/-- The members under other names. -/
def without (name : String) (ms : Members) : Members := ms.filter fun m => m.1 ≠ name

theorem without_insert (ms : Members) (name : String) (value : Json) :
    without name (insert ms name value) = without name ms := by
  rw [without, without]
  induction ms with
  | nil => simp [insert]
  | cons m rest ih =>
      obtain ⟨k, v⟩ := m
      rw [insert]
      split
      case isTrue hk => simp [hk]
      case isFalse hk =>
          split
          case isTrue => simp
          case isFalse => rw [List.filter_cons, List.filter_cons, ih]

theorem Ordered.insert {ms : Members} (h : Ordered ms) (name : String) (value : Json) :
    Ordered (insert ms name value) := by
  induction ms with
  | nil => exact List.pairwise_singleton _ _
  | cons m rest ih =>
      obtain ⟨k, v⟩ := m
      obtain ⟨hfirst, hrest⟩ := List.pairwise_cons.1 h
      rw [Members.insert]
      split
      case isTrue hk =>
          subst hk
          exact List.pairwise_cons.2 ⟨hfirst, hrest⟩
      case isFalse hk =>
          split
          case isTrue hlt =>
              refine List.pairwise_cons.2 ⟨fun m hm => ?_, h⟩
              rcases List.mem_cons.1 hm with rfl | hm
              · exact hlt
              · exact String.lt_trans hlt (hfirst m hm)
          case isFalse hlt =>
              have hafter : k < name := Std.lt_of_le_of_ne (String.not_lt.1 hlt) hk
              refine List.pairwise_cons.2 ⟨fun m hm => ?_, ih hrest⟩
              rcases mem_insert hm with rfl | hm
              · exact hafter
              · exact hfirst m hm

end Members

/-! ## Values that may be null -/

/-- A value that may be absent, in the way in which it is read: `null` counts as absent. -/
def nullAsAbsent : Option Json → Option Json
  | some .null => none
  | v => v

theorem readOption_readAny (v : Json) : readOption readAny v = .ok (nullAsAbsent (some v)) := by
  cases v <;> rfl

theorem readOption_of_ne_null {α : Type} (read : Shape α) {v : Json} (h : v ≠ .null) :
    readOption read v = (read v).map some := by
  cases v with
  | null => exact absurd rfl h
  | bool b => rfl
  | int n => rfl
  | float x => rfl
  | str s => rfl
  | arr xs => rfl
  | obj ms => rfl

theorem readOption_ofText? (s : Option String) : readOption readString (.ofText? s) = .ok s := by
  cases s <;> rfl

section

variable {α : Type} {read : Shape α} {write : α → Json}

theorem readOption_of_read {v : Json} {a : α} (hne : v ≠ .null) (h : read v = .ok a) :
    readOption read v = .ok (some a) := by
  rw [readOption_of_ne_null read hne, h, Except.map]

theorem readOption_ofOption (hne : ∀ a, write a ≠ .null) (h : ∀ a, read (write a) = .ok a)
    (o : Option α) : readOption read (.ofOption (o.map write)) = .ok o := by
  cases o with
  | none => rfl
  | some a => exact readOption_of_read (hne a) (h a)

/-- A list is read as it was written if its elements are. -/
theorem readList_map (h : ∀ a, read (write a) = .ok a) (as : List α) :
    readList read (.arr (as.map write)) = .ok as := by
  rw [readList]
  induction as with
  | nil => rfl
  | cons a as ih =>
      rw [List.map_cons, readEach, h a, ih]
      rfl

end

/-! ## Whole numbers -/

theorem readInt64_int64 (n : Int64) : readInt64 (.int64 n) = .ok n := by
  have hlow := n.le_toInt
  have hhigh := n.toInt_lt
  have hrange : -Int.ofNat (Text.maxSigned64 + 1) ≤ n.toInt ∧
      n.toInt ≤ Int.ofNat Text.maxSigned64 := by
    constructor
    · exact hlow
    · exact Int.lt_add_one_iff.1 hhigh
  rw [readInt64, int64, readIntIn, if_pos hrange]
  show Except.ok (Int64.ofInt n.toInt) = _
  rw [Int64.ofInt_toInt]

theorem readNat64_nat64 (n : UInt64) : readNat64 (.nat64 n) = .ok n := by
  have hrange : 0 ≤ Int.ofNat n.toNat ∧ Int.ofNat n.toNat ≤ Int.ofNat Text.maxUnsigned64 :=
    ⟨Int.natCast_nonneg _, Int.ofNat_le.2 (Nat.lt_succ_iff.1 n.toNat_lt)⟩
  rw [readNat64, nat64, readIntIn, if_pos hrange]
  show Except.ok (UInt64.ofNat n.toNat) = _
  rw [UInt64.ofNat_toNat]

/-! ## Records -/

section

variable {α : Type} {pairs : Members} {f : RecordField α} {a : α}

/-- Members hold a field of a record: what is under its name is read, or nothing is there and
the field may be absent. -/
inductive RecordField.Holds (f : RecordField α) (pairs : Members) (a : α) : Prop where
  | present {v : Json} (hget : pairs.get? f.name = some v) (hread : f.read v = .ok a)
  | absent (hget : pairs.get? f.name = none) (habsence : f.absence = .allowed a)

/-- A field that is written when there is something to write, and read as what was written
reads back. -/
theorem RecordField.Holds.optional {β γ : Type} {f : RecordField (Option β)} {o : Option γ}
    {write : γ → Json} {back : γ → β} (habsence : f.absence = .allowed none)
    (hget : pairs.get? f.name = o.map write)
    (hread : ∀ c, f.read (write c) = .ok (some (back c))) : f.Holds pairs (o.map back) := by
  cases o with
  | none => exact .absent hget habsence
  | some c => exact .present hget (hread c)

theorem RecordField.Holds.optional_self {β : Type} {f : RecordField (Option β)} {o : Option β}
    {write : β → Json} (habsence : f.absence = .allowed none)
    (hget : pairs.get? f.name = o.map write) (hread : ∀ b, f.read (write b) = .ok (some b)) :
    f.Holds pairs o := by
  have h : f.Holds pairs (o.map id) := .optional habsence hget hread
  rwa [Option.map_id] at h

/-- A field for any value, of which `null` counts as absent. -/
theorem RecordField.Holds.nullable {f : RecordField (Option Json)} {o : Option Json}
    (hread : f.read = readOption readAny) (habsence : f.absence = .allowed none)
    (hget : pairs.get? f.name = o) : f.Holds pairs (nullAsAbsent o) := by
  cases o with
  | none => exact .absent hget habsence
  | some v => exact .present hget (hread ▸ readOption_readAny v)

theorem RecordField.Holds.get (h : f.Holds pairs a) (hnodup : (pairs.map Prod.fst).Nodup)
    (record : String) (size place : Nat) :
    f.get record size place (.members (Members.ofList pairs)) = .ok a := by
  rw [RecordField.get, Members.get?_ofList hnodup]
  cases h with
  | present hget hread =>
      rw [hget]
      exact hread
  | absent hget habsence => rw [hget, habsence]

/-- What is there under the name of a check passes it. -/
def FieldCheck.Passes (c : FieldCheck) (pairs : Members) : Prop :=
  ∀ v, pairs.get? c.name = some v → c.check v = .ok ()

theorem RecordField.Holds.passes (h : f.Holds pairs a) : f.toCheck.Passes pairs := by
  intro v hv
  cases h with
  | present hget hread =>
      obtain rfl := Option.some.inj (hget.symm.trans hv)
      show (f.read _).map _ = _
      rw [hread]
      rfl
  | absent hget => cases hget.symm.trans hv

/-- Members that fit the fields they name are visited to the end. -/
theorem visitMembers_eq_ok_of_forall {checks : List FieldCheck} {ms : Members}
    (h : ∀ k v, (k, v) ∈ ms → ∀ c, checks.find? (fun c => c.name = k) = some c →
      c.check v = .ok ()) : visitMembers checks ms = .ok () := by
  induction ms with
  | nil => rfl
  | cons m ms ih =>
      obtain ⟨k, v⟩ := m
      have hrest : visitMembers checks ms = .ok () :=
        ih fun l w hmem => h l w (List.mem_cons_of_mem _ hmem)
      rw [visitMembers]
      cases hfind : checks.find? (fun c => c.name = k) with
      | none => exact hrest
      | some c =>
          dsimp only
          rw [h k v List.mem_cons_self c hfind]
          exact hrest

theorem visitMembers_ofList {checks : List FieldCheck} (hnodup : (pairs.map Prod.fst).Nodup)
    (hchecks : checks.Forall (·.Passes pairs)) :
    visitMembers checks (Members.ofList pairs) = .ok () := by
  refine visitMembers_eq_ok_of_forall fun k v hmem c hfind => ?_
  obtain rfl : c.name = k := by simpa using List.find?_some hfind
  exact List.forall_iff_forall_mem.1 hchecks c (List.mem_of_find?_eq_some hfind) v
    (Members.get?_of_mem hnodup (Members.mem_ofList hmem))

theorem readRecord_object {record : String} {excess : Excess} {checks : List FieldCheck}
    {build : Source → Except ShapeError α} (hnodup : (pairs.map Prod.fst).Nodup)
    (hchecks : checks.Forall (·.Passes pairs)) :
    readRecord record excess checks build (.object pairs)
      = build (.members (Members.ofList pairs)) := by
  rw [object, readRecord, visitMembers_ofList hnodup hchecks]

/-! ## Fields of objects and of lists -/

/-- What stands in the place of a field: the member of its name, or the element at its place. -/
def Source.value? (name : String) (place : Nat) : Source → Option Json
  | .members ms => ms.get? name
  | .elements vs => vs[place]?

variable {record : String} {size place : Nat} {source : Source}

theorem RecordField.get_of_value? {v : Json} (h : source.value? f.name place = some v) :
    f.get record size place source = f.read v := by
  cases source with
  | members ms =>
      rw [Source.value?] at h
      rw [RecordField.get, h]
  | elements vs =>
      rw [Source.value?] at h
      rw [RecordField.get, h]

theorem RecordField.get_of_value?_eq_none (h : source.value? f.name place = none)
    (habsence : f.absence = .allowed a) : f.get record size place source = .ok a := by
  cases source with
  | members ms =>
      rw [Source.value?] at h
      rw [RecordField.get, h, habsence]
  | elements vs =>
      rw [Source.value?] at h
      rw [RecordField.get, h, habsence]

end

end Concord.Json
