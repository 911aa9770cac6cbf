import Concord.Proofs.Json.Printed
import Concord.Proofs.Json.Record
import Concord.Proofs.Text.Numeral

/-!
# Values that printing keeps

The structure of a printed value is always found again, but not always the value: a number may
denote another one, and the members of an object are put in order.  A value is *exact* to some
depth when neither can happen and it is not nested deeper (`Exact`): it has no numbers but whole
ones of 64 bits, and the members of its objects are in order.  The text of such a value is read
as the value (`Exact.parse_compact`).
-/

namespace Concord.Json

open Text

/-! ## Objects in order -/

namespace Members

/-- A name behind all others is put at the end. -/
theorem insert_of_forall_lt {ms : Members} {name : String} (h : ∀ m ∈ ms, m.1 < name)
    (value : Json) : insert ms name value = ms ++ [(name, value)] := by
  induction ms with
  | nil => rfl
  | cons m ms ih =>
      obtain ⟨k, v⟩ := m
      have hk : k < name := h (k, v) List.mem_cons_self
      rw [insert, if_neg (Std.ne_of_lt hk), if_neg (String.lt_asymm hk),
        ih fun m hm => h m (List.mem_cons_of_mem _ hm)]
      rfl

/-- Members that are in order are those of the object that is built of them. -/
theorem ofList_of_ordered {ms : Members} (h : Ordered ms) : ofList ms = ms := by
  have hfold : ∀ (ms acc : Members), Ordered (acc ++ ms) →
      ms.foldl (fun acc m => insert acc m.1 m.2) acc = acc ++ ms := by
    intro ms
    induction ms with
    | nil => exact fun acc _ => (List.append_nil acc).symm
    | cons m ms ih =>
        intro acc hacc
        have hlast : ∀ n ∈ acc, n.1 < m.1 := fun n hn =>
          (List.pairwise_append.1 hacc).2.2 n hn m List.mem_cons_self
        rw [List.append_cons] at hacc ⊢
        rw [List.foldl_cons, insert_of_forall_lt hlast, ih _ hacc]
  exact hfold ms [] h

theorem ordered_ofList (pairs : Members) : Ordered (ofList pairs) := by
  have hfold : ∀ (pairs acc : Members), Ordered acc →
      Ordered (pairs.foldl (fun acc m => insert acc m.1 m.2) acc) := by
    intro pairs
    induction pairs with
    | nil => exact fun acc hacc => hacc
    | cons m pairs ih => exact fun acc hacc => ih _ (hacc.insert m.1 m.2)
  exact hfold pairs [] .nil

end Members

/-! ## Exact values -/

/-- A value has no numbers but whole ones of 64 bits, its objects are in order, and it is nested
at most `depth` deep. -/
inductive Exact : (depth : Nat) → Json → Prop where
  | null {depth} : Exact depth .null
  | bool {depth} (b : Bool) : Exact depth (.bool b)
  | int {depth} {n : Int} (hlow : -(maxSigned64 : Int) - 1 ≤ n) (hhigh : n ≤ maxUnsigned64) :
      Exact depth (.int n)
  | str {depth} (s : String) : Exact depth (.str s)
  | arr {depth} {xs : List Json} (h : ∀ x ∈ xs, Exact depth x) : Exact (depth + 1) (.arr xs)
  | obj {depth} {ms : Members} (hordered : ms.Ordered) (h : ∀ m ∈ ms, Exact depth m.2) :
      Exact (depth + 1) (.obj ms)

section

variable {depth : Nat}

/-- The digits of a whole number of 64 bits denote that number. -/
theorem value?_wholeNumber {n : Int} (hlow : -(maxSigned64 : Int) - 1 ≤ n)
    (hhigh : n ≤ maxUnsigned64) : (wholeNumber n).value? = some (.int n) := by
  cases n with
  | ofNat k =>
      have hk : k ≤ maxUnsigned64 := Int.ofNat_le.1 hhigh
      rw [WrittenNumber.value?]
      simp only [wholeNumber, Int.ofNat_eq_natCast,
        Int.not_lt.2 (Int.natCast_nonneg k), decide_false, Bool.false_eq_true, if_false,
        Int.natAbs_natCast, magnitude_natDigits .tooLarge hk]
      cases k with
      | zero => rfl
      | succ k => rfl
  | negSucc k =>
      have hk : k + 1 ≤ maxSigned64 + 1 := by omega
      rw [WrittenNumber.value?]
      simp only [wholeNumber, Int.natAbs_negSucc, Int.negSucc_lt_zero, decide_true, if_true,
        Nat.succ_eq_add_one, magnitude_natDigits .tooLarge hk]
      rfl

theorem values?_writtenElements {xs : List Json}
    (h : ∀ x ∈ xs, x.written.value? depth = some x) :
    Written.values? depth (writtenElements xs) = some xs := by
  induction xs with
  | nil => rfl
  | cons x xs ih =>
      rw [writtenElements, Written.values?, h x List.mem_cons_self, Option.bind_some,
        ih fun y hy => h y (List.mem_cons_of_mem x hy)]
      rfl

theorem members?_writtenMembers_self {ms : Members}
    (h : ∀ m ∈ ms, m.2.written.value? depth = some m.2) :
    Written.members? depth (writtenMembers ms) = some ms := by
  induction ms with
  | nil => rfl
  | cons m ms ih =>
      obtain ⟨k, v⟩ := m
      have hv : v.written.value? depth = some v := h (k, v) List.mem_cons_self
      rw [writtenMembers, Written.members?, Option.bind_some, hv, Option.bind_some,
        ih fun n hn => h n (List.mem_cons_of_mem _ hn)]
      rfl

/-- An exact value is the value of what is printed of it. -/
theorem Exact.value?_written {v : Json} (h : Exact depth v) :
    v.written.value? depth = some v := by
  induction h with
  | null => rfl
  | bool b => rfl
  | int hlow hhigh => exact value?_wholeNumber hlow hhigh
  | str s => rfl
  | arr _ ih => rw [written, Written.value?, values?_writtenElements ih, Option.map_some]
  | obj hordered _ ih =>
      rw [written, Written.value?, members?_writtenMembers_self ih, Option.map_some, object,
        Members.ofList_of_ordered hordered]

/-- The text of an exact value is read as that value. -/
theorem Exact.parse_compact {v : Json} (h : Exact depth v) : parse depth v.compact = some v := by
  rw [Json.parse_compact, h.value?_written]

/-! ## Building exact values -/

theorem exact_object {pairs : Members} (h : pairs.Forall fun m => Exact depth m.2) :
    Exact (depth + 1) (.object pairs) :=
  .obj (Members.ordered_ofList pairs) fun m hm =>
    List.forall_iff_forall_mem.1 h m (Members.mem_ofList hm)

theorem exact_arr_map {α : Type} {write : α → Json} (h : ∀ a, Exact depth (write a))
    (as : List α) : Exact (depth + 1) (.arr (as.map write)) := by
  refine .arr fun x hx => ?_
  obtain ⟨a, -, rfl⟩ := List.mem_map.1 hx
  exact h a

theorem exact_int64 (n : Int64) : Exact depth (.int64 n) :=
  .int n.le_toInt (Int.le_trans (Int.le_of_lt n.toInt_lt) (by decide))

theorem exact_ofText? (s : Option String) : Exact depth (.ofText? s) := by
  cases s with
  | none => exact .null
  | some s => exact .str s

theorem exact_ofOption {α : Type} {write : α → Json} (h : ∀ a, Exact depth (write a))
    (o : Option α) : Exact depth (.ofOption (o.map write)) := by
  cases o with
  | none => exact .null
  | some a => exact h a

theorem exact_optionalMember {α : Type} {write : α → Json} (h : ∀ a, Exact depth (write a))
    (name : String) (o : Option α) :
    (optionalMember name (o.map write)).Forall fun m => Exact depth m.2 := by
  cases o with
  | none => exact trivial
  | some a => exact h a

end

end Concord.Json
