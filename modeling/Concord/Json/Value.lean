import Concord.Number.Binary64

/-!
# JSON values

A JSON value distinguishes whole numbers from numbers with a fraction: `1` and
`1.0` are two values.  An object is a list of members in the order of their
names, by code points.  `Members.insert` keeps that order and puts the new value
in the place of one under the same name.

Two lookups describe an insertion completely: `Members.get?_insert_self` for the
name inserted, and `Members.get?_insert_of_ne` for every other.  Neither needs
the list to be in order.

Equality of values is decidable (`Json.decEq`).  The recursion runs through the
two kinds of list beside the values themselves, so that it stays structural.
-/

namespace Concord

open Number (Binary64)

/-! ## Values -/

/-- A JSON value. -/
inductive Json where
  | null
  /-- A truth value. -/
  | bool (b : Bool)
  /-- A whole number. -/
  | int (n : Int)
  /-- A number with a fraction or an exponent. -/
  | float (x : Binary64)
  /-- A text. -/
  | str (s : String)
  | arr (elements : List Json)
  /-- An object: names with their values. -/
  | obj (members : List (String × Json))
  deriving Repr

namespace Json

instance : Inhabited Json := ⟨.null⟩

/-! ## Equality -/

mutual

/-- Equality of values is decidable. -/
def decEq : (a b : Json) → Decidable (a = b)
  | .null, b => by cases b <;> first | exact isTrue rfl | exact isFalse (by simp)
  | .bool x, b => by
    cases b with
    | bool y => exact decidable_of_iff (x = y) (by simp)
    | _ => exact isFalse (by simp)
  | .int x, b => by
    cases b with
    | int y => exact decidable_of_iff (x = y) (by simp)
    | _ => exact isFalse (by simp)
  | .float x, b => by
    cases b with
    | float y => exact decidable_of_iff (x = y) (by simp)
    | _ => exact isFalse (by simp)
  | .str x, b => by
    cases b with
    | str y => exact decidable_of_iff (x = y) (by simp)
    | _ => exact isFalse (by simp)
  | .arr xs, b => by
    cases b with
    | arr ys => exact @decidable_of_iff _ (xs = ys) (by simp) (decEqElements xs ys)
    | _ => exact isFalse (by simp)
  | .obj xs, b => by
    cases b with
    | obj ys => exact @decidable_of_iff _ (xs = ys) (by simp) (decEqMembers xs ys)
    | _ => exact isFalse (by simp)

/-- Equality of lists of values is decidable. -/
def decEqElements : (xs ys : List Json) → Decidable (xs = ys)
  | [], [] => isTrue rfl
  | [], _ :: _ => isFalse (by simp)
  | _ :: _, [] => isFalse (by simp)
  | x :: xs, y :: ys =>
    match decEq x y, decEqElements xs ys with
    | isTrue h, isTrue hs => isTrue (by rw [h, hs])
    | isFalse h, _ => isFalse (by simp [h])
    | _, isFalse hs => isFalse (by simp [hs])

/-- Equality of lists of members is decidable. -/
def decEqMembers : (xs ys : List (String × Json)) → Decidable (xs = ys)
  | [], [] => isTrue rfl
  | [], _ :: _ => isFalse (by simp)
  | _ :: _, [] => isFalse (by simp)
  | (k, x) :: xs, (l, y) :: ys =>
    match decEq x y, decEqMembers xs ys with
    | isTrue h, isTrue hs => decidable_of_iff (k = l) (by simp [h, hs])
    | isFalse h, _ => isFalse (by simp [h])
    | _, isFalse hs => isFalse (by simp [hs])

end

instance : DecidableEq Json := decEq

/-! ## Members of objects -/

/-- The members of an object. -/
abbrev Members := List (String × Json)

namespace Members

def get? (members : Members) (name : String) : Option Json :=
  match members with
  | [] => none
  | (k, v) :: rest => if k = name then some v else get? rest name

/-- Puts a value under a name, in order of names. -/
def insert (members : Members) (name : String) (value : Json) : Members :=
  match members with
  | [] => [(name, value)]
  | (k, v) :: rest =>
    if k = name then (name, value) :: rest
    else if name < k then (name, value) :: (k, v) :: rest
    else (k, v) :: insert rest name value

/-- The members of a list of names with values, the last value of a name. -/
def ofList (pairs : List (String × Json)) : Members :=
  pairs.foldl (fun members p => insert members p.1 p.2) []

@[simp] theorem get?_nil (name : String) : get? [] name = none := rfl

theorem get?_cons (k name : String) (v : Json) (rest : Members) :
    get? ((k, v) :: rest) name = if k = name then some v else get? rest name := rfl

@[simp] theorem get?_insert_self (members : Members) (name : String) (value : Json) :
    get? (insert members name value) name = some value := by
  induction members with
  | nil => simp [insert, get?]
  | cons m rest ih =>
    obtain ⟨k, v⟩ := m
    by_cases hk : k = name
    · simp [insert, hk, get?]
    · by_cases hl : name < k <;> simp [insert, hk, hl, get?, ih]

theorem get?_insert_of_ne {members : Members} {name other : String} {value : Json}
    (h : other ≠ name) : get? (insert members name value) other = get? members other := by
  induction members with
  | nil => simp [insert, get?, h.symm]
  | cons m rest ih =>
    obtain ⟨k, v⟩ := m
    by_cases hk : k = name
    · simp [insert, hk, get?, h.symm]
    · by_cases hl : name < k
      · simp [insert, hk, hl, get?_cons, h.symm]
      · simp [insert, hk, hl, get?_cons, ih]

end Members

/-! ## Building and looking up -/

/-- An object from its members in any order. -/
def object (pairs : List (String × Json)) : Json :=
  .obj (Members.ofList pairs)

/-- A member that is written only when there is a value. -/
def optionalMember (name : String) : Option Json → Members
  | none => []
  | some v => [(name, v)]

/-- The value under a name of an object; other values have none. -/
def get? : Json → String → Option Json
  | .obj members, name => Members.get? members name
  | _, _ => none

/-- A text, or `null` when there is none. -/
def ofText? : Option String → Json
  | none => .null
  | some s => .str s

/-- A whole number of 64 bits with a sign. -/
def int64 (n : Int64) : Json := .int n.toInt

/-- A whole number of 64 bits without a sign. -/
def nat64 (n : UInt64) : Json := .int (Int.ofNat n.toNat)

/-- A value, or `null` when there is none. -/
def ofOption : Option Json → Json
  | none => .null
  | some v => v

def text? : Json → Option String
  | .str s => some s
  | _ => none

theorem text?_eq_some_iff {v : Json} {s : String} : v.text? = some s ↔ v = .str s := by
  cases v <;> simp [text?]

/-- A member is a text exactly if it is there as one. -/
theorem get?_bind_text?_eq_some_iff {v : Json} {name s : String} :
    (v.get? name).bind text? = some s ↔ v.get? name = some (.str s) := by
  simp [Option.bind_eq_some_iff, text?_eq_some_iff]

end Json

end Concord
