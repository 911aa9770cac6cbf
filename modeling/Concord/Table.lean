/-!
# Tables

A table maps keys to values and keeps the value that was put last.  Two lookups
describe a `put` completely: `get?_put_self` for its own key and `get?_put_of_ne`
for every other.
-/

namespace Concord

/-- A finite map from keys to values. -/
abbrev Table (κ α : Type) : Type := List (κ × α)

namespace Table

variable {κ α : Type} [DecidableEq κ]

/-- The table without keys. -/
def empty : Table κ α := []

/-- The value of a key. -/
def get? (t : Table κ α) (k : κ) : Option α :=
  match t with
  | [] => none
  | (l, a) :: rest => if l = k then some a else get? rest k

/-- Gives a value to a key. -/
def put (t : Table κ α) (k : κ) (a : α) : Table κ α :=
  match t with
  | [] => [(k, a)]
  | (l, b) :: rest => if l = k then (k, a) :: rest else (l, b) :: put rest k a

@[simp] theorem get?_put_self (t : Table κ α) (k : κ) (a : α) : (t.put k a).get? k = some a := by
  induction t with
  | nil => simp [put, get?]
  | cons e rest ih =>
    obtain ⟨l, b⟩ := e
    by_cases h : l = k <;> simp [put, get?, h, ih]

theorem get?_put_of_ne {t : Table κ α} {k l : κ} {a : α} (h : l ≠ k) :
    (t.put k a).get? l = t.get? l := by
  induction t with
  | nil => simp [put, get?, h.symm]
  | cons e rest ih =>
    obtain ⟨m, b⟩ := e
    by_cases hm : m = k
    · simp [put, get?, hm, h.symm]
    · by_cases hl : m = l
      · subst hl
        simp [put, get?, hm]
      · simp [put, get?, hm, hl, ih]

end Table

end Concord
