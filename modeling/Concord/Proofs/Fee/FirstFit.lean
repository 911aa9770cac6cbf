import Concord.Fee.Agreement
import Mathlib.Data.List.Forall2

/-!
# First fit

First fit gives each element of the left list a partner of its own from the right list
(`firstFit_perm`, `firstFit_fits`).  When elements fit exactly if they come down to one
form, it pairs two lists of one length exactly when their forms are the same up to order
(`oneToOne_iff_perm`, `length_and_oneToOne_iff_perm`).

It makes no difference whether what has been taken leaves the right list or is only marked there
(`oneToOne_eq_markEach`).
-/

namespace Concord

variable {α β γ : Type}

/-! ## Taking one element -/

section

variable {p : β → Bool} {bs rest : List β} {b : β}

theorem takeFirst_holds (h : takeFirst p bs = some (b, rest)) : p b = true := by
  induction bs generalizing rest with
  | nil => cases h
  | cons c bs ih =>
      rw [takeFirst] at h
      split at h
      case isTrue hc =>
          cases h
          exact hc
      case isFalse hc =>
          obtain ⟨⟨d, left⟩, htake, heq⟩ := Option.map_eq_some_iff.1 h
          cases heq
          exact ih htake

theorem takeFirst_perm (h : takeFirst p bs = some (b, rest)) : bs.Perm (b :: rest) := by
  induction bs generalizing rest with
  | nil => cases h
  | cons c bs ih =>
      rw [takeFirst] at h
      split at h
      case isTrue hc =>
          cases h
          exact .refl _
      case isFalse hc =>
          obtain ⟨⟨d, left⟩, htake, heq⟩ := Option.map_eq_some_iff.1 h
          cases heq
          exact ((ih htake).cons c).trans (.swap d c left)

/-- If an element satisfies the test then some element is taken. -/
theorem exists_takeFirst (hb : b ∈ bs) (hp : p b = true) :
    ∃ c rest, takeFirst p bs = some (c, rest) := by
  induction bs with
  | nil => cases hb
  | cons c bs ih =>
      rw [takeFirst]
      by_cases hc : p c = true
      · exact ⟨c, bs, by rw [if_pos hc]⟩
      · rcases List.mem_cons.1 hb with rfl | hmem
        · exact absurd hp hc
        · obtain ⟨d, rest, htake⟩ := ih hmem
          exact ⟨d, c :: rest, by rw [if_neg hc, htake]; rfl⟩

end

/-! ## Pairing -/

section

variable {fits : α → β → Bool} {as : List α} {bs cs : List β} {a : α}

theorem firstFit_cons {b : β} {rest : List β} (h : takeFirst (fits a) bs = some (b, rest)) :
    firstFit fits (a :: as) bs = (firstFit fits as rest).map (b :: ·) := by
  rw [firstFit, h]

theorem exists_of_firstFit_cons (h : firstFit fits (a :: as) bs = some cs) :
    ∃ b rest ds, takeFirst (fits a) bs = some (b, rest) ∧ firstFit fits as rest = some ds ∧
      cs = b :: ds := by
  cases htake : takeFirst (fits a) bs with
  | none =>
      rw [firstFit, htake] at h
      cases h
  | some r =>
      rw [firstFit_cons htake] at h
      obtain ⟨ds, hds, hcs⟩ := Option.map_eq_some_iff.1 h
      exact ⟨r.1, r.2, ds, rfl, hds, hcs.symm⟩

theorem firstFit_fits (h : firstFit fits as bs = some cs) :
    List.Forall₂ (fun a c => fits a c = true) as cs := by
  induction as generalizing bs cs with
  | nil =>
      cases h
      exact .nil
  | cons a as ih =>
      obtain ⟨b, rest, ds, htake, hfit, rfl⟩ := exists_of_firstFit_cons h
      exact .cons (takeFirst_holds htake) (ih hfit)

/-- The partners are taken from the right list, each position once. -/
theorem firstFit_perm (h : firstFit fits as bs = some cs) :
    ∃ rest, bs.Perm (cs ++ rest) := by
  induction as generalizing bs cs with
  | nil =>
      cases h
      exact ⟨bs, .refl bs⟩
  | cons a as ih =>
      obtain ⟨b, left, ds, htake, hfit, rfl⟩ := exists_of_firstFit_cons h
      obtain ⟨rest, hperm⟩ := ih hfit
      exact ⟨rest, (takeFirst_perm htake).trans (hperm.cons b)⟩

theorem firstFit_perm_of_length_eq (h : firstFit fits as bs = some cs)
    (hlength : as.length = bs.length) : bs.Perm cs := by
  obtain ⟨rest, hperm⟩ := firstFit_perm h
  have hcs : as.length = cs.length := (firstFit_fits h).length_eq
  have hrest : rest = [] := by
    have hsum := hperm.length_eq
    rw [List.length_append] at hsum
    exact List.eq_nil_of_length_eq_zero (by omega)
  rwa [hrest, List.append_nil] at hperm

end

/-! ## Fitting by a form -/

section

variable {fits : α → β → Bool} {f : α → γ} {g : β → γ} {as : List α} {bs cs : List β}

/-- The partners have the forms of what they are partners of. -/
theorem map_eq_of_firstFit (hform : ∀ a b, fits a b = true ↔ f a = g b)
    (h : firstFit fits as bs = some cs) : as.map f = cs.map g := by
  have hfits := firstFit_fits h
  clear h
  induction hfits with
  | nil => rfl
  | cons hfit _ ih => rw [List.map_cons, List.map_cons, (hform _ _).1 hfit, ih]

end

section

variable {fits : α → β → Bool} {f : α → γ} {g : β → γ}

/-- First fit does not miss a pairing: whatever it takes has the form of what another
choice would have taken. -/
theorem exists_firstFit_of_perm (hform : ∀ a b, fits a b = true ↔ f a = g b) {as : List α}
    {bs : List β} (h : (as.map f).Perm (bs.map g)) : ∃ cs, firstFit fits as bs = some cs := by
  induction as generalizing bs with
  | nil => exact ⟨[], rfl⟩
  | cons a as ih =>
      have hmem : f a ∈ bs.map g := h.mem_iff.1 (by simp)
      obtain ⟨b, hb, hba⟩ := List.mem_map.1 hmem
      obtain ⟨c, rest, htake⟩ := exists_takeFirst hb ((hform a b).2 hba.symm)
      have hc : f a = g c := (hform a c).1 (takeFirst_holds htake)
      -- What was taken need not be `b`, but it has the same form.
      have hrest : (as.map f).Perm (rest.map g) := by
        have hperm : (as.map f).cons (f a) |>.Perm (g c :: rest.map g) :=
          h.trans ((takeFirst_perm htake).map g)
        rw [hc] at hperm
        exact hperm.cons_inv
      obtain ⟨ds, hds⟩ := ih hrest
      refine ⟨c :: ds, ?_⟩
      rw [firstFit_cons htake, hds, Option.map_some]

/-- Two lists of one length are paired exactly when their forms are the same up to
order. -/
theorem oneToOne_iff_perm (hform : ∀ a b, fits a b = true ↔ f a = g b) {as : List α}
    {bs : List β} (hlength : as.length = bs.length) :
    oneToOne fits as bs = true ↔ (as.map f).Perm (bs.map g) := by
  rw [oneToOne, Option.isSome_iff_exists]
  constructor
  · rintro ⟨cs, hfit⟩
    rw [map_eq_of_firstFit hform hfit]
    exact ((firstFit_perm_of_length_eq hfit hlength).map g).symm
  · exact exists_firstFit_of_perm hform

/-- A pairing is asked for only when the lengths are equal, which they are when the forms are
the same. -/
theorem length_and_oneToOne_iff_perm (hform : ∀ a b, fits a b = true ↔ f a = g b)
    {as : List α} {bs : List β} :
    (decide (as.length = bs.length) && oneToOne fits as bs) = true ↔
      (as.map f).Perm (bs.map g) := by
  rw [Bool.and_eq_true, decide_eq_true_eq]
  constructor
  · rintro ⟨hlength, hfit⟩
    exact (oneToOne_iff_perm hform hlength).1 hfit
  · intro hperm
    have hlength : as.length = bs.length := by simpa using hperm.length_eq
    exact ⟨hlength, (oneToOne_iff_perm hform hlength).2 hperm⟩

end

/-! ## Marking what is taken -/

/-- Marks the first element that is not marked and satisfies a test. -/
def markFirst (p : β → Bool) : List (β × Bool) → Option (List (β × Bool))
  | [] => none
  | (b, marked) :: bs =>
    if !marked && p b then some ((b, true) :: bs)
    else (markFirst p bs).map fun rest => (b, marked) :: rest

/-- Whether each element of a list finds a partner that is not marked yet, which is marked
then. -/
def markEach (fits : α → β → Bool) : List α → List (β × Bool) → Bool
  | [], _ => true
  | a :: as, bs =>
    match markFirst (fits a) bs with
    | none => false
    | some rest => markEach fits as rest

/-- The elements that are not marked. -/
def unmarked (bs : List (β × Bool)) : List β :=
  (bs.filter fun b => !b.2).map Prod.fst

@[simp] theorem unmarked_cons (b : β) (marked : Bool) (bs : List (β × Bool)) :
    unmarked ((b, marked) :: bs) = if marked then unmarked bs else b :: unmarked bs := by
  cases marked <;> simp [unmarked]

theorem unmarked_map_false (bs : List β) : unmarked (bs.map fun b => (b, false)) = bs := by
  induction bs with
  | nil => rfl
  | cons b bs ih => simp [ih]

/-- Marking an element takes it from those that are not marked. -/
theorem map_unmarked_markFirst (p : β → Bool) (bs : List (β × Bool)) :
    (markFirst p bs).map unmarked = (takeFirst p (unmarked bs)).map Prod.snd := by
  induction bs with
  | nil => rfl
  | cons b bs ih =>
      obtain ⟨b, marked⟩ := b
      cases marked with
      | true => simp [markFirst, ih, Function.comp_def]
      | false =>
          by_cases hb : p b = true
          · simp [markFirst, takeFirst, hb]
          · calc (markFirst p ((b, false) :: bs)).map unmarked
                = ((markFirst p bs).map unmarked).map (b :: ·) := by
                  simp [markFirst, hb, Function.comp_def]
              _ = ((takeFirst p (unmarked bs)).map Prod.snd).map (b :: ·) := by rw [ih]
              _ = (takeFirst p (unmarked ((b, false) :: bs))).map Prod.snd := by
                  simp [takeFirst, hb, Function.comp_def]

theorem markEach_eq (fits : α → β → Bool) (as : List α) (bs : List (β × Bool)) :
    markEach fits as bs = oneToOne fits as (unmarked bs) := by
  induction as generalizing bs with
  | nil => rfl
  | cons a as ih =>
      have hfirst := map_unmarked_markFirst (fits a) bs
      cases htake : takeFirst (fits a) (unmarked bs) with
      | none =>
          have hmark : markFirst (fits a) bs = none := by simpa [htake] using hfirst
          simp [markEach, oneToOne, firstFit, hmark, htake]
      | some r =>
          obtain ⟨rest, hmark, hrest⟩ : ∃ rest, markFirst (fits a) bs = some rest ∧
              unmarked rest = r.2 := by simpa [htake] using hfirst
          simp [markEach, oneToOne, firstFit, hmark, htake, ih, hrest]

/-- First fit may mark in the right list what has been taken. -/
theorem oneToOne_eq_markEach (fits : α → β → Bool) (as : List α) (bs : List β) :
    oneToOne fits as bs = markEach fits as (bs.map fun b => (b, false)) := by
  rw [markEach_eq, unmarked_map_false]

end Concord
