import Concord.Proofs.Fee.Pairing

/-!
# First fit for relations

A relation is difunctional when elements that share a partner share all of them.  This is so
exactly if elements fit by a form that each of them has (`difunctional_iff_exists_form`), so for
such a relation first fit misses no pairing, in whatever order either list is
(`oneToOne_iff_exists_isPairing`).

`Marking` tells how first fit goes about it when what is taken stays in the right list and is
only marked there: each element in turn marks the first position that is free and that it fits,
until one finds none.  Marks are never taken back, and a position that has one is not free, so
that no position is marked twice, whether a run succeeds or not (`Marking.nodup`).
-/

namespace Concord

variable {α β γ : Type} {fits : α → β → Bool}

/-! ## Difunctional relations -/

/-- Elements with a common partner have all partners in common. -/
def Difunctional (fits : α → β → Bool) : Prop :=
  ∀ a b x y, fits a x = true → fits b x = true → fits b y = true → fits a y = true

theorem Difunctional.partners_eq (h : Difunctional fits) {a b : α} {x : β} (ha : fits a x = true)
    (hb : fits b x = true) : fits a = fits b := by
  funext y
  rw [Bool.eq_iff_iff]
  exact ⟨h b a x y hb ha, h a b x y ha hb⟩

open Classical in
/-- The partners that the elements which fit a given one have, if there are such elements. -/
noncomputable def partnersOf (fits : α → β → Bool) (x : β) : Option (β → Bool) :=
  if h : ∃ a, fits a x = true then some (fits h.choose) else none

/-- An element fits another exactly if its partners are those of the other. -/
theorem Difunctional.fits_iff (h : Difunctional fits) (a : α) (x : β) :
    fits a x = true ↔ some (fits a) = partnersOf fits x := by
  rw [partnersOf]
  constructor
  · intro hfits
    have hexists : ∃ b, fits b x = true := ⟨a, hfits⟩
    rw [dif_pos hexists, h.partners_eq hfits hexists.choose_spec]
  · intro heq
    split at heq
    case isTrue hexists =>
        rw [Option.some.inj heq]
        exact hexists.choose_spec
    case isFalse => cases heq

/-- The relations by a form are the difunctional ones. -/
theorem difunctional_iff_exists_form : Difunctional fits ↔
    ∃ (γ : Type) (f : α → γ) (g : β → γ), ∀ a x, fits a x = true ↔ f a = g x := by
  constructor
  · intro h
    exact ⟨Option (β → Bool), fun a => some (fits a), partnersOf fits, h.fits_iff⟩
  · rintro ⟨γ, f, g, hform⟩ a b x y hax hbx hby
    rw [hform] at hax hbx hby ⊢
    rw [hax, ← hbx, hby]

/-! ## Pairings by first fit -/

section

variable {left left' : List α} {right right' : List β}

theorem oneToOne_iff_exists_isPairing (h : Difunctional fits)
    (hlength : left.length = right.length) :
    oneToOne fits left right = true ↔ ∃ partner, IsPairing fits left right partner := by
  obtain ⟨γ, f, g, hform⟩ := difunctional_iff_exists_form.1 h
  rw [oneToOne_iff_perm hform hlength, exists_isPairing_iff_perm hform]

theorem oneToOne_eq_of_perm (h : Difunctional fits) (hlength : left.length = right.length)
    (hleft : left'.Perm left) (hright : right'.Perm right) :
    oneToOne fits left' right' = oneToOne fits left right := by
  obtain ⟨γ, f, g, hform⟩ := difunctional_iff_exists_form.1 h
  have hlength' : left'.length = right'.length := by
    rw [hleft.length_eq, hright.length_eq, hlength]
  rw [Bool.eq_iff_iff, oneToOne_iff_perm hform hlength', oneToOne_iff_perm hform hlength]
  constructor
  · intro hperm
    exact ((hleft.map f).symm.trans hperm).trans (hright.map g)
  · intro hperm
    exact ((hleft.map f).trans hperm).trans (hright.map g).symm

end

/-! ## Positions -/

theorem takeFirst_map (p : γ → Bool) (g : β → γ) (bs : List β) :
    takeFirst p (bs.map g) = (takeFirst (fun b => p (g b)) bs).map (Prod.map g (List.map g)) := by
  induction bs with
  | nil => rfl
  | cons b bs ih =>
      rw [List.map_cons, takeFirst, takeFirst, ih]
      split_ifs
      · rfl
      · rw [Option.map_map, Option.map_map]
        rfl

/-- Partners may be sought by what is read off the elements of the right list. -/
theorem firstFit_map (fits : α → γ → Bool) (g : β → γ) (as : List α) (bs : List β) :
    firstFit fits as (bs.map g)
      = (firstFit (fun a b => fits a (g b)) as bs).map (List.map g) := by
  induction as generalizing bs with
  | nil => rfl
  | cons a as ih =>
      rw [firstFit, firstFit, takeFirst_map]
      cases takeFirst (fun b => fits a (g b)) bs with
      | none => rfl
      | some r =>
          show (firstFit fits as (r.2.map g)).map (g r.1 :: ·) = _
          rw [ih, Option.map_map, Option.map_map]
          rfl

theorem isSome_fitPositions (fits : α → β → Bool) (left : List α) (right : List β) :
    (fitPositions fits left right).isSome = oneToOne fits left right := by
  have hfirst := firstFit_map fits Prod.fst left right.zipIdx
  rw [List.zipIdx_map_fst] at hfirst
  rw [fitPositions, oneToOne, hfirst, Option.isSome_map, Option.isSome_map]

/-! ## Runs that mark -/

/-- Each element of a list in turn marks the first position that is not marked and that it fits.
A run has the positions that it marks, one after the other, and whether all elements found one. -/
inductive Marking (fits : α → β → Bool) : List (β × Bool) → List α → List Nat → Bool → Prop where
  | done {bs} : Marking fits bs [] [] true
  /-- An element that finds no position ends the run. -/
  | stuck {bs a as} (h : ∀ (i : Nat) b, bs[i]? = some (b, false) → fits a b = false) :
      Marking fits bs (a :: as) [] false
  | mark {bs a as b places found} {i : Nat} (hfree : bs[i]? = some (b, false)) (hfits : fits a b = true)
      (hfirst : ∀ j < i, ∀ c, bs[j]? = some (c, false) → fits a c = false)
      (hrest : Marking fits (bs.set i (b, true)) as places found) :
      Marking fits bs (a :: as) (i :: places) found

section

variable {as : List α} {bs : List (β × Bool)} {places : List Nat} {found : Bool}

theorem exists_marking (fits : α → β → Bool) (bs : List (β × Bool)) (as : List α) :
    ∃ places found, Marking fits bs as places found := by
  classical
  induction as generalizing bs with
  | nil => exact ⟨[], true, .done⟩
  | cons a as ih =>
      by_cases h : ∃ (i : Nat) (b : β), bs[i]? = some (b, false) ∧ fits a b = true
      · obtain ⟨b, hfree, hfits⟩ := Nat.find_spec h
        obtain ⟨places, found, hrest⟩ := ih (bs.set (Nat.find h) (b, true))
        refine ⟨Nat.find h :: places, found, .mark hfree hfits ?_ hrest⟩
        intro j hj c hc
        have hnone := Nat.find_min h hj
        simpa [hc] using hnone
      · refine ⟨[], false, .stuck fun i b hb => ?_⟩
        simpa using fun hfits => h ⟨i, b, hb, hfits⟩

/-- A run marks positions that had no mark when it began. -/
theorem Marking.free (h : Marking fits bs as places found) :
    ∀ i ∈ places, ∃ b, bs[i]? = some (b, false) := by
  induction h with
  | done => simp
  | stuck => simp
  | @mark bs a as b places found k hfree hfits hfirst hrest ih =>
      refine List.forall_mem_cons.2 ⟨⟨b, hfree⟩, fun i hi => ?_⟩
      obtain ⟨c, hc⟩ := ih i hi
      rw [List.getElem?_set] at hc
      split_ifs at hc
      · cases hc
      · exact ⟨c, hc⟩

/-- No position is marked twice. -/
theorem Marking.nodup (h : Marking fits bs as places found) : places.Nodup := by
  induction h with
  | done => exact List.nodup_nil
  | stuck => exact List.nodup_nil
  | @mark bs a as b places found k hfree hfits hfirst hrest ih =>
      refine List.nodup_cons.2 ⟨fun hk => ?_, ih⟩
      -- From its mark on the position is not free.
      obtain ⟨c, hc⟩ := hrest.free k hk
      rw [List.getElem?_set_self (List.getElem?_eq_some_iff.1 hfree).1] at hc
      cases hc

end

/-! ## What is free in a run -/

/-- The elements that are not marked, with their positions from a given one on. -/
def freeFrom : Nat → List (β × Bool) → List (β × Nat)
  | _, [] => []
  | k, (b, marked) :: bs => if marked then freeFrom (k + 1) bs else (b, k) :: freeFrom (k + 1) bs

theorem freeFrom_map_false (k : Nat) (bs : List β) :
    freeFrom k (bs.map fun b => (b, false)) = bs.zipIdx k := by
  induction bs generalizing k with
  | nil => rfl
  | cons b bs ih =>
      rw [List.map_cons, freeFrom, ih, List.zipIdx_cons]
      rfl

section

variable {p : β → Bool} {bs : List (β × Bool)}

theorem takeFirst_freeFrom_of_none (h : ∀ (i : Nat) b, bs[i]? = some (b, false) → p b = false)
    (k : Nat) :
    takeFirst (fun x => p x.1) (freeFrom k bs) = none := by
  induction bs generalizing k with
  | nil => rfl
  | cons b bs ih =>
      obtain ⟨b, marked⟩ := b
      have hrest := ih (fun i c hc => h (i + 1) c (by simpa using hc)) (k + 1)
      cases marked with
      | true => simpa [freeFrom] using hrest
      | false =>
          have hb : p b = false := h 0 b rfl
          simp [freeFrom, takeFirst, hb, hrest]

/-- The first that is free and fits is taken with its position, which is then not free. -/
theorem takeFirst_freeFrom {i : Nat} {b : β} (hfree : bs[i]? = some (b, false)) (hp : p b = true)
    (hfirst : ∀ j < i, ∀ c, bs[j]? = some (c, false) → p c = false) (k : Nat) :
    takeFirst (fun x => p x.1) (freeFrom k bs)
      = some ((b, k + i), freeFrom k (bs.set i (b, true))) := by
  induction bs generalizing i k with
  | nil => cases hfree
  | cons c bs ih =>
      obtain ⟨c, marked⟩ := c
      cases i with
      | zero =>
          cases hfree
          simp [freeFrom, takeFirst, hp]
      | succ i =>
          have hrest := ih (by simpa using hfree)
            (fun j hj d hd => hfirst (j + 1) (by omega) d (by simpa using hd)) (k + 1)
          cases marked with
          | true => simpa [freeFrom, Nat.add_right_comm, Nat.add_assoc] using hrest
          | false =>
              have hc : p c = false := hfirst 0 (by omega) c rfl
              simp [freeFrom, takeFirst, hc, hrest]
              omega

end

/-- What is free makes first fit find the positions that a run marks, if it succeeds. -/
theorem Marking.firstFit_eq {as : List α} {bs : List (β × Bool)} {places : List Nat}
    {found : Bool} (h : Marking fits bs as places found) :
    (firstFit (fun a (x : β × Nat) => fits a x.1) as (freeFrom 0 bs)).map (List.map Prod.snd)
      = if found then some places else none := by
  induction h with
  | done => rfl
  | stuck h =>
      rw [firstFit, takeFirst_freeFrom_of_none h]
      rfl
  | @mark bs a as b places found i hfree hfits hfirst hrest ih =>
      rw [firstFit_cons (takeFirst_freeFrom hfree hfits hfirst 0), Nat.zero_add, Option.map_map]
      calc (firstFit (fun a (x : β × Nat) => fits a x.1) as
            (freeFrom 0 (bs.set i (b, true)))).map (List.map Prod.snd ∘ ((b, i) :: ·))
          = ((firstFit (fun a (x : β × Nat) => fits a x.1) as
              (freeFrom 0 (bs.set i (b, true)))).map (List.map Prod.snd)).map (i :: ·) := by
            rw [Option.map_map]
            rfl
        _ = (if found then some places else none).map (i :: ·) := by rw [ih]
        _ = if found then some (i :: places) else none := by
            cases found <;> rfl

/-- A run from an unmarked list marks the positions that first fit finds, if it succeeds. -/
theorem Marking.fitPositions_eq {left : List α} {right : List β} {places : List Nat}
    {found : Bool} (h : Marking fits (right.map fun b => (b, false)) left places found) :
    fitPositions fits left right = if found then some places else none := by
  rw [fitPositions, ← freeFrom_map_false]
  exact h.firstFit_eq

/-- A run from an unmarked list succeeds exactly if each element finds a partner. -/
theorem Marking.found_eq {left : List α} {right : List β} {places : List Nat} {found : Bool}
    (h : Marking fits (right.map fun b => (b, false)) left places found) :
    found = oneToOne fits left right := by
  rw [← isSome_fitPositions, h.fitPositions_eq]
  cases found <;> rfl

/-! ## Correctness -/

/-- First fit pairs two lists of one length only if they can be paired, and for a difunctional
relation whenever they can, in whatever order they are.  However a run ends, it marks no position
of the right list twice, and the positions that first fit finds are those that it marks. -/
theorem oneToOne_pairs (fits : α → β → Bool) (left : List α) (right : List β) :
    (left.length = right.length →
      (oneToOne fits left right = true → ∃ partner, IsPairing fits left right partner) ∧
      (Difunctional fits →
        ((∃ partner, IsPairing fits left right partner) → oneToOne fits left right = true) ∧
        ∀ left' right', left'.Perm left → right'.Perm right →
          oneToOne fits left' right' = oneToOne fits left right)) ∧
    (∃ places, Marking fits (right.map fun b => (b, false)) left places
      (oneToOne fits left right)) ∧
    ∀ places found, Marking fits (right.map fun b => (b, false)) left places found →
      found = oneToOne fits left right ∧
      fitPositions fits left right = (if found then some places else none) ∧
      places.Nodup ∧ ∀ i ∈ places, i < right.length := by
  refine ⟨fun hlength => ⟨exists_isPairing hlength, fun h => ⟨?_, ?_⟩⟩, ?_, ?_⟩
  · exact (oneToOne_iff_exists_isPairing h hlength).2
  · intro left' right' hleft hright
    exact oneToOne_eq_of_perm h hlength hleft hright
  · obtain ⟨places, found, hrun⟩ := exists_marking fits (right.map fun b => (b, false)) left
    exact ⟨places, hrun.found_eq ▸ hrun⟩
  · intro places found hrun
    refine ⟨hrun.found_eq, hrun.fitPositions_eq, hrun.nodup, fun i hi => ?_⟩
    obtain ⟨b, hb⟩ := hrun.free i hi
    simpa using (List.getElem?_eq_some_iff.1 hb).1

/-- Numbers of different parity fit. -/
def differInParity (a b : Nat) : Bool :=
  a % 2 != b % 2

theorem oneToOne_pairs_of_parity :
    [3, 0, 2].length = [5, 4, 7].length ∧ Difunctional differInParity ∧
      (∃ partner, IsPairing differInParity [3, 0, 2] [5, 4, 7] partner) ∧
      oneToOne differInParity [2, 0, 3] [7, 4, 5] = true ∧
      ∃ places, Marking differInParity [(5, false), (4, false), (7, false)] [3, 0, 2] places true ∧
        places.Nodup := by
  have hdifunctional : Difunctional differInParity := by
    intro a b x y hax hbx hby
    simp only [differInParity, bne_iff_ne, ne_eq] at *
    omega
  have hfits : oneToOne differInParity [3, 0, 2] [5, 4, 7] = true := by decide
  obtain ⟨hpairs, ⟨places, hrun⟩, hruns⟩ := oneToOne_pairs differInParity [3, 0, 2] [5, 4, 7]
  obtain ⟨hsound, hcomplete⟩ := hpairs rfl
  obtain ⟨hfound, horder⟩ := hcomplete hdifunctional
  refine ⟨rfl, hdifunctional, hsound hfits, ?_, places, hfits ▸ hrun, (hruns _ _ hrun).2.2.1⟩
  exact (horder _ _ (List.reverse_perm [3, 0, 2]) (List.reverse_perm [5, 4, 7])).trans
    (hfound (hsound hfits))

/-- For other relations the order matters: here the first element may take what only the second
one fits. -/
example : oneToOne (fun a b : Nat => decide (a ≤ b)) [1, 2] [2, 1] = false ∧
    oneToOne (fun a b : Nat => decide (a ≤ b)) [1, 2] [1, 2] = true := by
  decide

end Concord
