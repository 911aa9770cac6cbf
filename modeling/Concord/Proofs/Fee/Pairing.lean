import Concord.Proofs.Fee.Canonical
import Mathlib.Data.List.FinRange
import Mathlib.Data.List.Perm.Basic

/-!
# Pairings of schedules

A pairing of two lists is a bijection of their positions under which each element of the
left one fits its partner (`IsPairing`).

First fit finds a pairing whenever it gives each element a partner and the lists are of one
length (`exists_isPairing`).  It may miss one in general, since what it takes for one element
may be the only partner of another.  When elements fit exactly if they come down to one form,
a pairing exists exactly when the forms are the same up to order
(`exists_isPairing_iff_perm`), and then first fit cannot miss it.  So both sides agree on the
fees exactly when those can be paired, in whatever order either side names them
(`feesAgree_iff_exists_isPairing`).
-/

namespace Concord

variable {α β γ : Type}

/-- Each position of the left list has a position of the right one for itself, none is left
over, and elements fit their partners. -/
structure IsPairing (fits : α → β → Bool) (left : List α) (right : List β)
    (partner : Fin left.length → Fin right.length) : Prop where
  /-- Every position of the right list is the partner of exactly one of the left. -/
  bijective : Function.Bijective partner
  /-- Partners fit. -/
  fit : ∀ i, fits left[i] right[partner i] = true

/-! ## First fit pairs positions -/

/-- Lists that are the same up to order have the same elements at paired positions. -/
theorem exists_bijective_of_perm {left right : List β} (h : left.Perm right) :
    ∃ place : Fin left.length → Fin right.length,
      Function.Bijective place ∧ ∀ i, right[place i] = left[i] := by
  classical
  exact ⟨h.idxBij, ⟨h.idxBij_injective, h.idxBij_surjective⟩, h.getElem_idxBij_eq_getElem⟩

/-- Whatever elements fit, first fit pairs two lists of one length when it gives each element
of the left one a partner. -/
theorem exists_isPairing {fits : α → β → Bool} {as : List α} {bs : List β}
    (hlength : as.length = bs.length) (h : oneToOne fits as bs = true) :
    ∃ partner, IsPairing fits as bs partner := by
  obtain ⟨cs, hfit⟩ := Option.isSome_iff_exists.1 h
  have hfits := firstFit_fits hfit
  obtain ⟨place, hbijective, hplace⟩ :=
    exists_bijective_of_perm (firstFit_perm_of_length_eq hfit hlength).symm
  -- The partner of an element is where the right list has what was taken for it.
  have hcast : Function.Bijective (Fin.cast hfits.length_eq) :=
    (finCongr hfits.length_eq).bijective
  refine ⟨place ∘ Fin.cast hfits.length_eq, hbijective.comp hcast, ?_⟩
  intro i
  have htaken : bs[place (i.cast hfits.length_eq)] = cs[i.cast hfits.length_eq] := hplace _
  have hpartner := hfits.get i.isLt (i.cast hfits.length_eq).isLt
  show fits as[i] bs[place (i.cast hfits.length_eq)] = true
  simp only [htaken]
  exact hpartner

/-! ## Pairings by a form -/

theorem map_eq_map_finRange (f : α → γ) (as : List α) :
    as.map f = (List.finRange as.length).map fun i => f as[i] := by
  have hall : (List.finRange as.length).map (fun i => as[i]) = as := List.map_getElem_finRange as
  calc as.map f = ((List.finRange as.length).map fun i => as[i]).map f := by rw [hall]
    _ = (List.finRange as.length).map fun i => f as[i] := List.map_map

/-- The partners of all positions are all positions, in some order. -/
theorem map_finRange_perm {n m : Nat} {partner : Fin n → Fin m}
    (h : Function.Bijective partner) :
    ((List.finRange n).map partner).Perm (List.finRange m) := by
  have hnodup := (List.nodup_finRange n).map h.injective
  rw [List.perm_ext_iff_of_nodup hnodup (List.nodup_finRange m)]
  intro j
  obtain ⟨i, rfl⟩ := h.surjective j
  exact iff_of_true (List.mem_map_of_mem (List.mem_finRange i)) (List.mem_finRange _)

section

variable {fits : α → β → Bool} {f : α → γ} {g : β → γ} {as : List α} {bs : List β}

theorem IsPairing.perm (hform : ∀ a b, fits a b = true ↔ f a = g b)
    {partner : Fin as.length → Fin bs.length} (h : IsPairing fits as bs partner) :
    (as.map f).Perm (bs.map g) := by
  have hforms : as.map f = ((List.finRange as.length).map partner).map fun j => g bs[j] := by
    rw [map_eq_map_finRange, List.map_map]
    exact List.map_congr_left fun i _ => (hform _ _).1 (h.fit i)
  rw [hforms, map_eq_map_finRange g bs]
  exact (map_finRange_perm h.bijective).map _

/-- A pairing exists exactly when the forms are the same up to order, and first fit finds
one then. -/
theorem exists_isPairing_iff_perm (hform : ∀ a b, fits a b = true ↔ f a = g b) :
    (∃ partner, IsPairing fits as bs partner) ↔ (as.map f).Perm (bs.map g) := by
  constructor
  · rintro ⟨partner, hpairing⟩
    exact hpairing.perm hform
  · intro hperm
    have hboth := (length_and_oneToOne_iff_perm hform).2 hperm
    rw [Bool.and_eq_true, decide_eq_true_eq] at hboth
    exact exists_isPairing hboth.1 hboth.2

end

/-! ## Agreement -/

theorem MirrorFees.entries_perm {m m' : MirrorFees} (hfixed : m'.fixed.Perm m.fixed)
    (hfractional : m'.fractional.Perm m.fractional) (hroyalty : m'.royalty.Perm m.royalty) :
    m'.entries.Perm m.entries :=
  ((hfixed.map _).append (hfractional.map _)).append (hroyalty.map _)

/-- The order in which either side names its fees does not matter. -/
theorem feesAgree_eq_of_perm {fees fees' : List CustomFee} {m m' : MirrorFees}
    (hfees : fees'.Perm fees) (hentries : m'.entries.Perm m.entries) :
    feesAgree fees' m' = feesAgree fees m := by
  have hleft := hfees.map fun f => some f.canonical
  have hright := hentries.map MirrorEntry.canonical
  rw [Bool.eq_iff_iff, feesAgree_iff_perm, feesAgree_iff_perm]
  constructor
  · intro hperm
    exact hleft.symm.trans (hperm.trans hright)
  · intro hperm
    exact hleft.trans (hperm.trans hright.symm)

/-- Both sides agree exactly when their fees can be paired one to one, so that first fit never
misses a pairing, and neither the order of the fees nor that of the lists of the mirror
matters. -/
theorem feesAgree_iff_exists_isPairing (fees : List CustomFee) (m : MirrorFees) :
    (feesAgree fees m = true ↔
      ∃ partner : Fin fees.length → Fin m.entries.length,
        IsPairing (fun f e => e.describes f) fees m.entries partner) ∧
      ∀ (fees' : List CustomFee) (m' : MirrorFees), fees'.Perm fees → m'.fixed.Perm m.fixed →
        m'.fractional.Perm m.fractional → m'.royalty.Perm m.royalty →
        feesAgree fees' m' = feesAgree fees m := by
  constructor
  · rw [feesAgree_iff_perm]
    exact (exists_isPairing_iff_perm MirrorEntry.describes_iff).symm
  · intro fees' m' hfees hfixed hfractional hroyalty
    exact feesAgree_eq_of_perm hfees (MirrorFees.entries_perm hfixed hfractional hroyalty)

/-- The report with the fixed fees the other way round. -/
def reportedOtherwise : MirrorFees :=
  { reportedFees with fixed := reportedFees.fixed.reverse }

theorem feesAgree_iff_exists_isPairing_of_reverse :
    (∃ partner, IsPairing (fun f e => MirrorEntry.describes e f) briefFees reportedFees.entries
        partner) ∧
      briefFees.reverse.Perm briefFees ∧ reportedOtherwise.fixed.Perm reportedFees.fixed ∧
        feesAgree briefFees.reverse reportedOtherwise = feesAgree briefFees reportedFees := by
  have hfees : briefFees.reverse.Perm briefFees := List.reverse_perm _
  have hfixed : reportedOtherwise.fixed.Perm reportedFees.fixed := List.reverse_perm _
  obtain ⟨hpairing, horder⟩ := feesAgree_iff_exists_isPairing briefFees reportedFees
  exact ⟨hpairing.1 (by decide), hfees, hfixed,
    horder briefFees.reverse reportedOtherwise hfees hfixed (.refl _) (.refl _)⟩

end Concord
