import Concord.Proofs.Fee.Canonical

/-!
# How the mirror indexes a schedule

The mirror puts each fee of a schedule into the list of its kind.  Nothing is lost by that:
the entry that a fee becomes has the canonical form of the fee (`MirrorEntry.canonical_ofFee`),
and the three lists together are the entries of all fees, if in an order of their own
(`MirrorFees.entries_ofFees_perm`).  So a schedule agrees with what the mirror makes of
another one exactly when the two have the same fees (`feesAgree_ofFees`).
-/

namespace Concord

/-! ## Single fees -/

namespace MirrorEntry

/-- The entry that the mirror makes of a fee of a token. -/
def ofFee (token : String) (f : CustomFee) : MirrorEntry :=
  match f.kind with
  | .fixed k => .fixed ⟨f.exempt, k.amount, some f.collector, k.denomination⟩
  | .fractional k =>
    .fractional ⟨f.exempt, ⟨k.numerator, k.denominator⟩, some f.collector, some token, k.maximum,
      k.minimum, k.assessment = .exclusive⟩
  | .royalty k =>
    .royalty ⟨f.exempt, ⟨k.numerator, k.denominator⟩, some f.collector,
      k.fallback.map fun b => ⟨b.amount, b.denomination⟩⟩

theorem kind_ofFee (token : String) (f : CustomFee) :
    (ofFee token f).kind = f.kind.canonical := by
  obtain ⟨collector, exempt, k⟩ := f
  cases k with
  | fixed k => rfl
  | fractional k =>
      obtain ⟨numerator, denominator, minimum, maximum, assessment⟩ := k
      cases assessment <;> rfl
  | royalty k =>
      obtain ⟨numerator, denominator, fallback⟩ := k
      cases fallback <;> rfl

theorem canonical_ofFee (token : String) (f : CustomFee) :
    (ofFee token f).canonical = some f.canonical := by
  have hcollector : (ofFee token f).collector = some f.collector := by
    obtain ⟨collector, exempt, k⟩ := f
    cases k <;> rfl
  have hexempt : (ofFee token f).exempt = f.exempt := by
    obtain ⟨collector, exempt, k⟩ := f
    cases k <;> rfl
  rw [canonical, hcollector, Option.map_some, hexempt, kind_ofFee]
  rfl

end MirrorEntry

/-! ## Whole schedules -/

/-- The lists of the mirror have the entries of all fees, each as often as it comes. -/
theorem MirrorFees.entries_ofFees_perm (token : String) (fees : List CustomFee) :
    (ofFees token fees).entries.Perm (fees.map (MirrorEntry.ofFee token)) := by
  induction fees with
  | nil => exact .refl []
  | cons f fees ih =>
      obtain ⟨collector, exempt, k⟩ := f
      -- The entry of the first fee stands in front of the list of its kind, behind the lists
      -- of the kinds before it.
      cases k with
      | fixed k => exact ih.cons _
      | fractional k => exact (List.perm_middle.append_right _).trans (ih.cons _)
      | royalty k => exact List.perm_middle.trans (ih.cons _)

theorem MirrorFees.canonical_entries_ofFees (token : String) (fees : List CustomFee) :
    ((ofFees token fees).entries.map MirrorEntry.canonical).Perm
      (fees.map fun f => some f.canonical) := by
  have hperm := (entries_ofFees_perm token fees).map MirrorEntry.canonical
  have hforms : (fees.map (MirrorEntry.ofFee token)).map MirrorEntry.canonical
      = fees.map fun f => some f.canonical := by
    rw [List.map_map]
    exact List.map_congr_left fun f _ => MirrorEntry.canonical_ofFee token f
  rwa [hforms] at hperm

/-- A schedule agrees with what the mirror makes of another one exactly when the two have the
same fees.  So every schedule agrees with what the mirror makes of it. -/
theorem feesAgree_ofFees (token : String) (as bs : List CustomFee) :
    feesAgree as (MirrorFees.ofFees token bs) = sameFees as bs ∧
      feesAgree bs (MirrorFees.ofFees token bs) = true := by
  have hindexed := MirrorFees.canonical_entries_ofFees token bs
  constructor
  · rw [Bool.eq_iff_iff, feesAgree_iff_perm, sameFees_iff_perm_some]
    constructor
    · intro hperm
      exact hperm.trans hindexed
    · intro hperm
      exact hperm.trans hindexed.symm
  · exact feesAgree_iff_perm.2 hindexed.symm

/-- The order of the kinds, the order within them and the ways of writing all change. -/
example : feesAgree briefFees (MirrorFees.ofFees "0.0.1234" verboseFees) = true := by decide

end Concord
