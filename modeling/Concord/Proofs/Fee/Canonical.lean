import Concord.Proofs.Fee.FirstFit
import Mathlib.Data.List.Perm.Basic

/-!
# Schedules as lists of canonical fees

A fee of either side comes down to a canonical form, if the mirror names its collector.
So two schedules have the same fees, and both sides have the same fees, exactly when the
canonical forms are the same up to order (`sameFees_iff_perm`, `feesAgree_iff_perm`).  That
the two comparisons go together follows (`sameFees_feesAgree_coherent`).
-/

namespace Concord

/-! ## The canonical form of what the mirror reports -/

namespace MirrorEntry

/-- The kind of a fee in canonical form. -/
def kind : MirrorEntry → FeeKind
  | .fixed m => .fixed ⟨m.amount, denominationOf m.denomination⟩
  | .fractional m =>
    .fractional ⟨m.amount.numerator, m.amount.denominator, m.minimum, boundOf m.maximum,
      if m.netOfTransfers then .exclusive else .inclusive⟩
  | .royalty m =>
    .royalty ⟨m.amount.numerator, m.amount.denominator,
      m.fallback.map fun f => ⟨f.amount, denominationOf f.denomination⟩⟩

/-- The fee that is reported in canonical form, if its collector is named. -/
def canonical (m : MirrorEntry) : Option CustomFee :=
  m.collector.map fun collector => ⟨collector, m.exempt, m.kind⟩

theorem sameFallback_iff {m : Option MirrorFallbackFee} {f : Option FixedFee} :
    sameFallback m f = true ↔
      m.map (fun f => (⟨f.amount, denominationOf f.denomination⟩ : FixedFee))
        = f.map FixedFee.canonical := by
  cases m with
  | none => cases f <;> simp [sameFallback]
  | some m => cases f <;> simp [sameFallback, FixedFee.canonical]

theorem sameKind_iff {m : MirrorEntry} {k : FeeKind} :
    m.sameKind k = true ↔ m.kind = k.canonical := by
  cases m with
  | fixed m => cases k <;> simp [sameKind, kind, FeeKind.canonical, FixedFee.canonical]
  | fractional m =>
      cases k with
      | fixed f => simp [sameKind, kind, FeeKind.canonical]
      | royalty f => simp [sameKind, kind, FeeKind.canonical]
      | fractional f =>
          have hpays : m.netOfTransfers = decide (f.assessment = .exclusive) ↔
              (if m.netOfTransfers then Assessment.exclusive else .inclusive)
                = f.assessment := by
            cases m.netOfTransfers <;> cases f.assessment <;> decide
          simp only [sameKind, kind, FeeKind.canonical, Bool.and_eq_true, decide_eq_true_eq,
            hpays, FeeKind.fractional.injEq, FractionalFee.mk.injEq, and_assoc]
  | royalty m =>
      cases k <;> simp [sameKind, kind, FeeKind.canonical, sameFallback_iff, and_assoc]

theorem describes_iff (f : CustomFee) (m : MirrorEntry) :
    m.describes f = true ↔ some f.canonical = m.canonical := by
  cases hcollector : m.collector with
  | none => simp [describes, canonical, hcollector]
  | some collector =>
      simp only [describes, canonical, hcollector, Option.map_some, Bool.and_eq_true,
        decide_eq_true_eq, sameKind_iff, Option.some.injEq, CustomFee.canonical,
        CustomFee.mk.injEq, and_assoc]
      constructor
      · rintro ⟨hname, hexempt, hkind⟩
        exact ⟨hname.symm, hexempt.symm, hkind.symm⟩
      · rintro ⟨hname, hexempt, hkind⟩
        exact ⟨hname.symm, hexempt.symm, hkind.symm⟩

end MirrorEntry

/-! ## Comparisons as comparisons of forms -/

theorem CustomFee.same_iff (a b : CustomFee) : a.same b = true ↔ a.canonical = b.canonical := by
  rw [CustomFee.same, decide_eq_true_eq]

/-- Two schedules have the same fees when their canonical forms are the same up to
order. -/
theorem sameFees_iff_perm {as bs : List CustomFee} :
    sameFees as bs = true ↔ (as.map CustomFee.canonical).Perm (bs.map CustomFee.canonical) :=
  length_and_oneToOne_iff_perm CustomFee.same_iff

/-- Both sides have the same fees when the canonical forms are the same up to order. -/
theorem feesAgree_iff_perm {fees : List CustomFee} {m : MirrorFees} :
    feesAgree fees m = true ↔
      (fees.map fun f => some f.canonical).Perm (m.entries.map MirrorEntry.canonical) :=
  length_and_oneToOne_iff_perm MirrorEntry.describes_iff

/-- The canonical forms of two schedules compared as those of what a mirror reports. -/
theorem sameFees_iff_perm_some {as bs : List CustomFee} :
    sameFees as bs = true ↔
      (as.map fun f => some f.canonical).Perm (bs.map fun f => some f.canonical) := by
  have hsome : ∀ cs : List CustomFee,
      (cs.map fun f => some f.canonical) = (cs.map CustomFee.canonical).map some := by
    intro cs
    rw [List.map_map]
    rfl
  rw [sameFees_iff_perm, hsome, hsome, List.map_perm_map_iff fun _ _ => Option.some.inj]

/-! ## Both comparisons together -/

/-- The mirror agrees with a schedule when it agrees with another one of the same fees. -/
theorem feesAgree_iff_of_sameFees {as bs : List CustomFee} (h : sameFees as bs = true)
    (m : MirrorFees) : feesAgree as m = true ↔ feesAgree bs m = true := by
  have hperm := sameFees_iff_perm_some.1 h
  rw [feesAgree_iff_perm, feesAgree_iff_perm]
  constructor
  · intro hmirror
    exact hperm.symm.trans hmirror
  · intro hmirror
    exact hperm.trans hmirror

/-- Two schedules of the same fees agree with the same reports of a mirror, and two schedules
that agree with one report have the same fees. -/
theorem sameFees_feesAgree_coherent (as bs : List CustomFee) (m : MirrorFees) :
    (sameFees as bs = true → feesAgree as m = feesAgree bs m) ∧
      (feesAgree as m = true → feesAgree bs m = true → sameFees as bs = true) := by
  constructor
  · intro hsame
    exact Bool.eq_iff_iff.2 (feesAgree_iff_of_sameFees hsame m)
  · intro has hbs
    exact sameFees_iff_perm_some.2
      ((feesAgree_iff_perm.1 has).trans (feesAgree_iff_perm.1 hbs).symm)

/-- Fees of every kind, one of them twice, with nothing written that may be left out. -/
def briefFees : List CustomFee :=
  [⟨"0.0.5", false, .fixed ⟨1, none⟩⟩,
    ⟨"0.0.9", true, .fractional ⟨1, 10, 1, none, .exclusive⟩⟩,
    ⟨"0.0.5", false, .royalty ⟨1, 20, some ⟨3, none⟩⟩⟩,
    ⟨"0.0.5", false, .fixed ⟨1, none⟩⟩]

/-- The same fees in another order, with empty denominations and a maximum of zero. -/
def verboseFees : List CustomFee :=
  [⟨"0.0.5", false, .royalty ⟨1, 20, some ⟨3, some ""⟩⟩⟩,
    ⟨"0.0.5", false, .fixed ⟨1, some ""⟩⟩,
    ⟨"0.0.5", false, .fixed ⟨1, none⟩⟩,
    ⟨"0.0.9", true, .fractional ⟨1, 10, 1, some 0, .exclusive⟩⟩]

/-- The same fees as a mirror reports them. -/
def reportedFees : MirrorFees :=
  ⟨some "1700000000.000000001",
    [⟨false, 1, some "0.0.5", some ""⟩, ⟨false, 1, some "0.0.5", none⟩],
    [⟨true, ⟨1, 10⟩, some "0.0.9", some "0.0.1234", some 0, 1, true⟩],
    [⟨false, ⟨1, 20⟩, some "0.0.5", some ⟨3, some ""⟩⟩]⟩

theorem sameFees_feesAgree_coherent_of_brief :
    (sameFees briefFees verboseFees = true ∧
        feesAgree briefFees reportedFees = feesAgree verboseFees reportedFees) ∧
      feesAgree briefFees reportedFees = true ∧ feesAgree verboseFees reportedFees = true ∧
        sameFees briefFees verboseFees = true := by
  have hsame : sameFees briefFees verboseFees = true := by decide
  have hbrief : feesAgree briefFees reportedFees = true := by decide
  have hverbose : feesAgree verboseFees reportedFees = true := by decide
  obtain ⟨hagree, hcommon⟩ := sameFees_feesAgree_coherent briefFees verboseFees reportedFees
  exact ⟨⟨hsame, hagree hsame⟩, hbrief, hverbose, hcommon hbrief hverbose⟩

end Concord
