import Concord.Proofs.Fee.Canonical
import Mathlib.Logic.Relation

/-!
# Schedules as multisets

Two ways of writing mean the same in two places: an empty denomination and none, wherever a
fixed amount is written, and a maximum of zero and none (`CustomFee.Respelled`).  The canonical
form forgets these ways of writing and nothing else: fees have one canonical form exactly when
one can be rewritten into the other (`CustomFee.canonical_eq_iff`).

So a schedule is a multiset of fees up to their ways of writing, and `sameFees` compares
schedules as such multisets (`sameFees_multiset`).  The two schedules play different parts in the
search behind it, but none in its outcome.
-/

namespace Concord

/-! ## Ways of writing a fee -/

/-- The denomination of a fixed amount is written and empty, or left out. -/
inductive FixedFee.Respelled : FixedFee → FixedFee → Prop where
  | native {amount} : Respelled ⟨amount, some ""⟩ ⟨amount, none⟩

/-- A fee is written with something that may be left out, or without it. -/
inductive CustomFee.Respelled : CustomFee → CustomFee → Prop where
  /-- The amount is in the native currency. -/
  | fixed {collector exempt f g} (h : FixedFee.Respelled f g) :
      Respelled ⟨collector, exempt, .fixed f⟩ ⟨collector, exempt, .fixed g⟩
  /-- What is paid has no greatest amount. -/
  | unbounded {collector exempt numerator denominator minimum assessment} :
      Respelled
        ⟨collector, exempt, .fractional ⟨numerator, denominator, minimum, some 0, assessment⟩⟩
        ⟨collector, exempt, .fractional ⟨numerator, denominator, minimum, none, assessment⟩⟩
  /-- What is paid when nothing is exchanged is in the native currency. -/
  | fallback {collector exempt numerator denominator f g} (h : FixedFee.Respelled f g) :
      Respelled ⟨collector, exempt, .royalty ⟨numerator, denominator, some f⟩⟩
        ⟨collector, exempt, .royalty ⟨numerator, denominator, some g⟩⟩

theorem FixedFee.Respelled.canonical_eq {f g : FixedFee} (h : f.Respelled g) :
    f.canonical = g.canonical := by
  cases h
  rfl

theorem CustomFee.Respelled.canonical_eq {a b : CustomFee} (h : a.Respelled b) :
    a.canonical = b.canonical := by
  cases h with
  | fixed h => simp [canonical, FeeKind.canonical, h.canonical_eq]
  | unbounded => rfl
  | fallback h => simp [canonical, FeeKind.canonical, h.canonical_eq]

theorem FixedFee.canonical_eq_or_respelled (f : FixedFee) :
    f.canonical = f ∨ f.Respelled f.canonical := by
  obtain ⟨amount, denomination⟩ := f
  cases denomination with
  | none => exact Or.inl rfl
  | some s =>
      by_cases hs : s = ""
      · subst hs
        exact Or.inr .native
      · exact Or.inl (by simp [canonical, denominationOf, hs])

/-- The canonical form leaves out at most one thing. -/
theorem CustomFee.canonical_eq_or_respelled (a : CustomFee) :
    a.canonical = a ∨ a.Respelled a.canonical := by
  obtain ⟨collector, exempt, kind⟩ := a
  cases kind with
  | fixed f =>
      rcases f.canonical_eq_or_respelled with h | h
      · exact Or.inl (by simp [canonical, FeeKind.canonical, h])
      · exact Or.inr (.fixed h)
  | fractional f =>
      obtain ⟨numerator, denominator, minimum, maximum, assessment⟩ := f
      cases maximum with
      | none => exact Or.inl rfl
      | some n =>
          by_cases hn : n = 0
          · subst hn
            exact Or.inr .unbounded
          · exact Or.inl (by simp [canonical, FeeKind.canonical, boundOf, hn])
  | royalty f =>
      obtain ⟨numerator, denominator, fallback⟩ := f
      cases fallback with
      | none => exact Or.inl rfl
      | some g =>
          rcases g.canonical_eq_or_respelled with h | h
          · exact Or.inl (by simp [canonical, FeeKind.canonical, h])
          · exact Or.inr (.fallback h)

/-- Fees have one canonical form exactly when one can be rewritten into the other. -/
theorem CustomFee.canonical_eq_iff {a b : CustomFee} :
    a.canonical = b.canonical ↔ Relation.EqvGen Respelled a b := by
  have hcanonical : ∀ c : CustomFee, Relation.EqvGen Respelled c c.canonical := by
    intro c
    rcases c.canonical_eq_or_respelled with h | h
    · rw [h]
      exact .refl c
    · exact .rel _ _ h
  constructor
  · intro h
    have hb := hcanonical b
    rw [← h] at hb
    exact .trans _ _ _ (hcanonical a) (.symm _ _ hb)
  · intro h
    induction h with
    | rel a b h => exact h.canonical_eq
    | refl a => rfl
    | symm a b _ ih => exact ih.symm
    | trans a b c _ _ hab hbc => exact hab.trans hbc

/-! ## Schedules -/

theorem sameFees_equivalence : Equivalence fun as bs : List CustomFee => sameFees as bs = true where
  refl _ := sameFees_iff_perm.2 (.refl _)
  symm h := sameFees_iff_perm.2 (sameFees_iff_perm.1 h).symm
  trans hab hbc := sameFees_iff_perm.2 ((sameFees_iff_perm.1 hab).trans (sameFees_iff_perm.1 hbc))

/-- The order in which either schedule names its fees does not matter. -/
theorem sameFees_eq_of_perm {as as' bs bs' : List CustomFee} (has : as'.Perm as)
    (hbs : bs'.Perm bs) : sameFees as' bs' = sameFees as bs := by
  rw [Bool.eq_iff_iff, sameFees_iff_perm, sameFees_iff_perm]
  exact ((has.map CustomFee.canonical).congr_left _).trans
    ((hbs.map CustomFee.canonical).congr_right _)

theorem countP_same (f : CustomFee) (as : List CustomFee) :
    as.countP f.same = (as.map CustomFee.canonical).count f.canonical := by
  rw [List.count_eq_countP, List.countP_map]
  refine List.countP_congr fun g _ => ?_
  rw [CustomFee.same_iff, Function.comp_apply, beq_iff_eq, eq_comm]

/-- Schedules have the same fees exactly when every fee is in one as often as in the other. -/
theorem sameFees_iff_countP {as bs : List CustomFee} :
    sameFees as bs = true ↔ ∀ f : CustomFee, as.countP f.same = bs.countP f.same := by
  rw [sameFees_iff_perm, List.perm_iff_count]
  simp only [countP_same]
  constructor
  · intro h f
    exact h f.canonical
  · intro h c
    by_cases hc : ∃ f : CustomFee, f.canonical = c
    · obtain ⟨f, rfl⟩ := hc
      exact h f
    · -- What is the canonical form of no fee is in neither list.
      have hnone : ∀ cs : List CustomFee, (cs.map CustomFee.canonical).count c = 0 := by
        intro cs
        refine List.count_eq_zero.2 fun hmem => hc ?_
        obtain ⟨f, -, hf⟩ := List.mem_map.1 hmem
        exact ⟨f, hf⟩
      rw [hnone, hnone]

/-- Schedules are compared as multisets of fees up to their ways of writing: the fees of one are
searched for in the other, and what is found is marked.  So schedules have the same fees when each
fee is in both equally often, and neither their sides nor their orders matter. -/
theorem sameFees_multiset :
    (∀ as bs, sameFees as bs
      = (decide (as.length = bs.length) &&
        markEach CustomFee.same as (bs.map fun b => (b, false)))) ∧
    (∀ as bs, sameFees as bs = true ↔
      (as.map CustomFee.canonical).Perm (bs.map CustomFee.canonical)) ∧
    (∀ a b : CustomFee, a.canonical = b.canonical ↔
      Relation.EqvGen CustomFee.Respelled a b) ∧
    (Equivalence fun as bs => sameFees as bs = true) ∧
    (∀ as bs as' bs', as'.Perm as → bs'.Perm bs → sameFees as' bs' = sameFees as bs) ∧
    ∀ as bs, sameFees as bs = true ↔ ∀ f : CustomFee, as.countP f.same = bs.countP f.same := by
  refine ⟨?_, fun as bs => sameFees_iff_perm, fun a b => CustomFee.canonical_eq_iff,
    sameFees_equivalence, fun as bs as' bs' => sameFees_eq_of_perm,
    fun as bs => sameFees_iff_countP⟩
  intro as bs
  rw [sameFees, oneToOne_eq_markEach]

theorem sameFees_multiset_of_reverse :
    briefFees.reverse.Perm briefFees ∧ verboseFees.reverse.Perm verboseFees ∧
      sameFees briefFees.reverse verboseFees.reverse = sameFees briefFees verboseFees ∧
      sameFees verboseFees briefFees = true := by
  have hbrief : briefFees.reverse.Perm briefFees := List.reverse_perm _
  have hverbose : verboseFees.reverse.Perm verboseFees := List.reverse_perm _
  obtain ⟨-, -, -, hequivalence, horder, -⟩ := sameFees_multiset
  exact ⟨hbrief, hverbose, horder _ _ _ _ hbrief hverbose, hequivalence.symm (by decide)⟩

end Concord
