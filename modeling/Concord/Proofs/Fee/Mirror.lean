import Concord.Fee.Mirror
import Concord.Proofs.Fee.Json
import Concord.Proofs.Json.Exact

/-!
# Reading fees back, on both sides

The fees that the mirror reports are read as they were written (`MirrorFees.ofJson_toJson`), like
the fees of the consensus side.  There all members are written, `null` for what is absent, and
amounts are numbers, where the consensus side leaves members out and writes amounts as texts.

What is written on either side is exact in the sense of `Exact`, so that its text is read as the
fees as well, whatever texts and amounts they hold (`fees_round_trip`).
-/

namespace Concord

open Json Fee

/-! ## Fees of the mirror -/

namespace Fraction

/-- The members of a fraction. -/
def fields (f : Fraction) : Members :=
  [("numerator", .int64 f.numerator), ("denominator", .int64 f.denominator)]

theorem ofJson_toJson (f : Fraction) : ofJson f.toJson = .ok f := by
  have hnumerator : numeratorField.Holds f.fields f.numerator :=
    .present rfl (readInt64_int64 f.numerator)
  have hdenominator : denominatorField.Holds f.fields f.denominator :=
    .present rfl (readInt64_int64 f.denominator)
  have hchecks : [numeratorField.toCheck, denominatorField.toCheck].Forall (·.Passes f.fields) :=
    ⟨hnumerator.passes, hdenominator.passes⟩
  have hnodup : (f.fields.map Prod.fst).Nodup := by simp [fields]
  show readRecord _ _ _ _ (.object f.fields) = _
  rw [readRecord_object hnodup hchecks, hnumerator.get hnodup, hdenominator.get hnodup]
  rfl

end Fraction

namespace MirrorFixedFee

/-- The members of a fixed amount. -/
def fields (f : MirrorFixedFee) : Members :=
  [("all_collectors_are_exempt", .bool f.exempt), ("amount", .int64 f.amount),
    ("collector_account_id", .ofText? f.collector),
    ("denominating_token_id", .ofText? f.denomination)]

theorem ofJson_toJson (f : MirrorFixedFee) : ofJson f.toJson = .ok f := by
  have hexempt : mirrorExemptField.Holds f.fields f.exempt := .present rfl rfl
  have hamount : mirrorAmountField.Holds f.fields f.amount :=
    .present rfl (readInt64_int64 f.amount)
  have hcollector : mirrorCollectorField.Holds f.fields f.collector :=
    .present rfl (readOption_ofText? f.collector)
  have hdenomination : mirrorDenominationField.Holds f.fields f.denomination :=
    .present rfl (readOption_ofText? f.denomination)
  have hchecks : [mirrorExemptField.toCheck, mirrorAmountField.toCheck,
      mirrorCollectorField.toCheck, mirrorDenominationField.toCheck].Forall
        (·.Passes f.fields) :=
    ⟨hexempt.passes, hamount.passes, hcollector.passes, hdenomination.passes⟩
  have hnodup : (f.fields.map Prod.fst).Nodup := by simp [fields]
  show readRecord _ _ _ _ (.object f.fields) = _
  rw [readRecord_object hnodup hchecks, hexempt.get hnodup, hamount.get hnodup,
    hcollector.get hnodup, hdenomination.get hnodup]
  rfl

end MirrorFixedFee

namespace MirrorFractionalFee

/-- The members of a fraction of what is transferred. -/
def fields (f : MirrorFractionalFee) : Members :=
  [("all_collectors_are_exempt", .bool f.exempt), ("amount", f.amount.toJson),
    ("collector_account_id", .ofText? f.collector),
    ("denominating_token_id", .ofText? f.denomination),
    ("maximum", .ofOption (f.maximum.map .int64)), ("minimum", .int64 f.minimum),
    ("net_of_transfers", .bool f.netOfTransfers)]

theorem ofJson_toJson (f : MirrorFractionalFee) : ofJson f.toJson = .ok f := by
  have hexempt : mirrorExemptField.Holds f.fields f.exempt := .present rfl rfl
  have hamount : fractionField.Holds f.fields f.amount := .present rfl f.amount.ofJson_toJson
  have hcollector : mirrorCollectorField.Holds f.fields f.collector :=
    .present rfl (readOption_ofText? f.collector)
  have hdenomination : mirrorDenominationField.Holds f.fields f.denomination :=
    .present rfl (readOption_ofText? f.denomination)
  have hmaximum : maximumField.Holds f.fields f.maximum :=
    .present rfl (readOption_ofOption (fun n h => by cases h) readInt64_int64 f.maximum)
  have hminimum : minimumField.Holds f.fields f.minimum :=
    .present rfl (readInt64_int64 f.minimum)
  have hnet : netField.Holds f.fields f.netOfTransfers := .present rfl rfl
  have hchecks : [mirrorExemptField.toCheck, fractionField.toCheck, mirrorCollectorField.toCheck,
      mirrorDenominationField.toCheck, maximumField.toCheck, minimumField.toCheck,
      netField.toCheck].Forall (·.Passes f.fields) :=
    ⟨hexempt.passes, hamount.passes, hcollector.passes, hdenomination.passes, hmaximum.passes,
      hminimum.passes, hnet.passes⟩
  have hnodup : (f.fields.map Prod.fst).Nodup := by simp [fields]
  show readRecord _ _ _ _ (.object f.fields) = _
  rw [readRecord_object hnodup hchecks, hexempt.get hnodup, hamount.get hnodup,
    hcollector.get hnodup, hdenomination.get hnodup, hmaximum.get hnodup, hminimum.get hnodup,
    hnet.get hnodup]
  rfl

end MirrorFractionalFee

namespace MirrorFallbackFee

/-- The members of what is paid when nothing is exchanged. -/
def fields (f : MirrorFallbackFee) : Members :=
  [("amount", .int64 f.amount), ("denominating_token_id", .ofText? f.denomination)]

theorem ofJson_toJson (f : MirrorFallbackFee) : ofJson f.toJson = .ok f := by
  have hamount : mirrorAmountField.Holds f.fields f.amount :=
    .present rfl (readInt64_int64 f.amount)
  have hdenomination : mirrorDenominationField.Holds f.fields f.denomination :=
    .present rfl (readOption_ofText? f.denomination)
  have hchecks : [mirrorAmountField.toCheck, mirrorDenominationField.toCheck].Forall
      (·.Passes f.fields) :=
    ⟨hamount.passes, hdenomination.passes⟩
  have hnodup : (f.fields.map Prod.fst).Nodup := by simp [fields]
  show readRecord _ _ _ _ (.object f.fields) = _
  rw [readRecord_object hnodup hchecks, hamount.get hnodup, hdenomination.get hnodup]
  rfl

end MirrorFallbackFee

namespace MirrorRoyaltyFee

/-- The members of a fraction of what is exchanged. -/
def fields (f : MirrorRoyaltyFee) : Members :=
  [("all_collectors_are_exempt", .bool f.exempt), ("amount", f.amount.toJson),
    ("collector_account_id", .ofText? f.collector),
    ("fallback_fee", .ofOption (f.fallback.map MirrorFallbackFee.toJson))]

theorem ofJson_toJson (f : MirrorRoyaltyFee) : ofJson f.toJson = .ok f := by
  have hexempt : mirrorExemptField.Holds f.fields f.exempt := .present rfl rfl
  have hamount : fractionField.Holds f.fields f.amount := .present rfl f.amount.ofJson_toJson
  have hcollector : mirrorCollectorField.Holds f.fields f.collector :=
    .present rfl (readOption_ofText? f.collector)
  have hfallback : fallbackField.Holds f.fields f.fallback :=
    .present rfl (readOption_ofOption (fun b h => by cases h) MirrorFallbackFee.ofJson_toJson
      f.fallback)
  have hchecks : [mirrorExemptField.toCheck, fractionField.toCheck, mirrorCollectorField.toCheck,
      fallbackField.toCheck].Forall (·.Passes f.fields) :=
    ⟨hexempt.passes, hamount.passes, hcollector.passes, hfallback.passes⟩
  have hnodup : (f.fields.map Prod.fst).Nodup := by simp [fields]
  show readRecord _ _ _ _ (.object f.fields) = _
  rw [readRecord_object hnodup hchecks, hexempt.get hnodup, hamount.get hnodup,
    hcollector.get hnodup, hfallback.get hnodup]
  rfl

end MirrorRoyaltyFee

namespace MirrorFees

/-- The members of a schedule. -/
def fields (m : MirrorFees) : Members :=
  [("created_timestamp", .ofText? m.createdAt),
    ("fixed_fees", .arr (m.fixed.map MirrorFixedFee.toJson)),
    ("fractional_fees", .arr (m.fractional.map MirrorFractionalFee.toJson)),
    ("royalty_fees", .arr (m.royalty.map MirrorRoyaltyFee.toJson))]

/-- A schedule of the mirror is read as it was written. -/
theorem ofJson_toJson (m : MirrorFees) : ofJson m.toJson = .ok m := by
  have hcreated : createdField.Holds m.fields m.createdAt :=
    .present rfl (readOption_ofText? m.createdAt)
  have hfixed : fixedField.Holds m.fields m.fixed :=
    .present rfl (readList_map MirrorFixedFee.ofJson_toJson m.fixed)
  have hfractional : fractionalField.Holds m.fields m.fractional :=
    .present rfl (readList_map MirrorFractionalFee.ofJson_toJson m.fractional)
  have hroyalty : royaltyField.Holds m.fields m.royalty :=
    .present rfl (readList_map MirrorRoyaltyFee.ofJson_toJson m.royalty)
  have hchecks : [createdField.toCheck, fixedField.toCheck, fractionalField.toCheck,
      royaltyField.toCheck].Forall (·.Passes m.fields) :=
    ⟨hcreated.passes, hfixed.passes, hfractional.passes, hroyalty.passes⟩
  have hnodup : (m.fields.map Prod.fst).Nodup := by simp [fields]
  show readRecord _ _ _ _ (.object m.fields) = _
  rw [readRecord_object hnodup hchecks, hcreated.get hnodup, hfixed.get hnodup,
    hfractional.get hnodup, hroyalty.get hnodup]
  rfl

end MirrorFees

/-! ## The texts of fees -/

section

variable {depth : Nat}

theorem exact_amountJson (n : Int64) : Exact depth (amountJson n) := .str _

theorem FixedFee.exact_toJson (f : FixedFee) : Exact (depth + 1) f.toJson :=
  exact_object (List.forall_append.2
    ⟨exact_amountJson f.amount,
      exact_optionalMember .str "denominatingTokenId" f.denomination⟩)

theorem FractionalFee.exact_toJson (f : FractionalFee) : Exact (depth + 1) f.toJson := by
  refine exact_object (List.forall_append.2 ⟨List.forall_append.2 ⟨?_, ?_⟩, .str _⟩)
  · exact ⟨exact_amountJson f.numerator, exact_amountJson f.denominator,
      exact_amountJson f.minimum⟩
  · exact exact_optionalMember exact_amountJson "maximumAmount" f.maximum

theorem RoyaltyFee.exact_toJson (f : RoyaltyFee) : Exact (depth + 2) f.toJson := by
  refine exact_object (List.forall_append.2 ⟨?_, ?_⟩)
  · exact ⟨exact_amountJson f.numerator, exact_amountJson f.denominator⟩
  · exact exact_optionalMember FixedFee.exact_toJson "fallbackFee" f.fallback

theorem FeeKind.exact_toJson (k : FeeKind) : Exact (depth + 2) k.toJson := by
  cases k with
  | fixed f => exact f.exact_toJson
  | fractional f => exact f.exact_toJson
  | royalty f => exact f.exact_toJson

theorem CustomFee.exact_toJson (f : CustomFee) : Exact (depth + 3) f.toJson :=
  exact_object ⟨.str f.collector, .bool f.exempt, f.kind.exact_toJson⟩

theorem Fraction.exact_toJson (f : Fraction) : Exact (depth + 1) f.toJson :=
  exact_object ⟨exact_int64 f.numerator, exact_int64 f.denominator⟩

theorem MirrorFixedFee.exact_toJson (f : MirrorFixedFee) : Exact (depth + 1) f.toJson :=
  exact_object ⟨.bool f.exempt, exact_int64 f.amount, exact_ofText? f.collector,
    exact_ofText? f.denomination⟩

theorem MirrorFractionalFee.exact_toJson (f : MirrorFractionalFee) :
    Exact (depth + 2) f.toJson :=
  exact_object ⟨.bool f.exempt, f.amount.exact_toJson, exact_ofText? f.collector,
    exact_ofText? f.denomination, exact_ofOption exact_int64 f.maximum, exact_int64 f.minimum,
    .bool f.netOfTransfers⟩

theorem MirrorFallbackFee.exact_toJson (f : MirrorFallbackFee) : Exact (depth + 1) f.toJson :=
  exact_object ⟨exact_int64 f.amount, exact_ofText? f.denomination⟩

theorem MirrorRoyaltyFee.exact_toJson (f : MirrorRoyaltyFee) : Exact (depth + 2) f.toJson :=
  exact_object ⟨.bool f.exempt, f.amount.exact_toJson, exact_ofText? f.collector,
    exact_ofOption MirrorFallbackFee.exact_toJson f.fallback⟩

theorem MirrorFees.exact_toJson (m : MirrorFees) : Exact (depth + 4) m.toJson :=
  exact_object ⟨exact_ofText? m.createdAt, exact_arr_map MirrorFixedFee.exact_toJson m.fixed,
    exact_arr_map MirrorFractionalFee.exact_toJson m.fractional,
    exact_arr_map MirrorRoyaltyFee.exact_toJson m.royalty⟩

end

/-- Fees are read as they were written, from the value and from its text, on the consensus side
and on that of the mirror. -/
theorem fees_round_trip :
    (∀ f : CustomFee, CustomFee.ofJson f.toJson = .ok f ∧
      (Json.parse usualDepth f.toJson.compact).map CustomFee.ofJson = some (.ok f)) ∧
    ∀ m : MirrorFees, MirrorFees.ofJson m.toJson = .ok m ∧
      (Json.parse usualDepth m.toJson.compact).map MirrorFees.ofJson = some (.ok m) := by
  refine ⟨fun f => ⟨f.ofJson_toJson, ?_⟩, fun m => ⟨m.ofJson_toJson, ?_⟩⟩
  · have hexact : Exact usualDepth f.toJson := f.exact_toJson
    rw [hexact.parse_compact, Option.map_some, f.ofJson_toJson]
  · have hexact : Exact usualDepth m.toJson := m.exact_toJson
    rw [hexact.parse_compact, Option.map_some, m.ofJson_toJson]

end Concord
