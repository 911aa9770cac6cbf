import Concord.Fee.Custom
import Concord.Proofs.Json.Record
import Concord.Proofs.Text.Numeral

/-!
# Reading custom fees back

A custom fee is read as it was written (`CustomFee.ofJson_toJson`), and so is a schedule of
them (`readList_customFees`).  Amounts are written as texts and keep all their digits
(`readAmount_amountJson`).
-/

namespace Concord

open Json Text Fee

/-! ## Amounts -/

theorem readAmount_amountJson (n : Int64) : readAmount (amountJson n) = .ok n := by
  have hparse : parseAmount (decimalInt n.toInt) = .ok n := by
    rw [parseAmount, decimalInt, String.toList_ofList, trimBlanks_intDigits, readInt64_intDigits]
    show Except.ok (Int64.ofInt n.toInt) = _
    rw [Int64.ofInt_toInt]
  rw [amountJson, readAmount, hparse]

theorem readOption_amountJson (n : Int64) :
    readOption readAmount (amountJson n) = .ok (some n) :=
  readOption_of_read (by simp [amountJson]) (readAmount_amountJson n)

/-- A field of an amount holds the amount that is written there. -/
theorem holds_amountJson {f : RecordField Int64} {pairs : Members} {n : Int64}
    (hread : f.read = readAmount) (hget : pairs.get? f.name = some (amountJson n)) :
    f.Holds pairs n := by
  refine .present hget ?_
  rw [hread, readAmount_amountJson]

/-! ## Kinds of fee -/

namespace FixedFee

/-- The members of a fixed amount. -/
def fields (f : FixedFee) : Members :=
  ("amount", amountJson f.amount) :: optionalMember "denominatingTokenId" (f.denomination.map .str)

theorem nodup_fields (f : FixedFee) : (f.fields.map Prod.fst).Nodup := by
  rw [fields]
  cases f.denomination <;> simp [optionalMember]

theorem ofJson_toJson (f : FixedFee) : ofJson f.toJson = .ok f := by
  have hamount : amountField.Holds f.fields f.amount := holds_amountJson rfl rfl
  have hget : f.fields.get? denominationField.name = f.denomination.map .str := by
    simp [fields, denominationField, Members.get?_cons, Members.get?_optionalMember]
  have hdenomination : denominationField.Holds f.fields f.denomination :=
    .optional_self rfl hget fun s => rfl
  have hchecks : [amountField.toCheck, denominationField.toCheck].Forall (·.Passes f.fields) :=
    ⟨hamount.passes, hdenomination.passes⟩
  have hnodup := f.nodup_fields
  show readRecord _ _ _ _ (.object f.fields) = _
  rw [readRecord_object hnodup hchecks, hamount.get hnodup, hdenomination.get hnodup]
  rfl

theorem readOption_toJson (f : FixedFee) : readOption ofJson f.toJson = .ok (some f) := by
  have hobject : f.toJson ≠ .null := fun h => by cases h
  exact readOption_of_read hobject f.ofJson_toJson

end FixedFee

theorem Assessment.ofJson_name (a : Assessment) : ofJson (.str a.name) = .ok a := by
  cases a <;> rfl

namespace FractionalFee

/-- The members of a fraction of what is transferred. -/
def fields (f : FractionalFee) : Members :=
  ("numerator", amountJson f.numerator) :: ("denominator", amountJson f.denominator) ::
    ("minimumAmount", amountJson f.minimum) ::
      (optionalMember "maximumAmount" (f.maximum.map amountJson) ++
        [("assessmentMethod", .str f.assessment.name)])

theorem nodup_fields (f : FractionalFee) : (f.fields.map Prod.fst).Nodup := by
  rw [fields]
  cases f.maximum <;> simp [optionalMember]

theorem ofJson_toJson (f : FractionalFee) : ofJson f.toJson = .ok f := by
  have hnumerator : numeratorField.Holds f.fields f.numerator := holds_amountJson rfl rfl
  have hdenominator : denominatorField.Holds f.fields f.denominator := holds_amountJson rfl rfl
  have hminimum : minimumField.Holds f.fields f.minimum := holds_amountJson rfl rfl
  have hget : f.fields.get? maximumField.name = f.maximum.map amountJson := by
    simp [fields, maximumField, Members.get?_cons, Members.get?_append,
      Members.get?_optionalMember]
  have hread (n : Int64) : maximumField.read (amountJson n) = .ok (some n) := by
    simp only [maximumField, readOption_amountJson]
  have hmaximum : maximumField.Holds f.fields f.maximum := .optional_self rfl hget hread
  have hname : f.fields.get? assessmentField.name = some (.str f.assessment.name) := by
    simp [fields, assessmentField, Members.get?_cons, Members.get?_append,
      Members.get?_optionalMember]
  have hassessment : assessmentField.Holds f.fields f.assessment :=
    .present hname (Assessment.ofJson_name f.assessment)
  have hchecks : [numeratorField.toCheck, denominatorField.toCheck, minimumField.toCheck,
      maximumField.toCheck, assessmentField.toCheck].Forall (·.Passes f.fields) :=
    ⟨hnumerator.passes, hdenominator.passes, hminimum.passes, hmaximum.passes,
      hassessment.passes⟩
  have hobject : f.toJson = .object f.fields := by
    rw [toJson, fields]
    cases f.maximum <;> rfl
  have hnodup := f.nodup_fields
  rw [hobject, ofJson, readRecord_object hnodup hchecks, hnumerator.get hnodup,
    hdenominator.get hnodup, hminimum.get hnodup, hmaximum.get hnodup, hassessment.get hnodup]
  rfl

end FractionalFee

namespace RoyaltyFee

/-- The members of a fraction of what is exchanged. -/
def fields (f : RoyaltyFee) : Members :=
  ("numerator", amountJson f.numerator) :: ("denominator", amountJson f.denominator) ::
    optionalMember "fallbackFee" (f.fallback.map FixedFee.toJson)

theorem nodup_fields (f : RoyaltyFee) : (f.fields.map Prod.fst).Nodup := by
  rw [fields]
  cases f.fallback <;> simp [optionalMember]

theorem ofJson_toJson (f : RoyaltyFee) : ofJson f.toJson = .ok f := by
  have hnumerator : numeratorField.Holds f.fields f.numerator := holds_amountJson rfl rfl
  have hdenominator : denominatorField.Holds f.fields f.denominator := holds_amountJson rfl rfl
  have hget : f.fields.get? fallbackField.name = f.fallback.map FixedFee.toJson := by
    simp [fields, fallbackField, Members.get?_cons, Members.get?_optionalMember]
  have hfallback : fallbackField.Holds f.fields f.fallback :=
    .optional_self rfl hget FixedFee.readOption_toJson
  have hchecks : [numeratorField.toCheck, denominatorField.toCheck,
      fallbackField.toCheck].Forall (·.Passes f.fields) :=
    ⟨hnumerator.passes, hdenominator.passes, hfallback.passes⟩
  have hnodup := f.nodup_fields
  show readRecord _ _ _ _ (.object f.fields) = _
  rw [readRecord_object hnodup hchecks, hnumerator.get hnodup, hdenominator.get hnodup,
    hfallback.get hnodup]
  rfl

end RoyaltyFee

/-! ## Fees -/

/-- A kind is read from the member that is named for it, wherever that stands. -/
theorem FeeKind.ofMembers_of_mem {ms : Members} {name : String} {v : Json}
    {read : Shape FeeKind} (hread : ofMember? name = some read) (hmem : (name, v) ∈ ms)
    (hothers : ∀ p ∈ ms, p = (name, v) ∨ ofMember? p.1 = none) : ofMembers ms = read v := by
  induction ms with
  | nil => exact absurd hmem List.not_mem_nil
  | cons p ms ih =>
      rcases hothers p List.mem_cons_self with rfl | hnone
      · rw [ofMembers, hread]
      · have hne : p ≠ (name, v) := by
          rintro rfl
          cases hread.symm.trans hnone
        rw [ofMembers, hnone]
        exact ih ((List.mem_cons.1 hmem).resolve_left hne.symm) fun q hq =>
          hothers q (List.mem_cons_of_mem p hq)

/-- The shape of a kind. -/
def FeeKind.shape : FeeKind → Shape FeeKind
  | .fixed _ => fun v => (FixedFee.ofJson v).map .fixed
  | .fractional _ => fun v => (FractionalFee.ofJson v).map .fractional
  | .royalty _ => fun v => (RoyaltyFee.ofJson v).map .royalty

theorem FeeKind.ofMember?_memberName (k : FeeKind) : ofMember? k.memberName = some k.shape := by
  cases k <;> rfl

theorem FeeKind.shape_toJson (k : FeeKind) : k.shape k.toJson = .ok k := by
  cases k with
  | fixed f => exact congrArg (Except.map FeeKind.fixed) f.ofJson_toJson
  | fractional f => exact congrArg (Except.map FeeKind.fractional) f.ofJson_toJson
  | royalty f => exact congrArg (Except.map FeeKind.royalty) f.ofJson_toJson

namespace CustomFee

/-- The members of a fee. -/
def fields (f : CustomFee) : Members :=
  [("feeCollectorAccountId", .str f.collector), ("feeCollectorsExempt", .bool f.exempt),
    (f.kind.memberName, f.kind.toJson)]

theorem nodup_fields (f : CustomFee) : (f.fields.map Prod.fst).Nodup := by
  rw [fields]
  cases f.kind <;> simp [FeeKind.memberName]

theorem ofMembers_fields (f : CustomFee) :
    FeeKind.ofMembers (Members.ofList f.fields) = .ok f.kind := by
  have hkind : (f.kind.memberName, f.kind.toJson) ∈ f.fields := by simp [fields]
  have hmem := Members.mem_ofList_of_mem f.nodup_fields hkind
  rw [FeeKind.ofMembers_of_mem f.kind.ofMember?_memberName hmem, f.kind.shape_toJson]
  intro p hp
  have hcases := Members.mem_ofList hp
  rw [fields, List.mem_cons, List.mem_cons, List.mem_singleton] at hcases
  rcases hcases with rfl | rfl | rfl
  · exact .inr rfl
  · exact .inr rfl
  · exact .inl rfl

/-- A custom fee is read as it was written. -/
theorem ofJson_toJson (f : CustomFee) : ofJson f.toJson = .ok f := by
  have hcollector : collectorField.Holds f.fields f.collector := .present rfl rfl
  have hexempt : exemptField.Holds f.fields f.exempt := .present rfl rfl
  have hchecks : [collectorField.toCheck, exemptField.toCheck].Forall (·.Passes f.fields) :=
    ⟨hcollector.passes, hexempt.passes⟩
  have hnodup := f.nodup_fields
  show ofJson (.obj (Members.ofList f.fields)) = _
  rw [ofJson, visitMembers_ofList hnodup hchecks, hcollector.get hnodup, hexempt.get hnodup,
    f.ofMembers_fields]
  rfl

end CustomFee

/-- A schedule of fees is read as it was written. -/
theorem readList_customFees (fees : List CustomFee) :
    readList CustomFee.ofJson (.arr (fees.map CustomFee.toJson)) = .ok fees :=
  readList_map CustomFee.ofJson_toJson fees

end Concord
