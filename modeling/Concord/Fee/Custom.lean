import Concord.Fee.Amount

/-!
# Custom fees

A custom fee is assessed when a token is transferred and goes to its collector.
There are three kinds: a fixed amount, a fraction of what is transferred within
bounds, and a royalty on what is exchanged, with a fixed amount to fall back on.

Two ways of writing mean the same: a maximum of zero and no maximum, an empty
denomination and none.  `CustomFee.canonical` chooses the second of each, so that
two fees describe the same fee when their canonical forms are equal.

In JSON the kind is a member beside the collector, named for the kind
(`FeeKind.memberName`).
-/

namespace Concord

open Json Text Fee

/-! ## Types -/

/-- A fixed amount. -/
structure FixedFee where
  /-- The amount in the least unit of the denomination. -/
  amount : Int64
  /-- The token it is paid in, if it is not the native currency. -/
  denomination : Option String
  deriving Repr, DecidableEq

/-- Who pays a fraction. -/
inductive Assessment where
  /-- It is deducted from what is transferred. -/
  | inclusive
  /-- The sender pays it on top. -/
  | exclusive
  deriving Repr, DecidableEq

/-- A fraction of what is transferred, within bounds. -/
structure FractionalFee where
  /-- The numerator of the fraction. -/
  numerator : Int64
  /-- The denominator of the fraction. -/
  denominator : Int64
  /-- The least amount. -/
  minimum : Int64
  /-- The greatest amount, if there is one. -/
  maximum : Option Int64
  /-- Who pays. -/
  assessment : Assessment
  deriving Repr, DecidableEq

/-- A fraction of what is exchanged. -/
structure RoyaltyFee where
  /-- The numerator of the fraction. -/
  numerator : Int64
  /-- The denominator of the fraction. -/
  denominator : Int64
  /-- What is paid when nothing is exchanged. -/
  fallback : Option FixedFee
  deriving Repr, DecidableEq

/-- The kinds of fee. -/
inductive FeeKind where
  /-- A fixed amount. -/
  | fixed (fee : FixedFee)
  /-- A fraction of what is transferred. -/
  | fractional (fee : FractionalFee)
  /-- A fraction of what is exchanged. -/
  | royalty (fee : RoyaltyFee)
  deriving Repr, DecidableEq

/-- A custom fee. -/
structure CustomFee where
  /-- The account that collects the fee. -/
  collector : String
  /-- Whether collectors pay none of the fees of the token. -/
  exempt : Bool
  /-- The fee itself. -/
  kind : FeeKind
  deriving Repr, DecidableEq

/-- A fixed fee whose collector is not exempt. -/
def CustomFee.fixed (collector : String) (amount : Int64) (denomination : Option String) :
    CustomFee :=
  ⟨collector, false, .fixed ⟨amount, denomination⟩⟩

/-- The fee with its collectors exempt. -/
def CustomFee.exempting (f : CustomFee) : CustomFee :=
  { f with exempt := true }

/-! ## Canonical forms -/

/-- A denomination, none for the empty one. -/
def denominationOf : Option String → Option String
  | some s => if s = "" then none else some s
  | none => none

/-- A maximum, none for zero. -/
def boundOf : Option Int64 → Option Int64
  | some n => if n = 0 then none else some n
  | none => none

/-- A fixed amount in canonical form. -/
def FixedFee.canonical (f : FixedFee) : FixedFee :=
  { f with denomination := denominationOf f.denomination }

/-- A kind in canonical form. -/
def FeeKind.canonical : FeeKind → FeeKind
  | .fixed f => .fixed f.canonical
  | .fractional f => .fractional { f with maximum := boundOf f.maximum }
  | .royalty f => .royalty { f with fallback := f.fallback.map FixedFee.canonical }

/-- A fee in canonical form. -/
def CustomFee.canonical (f : CustomFee) : CustomFee :=
  { f with kind := f.kind.canonical }

/-! ## Reading -/

def FixedFee.amountField : RecordField Int64 := ⟨"amount", readAmount, .refused⟩

def FixedFee.denominationField : RecordField (Option String) :=
  ⟨"denominatingTokenId", readOption readString, .allowed none⟩

/-- Reads a fixed amount. -/
def FixedFee.ofJson : Shape FixedFee :=
  readRecord "FixedFee" excessInSequence [amountField.toCheck, denominationField.toCheck]
    fun s => do
      let amount ← amountField.get "FixedFee" 2 0 s
      let denomination ← denominationField.get "FixedFee" 2 1 s
      return ⟨amount, denomination⟩

/-- The names of the ways to pay. -/
def Assessment.names : List (String × Assessment) :=
  [("inclusive", .inclusive), ("exclusive", .exclusive)]

/-- Reads who pays. -/
def Assessment.ofJson : Shape Assessment :=
  readVariant isNullOrBare Assessment.names

def numeratorField : RecordField Int64 := ⟨"numerator", readAmount, .refused⟩

def denominatorField : RecordField Int64 := ⟨"denominator", readAmount, .refused⟩

def FractionalFee.minimumField : RecordField Int64 := ⟨"minimumAmount", readAmount, .allowed 0⟩

def FractionalFee.maximumField : RecordField (Option Int64) :=
  ⟨"maximumAmount", readOption readAmount, .allowed none⟩

/-- The field that says who pays. -/
def FractionalFee.assessmentField : RecordField Assessment :=
  ⟨"assessmentMethod", Assessment.ofJson, .allowed .inclusive⟩

/-- Reads a fraction of what is transferred. -/
def FractionalFee.ofJson : Shape FractionalFee :=
  readRecord "FractionalFee" excessInSequence
    [numeratorField.toCheck, denominatorField.toCheck, minimumField.toCheck,
      maximumField.toCheck, assessmentField.toCheck]
    fun s => do
      let numerator ← numeratorField.get "FractionalFee" 5 0 s
      let denominator ← denominatorField.get "FractionalFee" 5 1 s
      let minimum ← minimumField.get "FractionalFee" 5 2 s
      let maximum ← maximumField.get "FractionalFee" 5 3 s
      let assessment ← assessmentField.get "FractionalFee" 5 4 s
      return ⟨numerator, denominator, minimum, maximum, assessment⟩

/-- The field of what is paid when nothing is exchanged. -/
def RoyaltyFee.fallbackField : RecordField (Option FixedFee) :=
  ⟨"fallbackFee", readOption FixedFee.ofJson, .allowed none⟩

/-- Reads a fraction of what is exchanged. -/
def RoyaltyFee.ofJson : Shape RoyaltyFee :=
  readRecord "RoyaltyFee" excessInSequence
    [numeratorField.toCheck, denominatorField.toCheck, fallbackField.toCheck]
    fun s => do
      let numerator ← numeratorField.get "RoyaltyFee" 3 0 s
      let denominator ← denominatorField.get "RoyaltyFee" 3 1 s
      let fallback ← fallbackField.get "RoyaltyFee" 3 2 s
      return ⟨numerator, denominator, fallback⟩

/-- Reads the kind of a fee under the name of a member, if it is one of a kind. -/
def FeeKind.ofMember? (name : String) : Option (Shape FeeKind) :=
  match name with
  | "fixedFee" => some fun v => (FixedFee.ofJson v).map .fixed
  | "fractionalFee" => some fun v => (FractionalFee.ofJson v).map .fractional
  | "royaltyFee" => some fun v => (RoyaltyFee.ofJson v).map .royalty
  | _ => none

/-- Reads the kind of a fee from the first member that is named for one. -/
def FeeKind.ofMembers : Members → Except ShapeError FeeKind
  | [] => .error (.noVariant "CustomFeeKind")
  | (name, v) :: ms =>
    match FeeKind.ofMember? name with
    | some read => read v
    | none => FeeKind.ofMembers ms

def CustomFee.collectorField : RecordField String := ⟨"feeCollectorAccountId", readString, .refused⟩

/-- The field that says whether collectors are exempt. -/
def CustomFee.exemptField : RecordField Bool := ⟨"feeCollectorsExempt", readBool, .allowed false⟩

/-- Reads a fee.  It cannot be read from a list, since the member of its kind has
no place there. -/
def CustomFee.ofJson : Shape CustomFee
  | .obj ms => do
    visitMembers [collectorField.toCheck, exemptField.toCheck] ms
    let collector ← collectorField.get "CustomFee" 3 0 (.members ms)
    let exempt ← exemptField.get "CustomFee" 3 1 (.members ms)
    let kind ← FeeKind.ofMembers ms
    return ⟨collector, exempt, kind⟩
  | v => .error (.invalidType v "struct CustomFee")

/-! ## Writing -/

/-- Writes a fixed amount. -/
def FixedFee.toJson (f : FixedFee) : Json :=
  .object ([("amount", amountJson f.amount)] ++
    optionalMember "denominatingTokenId" (f.denomination.map .str))

/-- The name of a way to pay. -/
def Assessment.name : Assessment → String
  | .inclusive => "inclusive"
  | .exclusive => "exclusive"

/-- Writes a fraction of what is transferred. -/
def FractionalFee.toJson (f : FractionalFee) : Json :=
  .object ([("numerator", amountJson f.numerator), ("denominator", amountJson f.denominator),
    ("minimumAmount", amountJson f.minimum)] ++
    optionalMember "maximumAmount" (f.maximum.map amountJson) ++
    [("assessmentMethod", .str f.assessment.name)])

/-- Writes a fraction of what is exchanged. -/
def RoyaltyFee.toJson (f : RoyaltyFee) : Json :=
  .object ([("numerator", amountJson f.numerator), ("denominator", amountJson f.denominator)] ++
    optionalMember "fallbackFee" (f.fallback.map FixedFee.toJson))

/-- The name of the member that holds a kind. -/
def FeeKind.memberName : FeeKind → String
  | .fixed _ => "fixedFee"
  | .fractional _ => "fractionalFee"
  | .royalty _ => "royaltyFee"

/-- Writes a kind. -/
def FeeKind.toJson : FeeKind → Json
  | .fixed f => f.toJson
  | .fractional f => f.toJson
  | .royalty f => f.toJson

/-- Writes a fee. -/
def CustomFee.toJson (f : CustomFee) : Json :=
  .object [("feeCollectorAccountId", .str f.collector), ("feeCollectorsExempt", .bool f.exempt),
    (f.kind.memberName, f.kind.toJson)]

/-! ## Shown fees -/

def shownAmount (n : Int64) : String := decimalInt n.toInt

/-- A fixed amount as it is shown. -/
def FixedFee.shown (f : FixedFee) : String :=
  shownRecord "FixedFee" [("amount", shownAmount f.amount),
    ("denominating_token_id", shownOption (f.denomination.map quoted))]

/-- A way to pay as it is shown. -/
def Assessment.shown : Assessment → String
  | .inclusive => "Inclusive"
  | .exclusive => "Exclusive"

/-- A fraction of what is transferred as it is shown. -/
def FractionalFee.shown (f : FractionalFee) : String :=
  shownRecord "FractionalFee" [("numerator", shownAmount f.numerator),
    ("denominator", shownAmount f.denominator), ("minimum_amount", shownAmount f.minimum),
    ("maximum_amount", shownOption (f.maximum.map shownAmount)),
    ("assessment_method", f.assessment.shown)]

/-- A fraction of what is exchanged as it is shown. -/
def RoyaltyFee.shown (f : RoyaltyFee) : String :=
  shownRecord "RoyaltyFee" [("numerator", shownAmount f.numerator),
    ("denominator", shownAmount f.denominator),
    ("fallback_fee", shownOption (f.fallback.map FixedFee.shown))]

def FeeKind.shown : FeeKind → String
  | .fixed f => "FixedFee(" ++ f.shown ++ ")"
  | .fractional f => "FractionalFee(" ++ f.shown ++ ")"
  | .royalty f => "RoyaltyFee(" ++ f.shown ++ ")"

def CustomFee.shown (f : CustomFee) : String :=
  shownRecord "CustomFee" [("fee_collector_account_id", quoted f.collector),
    ("fee_collectors_exempt", shownBool f.exempt), ("kind", f.kind.shown)]

/-- A schedule of fees as it is shown. -/
def shownFees (fees : List CustomFee) : String :=
  shownList (fees.map CustomFee.shown)

end Concord
