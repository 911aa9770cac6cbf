import Concord.Fee.Custom

/-!
# Fee schedules as the mirror reports them

The mirror keeps the fees of a token in three lists, one for each kind, with the
time from which they hold.  Amounts are numbers.  `MirrorFees.entries` joins the
lists, and `MirrorFees.ofFees` is how the mirror indexes a schedule of the
consensus side: each fee goes to the list of its kind, in order, and a fraction is
paid in the token itself.
-/

namespace Concord

open Json Text

/-! ## Types -/

/-- A numerator over a denominator. -/
structure Fraction where
  numerator : Int64
  denominator : Int64
  deriving Repr, DecidableEq

/-- A fixed amount, as the mirror reports it. -/
structure MirrorFixedFee where
  /-- Whether collectors pay none of the fees. -/
  exempt : Bool
  /-- The amount in the least unit of the denomination. -/
  amount : Int64
  /-- The account that collects the fee. -/
  collector : Option String
  /-- The token it is paid in, if it is not the native currency. -/
  denomination : Option String
  deriving Repr, DecidableEq

/-- A fraction of what is transferred, as the mirror reports it. -/
structure MirrorFractionalFee where
  /-- Whether collectors pay none of the fees. -/
  exempt : Bool
  amount : Fraction
  /-- The account that collects the fee. -/
  collector : Option String
  /-- The token it is paid in. -/
  denomination : Option String
  /-- The greatest amount, if there is one. -/
  maximum : Option Int64
  /-- The least amount. -/
  minimum : Int64
  /-- Whether the sender pays on top. -/
  netOfTransfers : Bool
  deriving Repr, DecidableEq

/-- What is paid when nothing is exchanged, as the mirror reports it. -/
structure MirrorFallbackFee where
  /-- The amount in the least unit of the denomination. -/
  amount : Int64
  /-- The token it is paid in, if it is not the native currency. -/
  denomination : Option String
  deriving Repr, DecidableEq

/-- A fraction of what is exchanged, as the mirror reports it. -/
structure MirrorRoyaltyFee where
  /-- Whether collectors pay none of the fees. -/
  exempt : Bool
  amount : Fraction
  /-- The account that collects the fee. -/
  collector : Option String
  /-- What is paid when nothing is exchanged. -/
  fallback : Option MirrorFallbackFee
  deriving Repr, DecidableEq

/-- The fees of a token, as the mirror reports them. -/
structure MirrorFees where
  /-- The time from which they hold. -/
  createdAt : Option String
  /-- The fixed amounts. -/
  fixed : List MirrorFixedFee
  /-- The fractions of what is transferred. -/
  fractional : List MirrorFractionalFee
  /-- The fractions of what is exchanged. -/
  royalty : List MirrorRoyaltyFee
  deriving Repr, DecidableEq

/-- A fee of any kind, as the mirror reports it. -/
inductive MirrorEntry where
  /-- A fixed amount. -/
  | fixed (fee : MirrorFixedFee)
  /-- A fraction of what is transferred. -/
  | fractional (fee : MirrorFractionalFee)
  /-- A fraction of what is exchanged. -/
  | royalty (fee : MirrorRoyaltyFee)
  deriving Repr, DecidableEq

namespace MirrorFees

/-- The schedule without fees. -/
def empty : MirrorFees := ⟨none, [], [], []⟩

/-- The fees of all kinds. -/
def entries (m : MirrorFees) : List MirrorEntry :=
  m.fixed.map .fixed ++ m.fractional.map .fractional ++ m.royalty.map .royalty

/-- The number of fees. -/
def size (m : MirrorFees) : Nat :=
  m.fixed.length + m.fractional.length + m.royalty.length

/-! ## Indexing -/

/-- The fixed amount that a fee is, if it is one. -/
def fixedOf? (f : CustomFee) : Option MirrorFixedFee :=
  match f.kind with
  | .fixed k => some ⟨f.exempt, k.amount, some f.collector, k.denomination⟩
  | _ => none

/-- The fraction of what is transferred that a fee is, if it is one. -/
def fractionalOf? (token : String) (f : CustomFee) : Option MirrorFractionalFee :=
  match f.kind with
  | .fractional k =>
    some ⟨f.exempt, ⟨k.numerator, k.denominator⟩, some f.collector, some token, k.maximum,
      k.minimum, k.assessment = .exclusive⟩
  | _ => none

/-- The fraction of what is exchanged that a fee is, if it is one. -/
def royaltyOf? (f : CustomFee) : Option MirrorRoyaltyFee :=
  match f.kind with
  | .royalty k =>
    some ⟨f.exempt, ⟨k.numerator, k.denominator⟩, some f.collector,
      k.fallback.map fun b => ⟨b.amount, b.denomination⟩⟩
  | _ => none

/-- How the mirror indexes the fees of a token. -/
def ofFees (token : String) (fees : List CustomFee) : MirrorFees :=
  ⟨none, fees.filterMap fixedOf?, fees.filterMap (fractionalOf? token), fees.filterMap royaltyOf?⟩

end MirrorFees

/-! ## Reading -/

/-- The field that says whether collectors are exempt. -/
def mirrorExemptField : RecordField Bool := ⟨"all_collectors_are_exempt", readBool, .allowed false⟩

/-- The field of a fixed amount. -/
def mirrorAmountField : RecordField Int64 := ⟨"amount", readInt64, .refused⟩

def mirrorCollectorField : RecordField (Option String) :=
  ⟨"collector_account_id", readOption readString, .allowed none⟩

def mirrorDenominationField : RecordField (Option String) :=
  ⟨"denominating_token_id", readOption readString, .allowed none⟩

def Fraction.numeratorField : RecordField Int64 := ⟨"numerator", readInt64, .refused⟩

def Fraction.denominatorField : RecordField Int64 := ⟨"denominator", readInt64, .refused⟩

/-- Reads a fraction. -/
def Fraction.ofJson : Shape Fraction :=
  readRecord "MirrorFraction" excessInArray [numeratorField.toCheck, denominatorField.toCheck]
    fun s => do
      let numerator ← numeratorField.get "MirrorFraction" 2 0 s
      let denominator ← denominatorField.get "MirrorFraction" 2 1 s
      return ⟨numerator, denominator⟩

def fractionField : RecordField Fraction := ⟨"amount", Fraction.ofJson, .refused⟩

/-- Reads a fixed amount. -/
def MirrorFixedFee.ofJson : Shape MirrorFixedFee :=
  readRecord "MirrorFixedFee" excessInArray
    [mirrorExemptField.toCheck, mirrorAmountField.toCheck, mirrorCollectorField.toCheck,
      mirrorDenominationField.toCheck]
    fun s => do
      let exempt ← mirrorExemptField.get "MirrorFixedFee" 4 0 s
      let amount ← mirrorAmountField.get "MirrorFixedFee" 4 1 s
      let collector ← mirrorCollectorField.get "MirrorFixedFee" 4 2 s
      let denomination ← mirrorDenominationField.get "MirrorFixedFee" 4 3 s
      return ⟨exempt, amount, collector, denomination⟩

def MirrorFractionalFee.maximumField : RecordField (Option Int64) :=
  ⟨"maximum", readOption readInt64, .allowed none⟩

def MirrorFractionalFee.minimumField : RecordField Int64 := ⟨"minimum", readInt64, .allowed 0⟩

/-- The field that says whether the sender pays on top. -/
def MirrorFractionalFee.netField : RecordField Bool :=
  ⟨"net_of_transfers", readBool, .allowed false⟩

/-- Reads a fraction of what is transferred. -/
def MirrorFractionalFee.ofJson : Shape MirrorFractionalFee :=
  readRecord "MirrorFractionalFee" excessInArray
    [mirrorExemptField.toCheck, fractionField.toCheck, mirrorCollectorField.toCheck,
      mirrorDenominationField.toCheck, maximumField.toCheck, minimumField.toCheck,
      netField.toCheck]
    fun s => do
      let exempt ← mirrorExemptField.get "MirrorFractionalFee" 7 0 s
      let amount ← fractionField.get "MirrorFractionalFee" 7 1 s
      let collector ← mirrorCollectorField.get "MirrorFractionalFee" 7 2 s
      let denomination ← mirrorDenominationField.get "MirrorFractionalFee" 7 3 s
      let maximum ← maximumField.get "MirrorFractionalFee" 7 4 s
      let minimum ← minimumField.get "MirrorFractionalFee" 7 5 s
      let net ← netField.get "MirrorFractionalFee" 7 6 s
      return ⟨exempt, amount, collector, denomination, maximum, minimum, net⟩

/-- Reads what is paid when nothing is exchanged. -/
def MirrorFallbackFee.ofJson : Shape MirrorFallbackFee :=
  readRecord "MirrorFallbackFee" excessInArray
    [mirrorAmountField.toCheck, mirrorDenominationField.toCheck]
    fun s => do
      let amount ← mirrorAmountField.get "MirrorFallbackFee" 2 0 s
      let denomination ← mirrorDenominationField.get "MirrorFallbackFee" 2 1 s
      return ⟨amount, denomination⟩

/-- The field of what is paid when nothing is exchanged. -/
def MirrorRoyaltyFee.fallbackField : RecordField (Option MirrorFallbackFee) :=
  ⟨"fallback_fee", readOption MirrorFallbackFee.ofJson, .allowed none⟩

/-- Reads a fraction of what is exchanged. -/
def MirrorRoyaltyFee.ofJson : Shape MirrorRoyaltyFee :=
  readRecord "MirrorRoyaltyFee" excessInArray
    [mirrorExemptField.toCheck, fractionField.toCheck, mirrorCollectorField.toCheck,
      fallbackField.toCheck]
    fun s => do
      let exempt ← mirrorExemptField.get "MirrorRoyaltyFee" 4 0 s
      let amount ← fractionField.get "MirrorRoyaltyFee" 4 1 s
      let collector ← mirrorCollectorField.get "MirrorRoyaltyFee" 4 2 s
      let fallback ← fallbackField.get "MirrorRoyaltyFee" 4 3 s
      return ⟨exempt, amount, collector, fallback⟩

namespace MirrorFees

/-- The field of the time. -/
def createdField : RecordField (Option String) :=
  ⟨"created_timestamp", readOption readString, .allowed none⟩

/-- The field of the fixed amounts. -/
def fixedField : RecordField (List MirrorFixedFee) :=
  ⟨"fixed_fees", readList MirrorFixedFee.ofJson, .allowed []⟩

/-- The field of the fractions of what is transferred. -/
def fractionalField : RecordField (List MirrorFractionalFee) :=
  ⟨"fractional_fees", readList MirrorFractionalFee.ofJson, .allowed []⟩

/-- The field of the fractions of what is exchanged. -/
def royaltyField : RecordField (List MirrorRoyaltyFee) :=
  ⟨"royalty_fees", readList MirrorRoyaltyFee.ofJson, .allowed []⟩

/-- Reads a schedule. -/
def ofJson : Shape MirrorFees :=
  readRecord "MirrorCustomFees" excessInArray
    [createdField.toCheck, fixedField.toCheck, fractionalField.toCheck, royaltyField.toCheck]
    fun s => do
      let created ← createdField.get "MirrorCustomFees" 4 0 s
      let fixed ← fixedField.get "MirrorCustomFees" 4 1 s
      let fractional ← fractionalField.get "MirrorCustomFees" 4 2 s
      let royalty ← royaltyField.get "MirrorCustomFees" 4 3 s
      return ⟨created, fixed, fractional, royalty⟩

end MirrorFees

/-! ## Writing -/

/-- Writes a fraction. -/
def Fraction.toJson (f : Fraction) : Json :=
  .object [("numerator", .int64 f.numerator), ("denominator", .int64 f.denominator)]

/-- Writes a fixed amount. -/
def MirrorFixedFee.toJson (f : MirrorFixedFee) : Json :=
  .object [("all_collectors_are_exempt", .bool f.exempt), ("amount", .int64 f.amount),
    ("collector_account_id", .ofText? f.collector),
    ("denominating_token_id", .ofText? f.denomination)]

/-- Writes a fraction of what is transferred. -/
def MirrorFractionalFee.toJson (f : MirrorFractionalFee) : Json :=
  .object [("all_collectors_are_exempt", .bool f.exempt), ("amount", f.amount.toJson),
    ("collector_account_id", .ofText? f.collector),
    ("denominating_token_id", .ofText? f.denomination),
    ("maximum", .ofOption (f.maximum.map .int64)), ("minimum", .int64 f.minimum),
    ("net_of_transfers", .bool f.netOfTransfers)]

/-- Writes what is paid when nothing is exchanged. -/
def MirrorFallbackFee.toJson (f : MirrorFallbackFee) : Json :=
  .object [("amount", .int64 f.amount), ("denominating_token_id", .ofText? f.denomination)]

/-- Writes a fraction of what is exchanged. -/
def MirrorRoyaltyFee.toJson (f : MirrorRoyaltyFee) : Json :=
  .object [("all_collectors_are_exempt", .bool f.exempt), ("amount", f.amount.toJson),
    ("collector_account_id", .ofText? f.collector),
    ("fallback_fee", .ofOption (f.fallback.map MirrorFallbackFee.toJson))]

/-- Writes a schedule. -/
def MirrorFees.toJson (m : MirrorFees) : Json :=
  .object [("created_timestamp", .ofText? m.createdAt),
    ("fixed_fees", .arr (m.fixed.map MirrorFixedFee.toJson)),
    ("fractional_fees", .arr (m.fractional.map MirrorFractionalFee.toJson)),
    ("royalty_fees", .arr (m.royalty.map MirrorRoyaltyFee.toJson))]

/-! ## Shown schedules -/

/-- A text that may be absent as it is shown. -/
def shownText? (s : Option String) : String := shownOption (s.map quoted)

def Fraction.shown (f : Fraction) : String :=
  shownRecord "MirrorFraction"
    [("numerator", shownAmount f.numerator), ("denominator", shownAmount f.denominator)]

/-- A fixed amount as it is shown. -/
def MirrorFixedFee.shown (f : MirrorFixedFee) : String :=
  shownRecord "MirrorFixedFee" [("all_collectors_are_exempt", shownBool f.exempt),
    ("amount", shownAmount f.amount), ("collector_account_id", shownText? f.collector),
    ("denominating_token_id", shownText? f.denomination)]

/-- A fraction of what is transferred as it is shown. -/
def MirrorFractionalFee.shown (f : MirrorFractionalFee) : String :=
  shownRecord "MirrorFractionalFee" [("all_collectors_are_exempt", shownBool f.exempt),
    ("amount", f.amount.shown), ("collector_account_id", shownText? f.collector),
    ("denominating_token_id", shownText? f.denomination),
    ("maximum", shownOption (f.maximum.map shownAmount)), ("minimum", shownAmount f.minimum),
    ("net_of_transfers", shownBool f.netOfTransfers)]

/-- What is paid when nothing is exchanged as it is shown. -/
def MirrorFallbackFee.shown (f : MirrorFallbackFee) : String :=
  shownRecord "MirrorFallbackFee" [("amount", shownAmount f.amount),
    ("denominating_token_id", shownText? f.denomination)]

/-- A fraction of what is exchanged as it is shown. -/
def MirrorRoyaltyFee.shown (f : MirrorRoyaltyFee) : String :=
  shownRecord "MirrorRoyaltyFee" [("all_collectors_are_exempt", shownBool f.exempt),
    ("amount", f.amount.shown), ("collector_account_id", shownText? f.collector),
    ("fallback_fee", shownOption (f.fallback.map MirrorFallbackFee.shown))]

/-- A schedule as it is shown. -/
def MirrorFees.shown (m : MirrorFees) : String :=
  shownRecord "MirrorCustomFees" [("created_timestamp", shownText? m.createdAt),
    ("fixed_fees", shownList (m.fixed.map MirrorFixedFee.shown)),
    ("fractional_fees", shownList (m.fractional.map MirrorFractionalFee.shown)),
    ("royalty_fees", shownList (m.royalty.map MirrorRoyaltyFee.shown))]

end Concord
