import Concord.Fee.Mirror

/-!
# Agreement of fee schedules

Two schedules agree when their fees can be paired one to one so that each pair
describes the same fee.  The pairing is sought by first fit: each fee of the left
schedule, in order, takes the first fee of the right that is left and fits.

First fit is not enough for every relation.  It is here, since on either side a fee
fits another exactly when both come down to one canonical form.

`firstFit` returns the partners in the order of the left schedule.  With the
positions of the right list put to its elements, the partners name the positions
taken (`fitPositions`).
-/

namespace Concord

/-! ## First fit -/

/-- The first element that satisfies a test, and the list without it. -/
def takeFirst {β : Type} (p : β → Bool) : List β → Option (β × List β)
  | [] => none
  | b :: bs => if p b then some (b, bs) else (takeFirst p bs).map fun r => (r.1, b :: r.2)

/-- The partners of the elements of a list, each the first that is left and fits. -/
def firstFit {α β : Type} (fits : α → β → Bool) : List α → List β → Option (List β)
  | [], _ => some []
  | a :: as, bs =>
    match takeFirst (fits a) bs with
    | none => none
    | some (b, rest) => (firstFit fits as rest).map (b :: ·)

/-- The positions of the partners. -/
def fitPositions {α β : Type} (fits : α → β → Bool) (left : List α) (right : List β) :
    Option (List Nat) :=
  (firstFit (fun a (b : β × Nat) => fits a b.1) left right.zipIdx).map fun bs => bs.map Prod.snd

/-- Whether each element of a list finds a partner of its own. -/
def oneToOne {α β : Type} (fits : α → β → Bool) (left : List α) (right : List β) : Bool :=
  (firstFit fits left right).isSome

/-! ## The consensus side -/

/-- Two fees describe the same fee. -/
def CustomFee.same (a b : CustomFee) : Bool :=
  a.canonical = b.canonical

/-- Two schedules have the same fees, in any order. -/
def sameFees (expected actual : List CustomFee) : Bool :=
  expected.length = actual.length && oneToOne CustomFee.same expected actual

/-! ## The mirror -/

namespace MirrorEntry

def collector : MirrorEntry → Option String
  | .fixed f => f.collector
  | .fractional f => f.collector
  | .royalty f => f.collector

/-- Whether collectors are exempt. -/
def exempt : MirrorEntry → Bool
  | .fixed f => f.exempt
  | .fractional f => f.exempt
  | .royalty f => f.exempt

/-- Whether what is paid when nothing is exchanged is the same on both sides. -/
def sameFallback : Option MirrorFallbackFee → Option FixedFee → Bool
  | none, none => true
  | some m, some f =>
    m.amount = f.amount && denominationOf m.denomination = denominationOf f.denomination
  | _, _ => false

/-- Whether the kind of a fee is the same on both sides. -/
def sameKind : MirrorEntry → FeeKind → Bool
  | .fixed m, .fixed f =>
    m.amount = f.amount && denominationOf m.denomination = denominationOf f.denomination
  | .fractional m, .fractional f =>
    m.amount.numerator = f.numerator && m.amount.denominator = f.denominator &&
      m.minimum = f.minimum && boundOf m.maximum = boundOf f.maximum &&
      m.netOfTransfers = decide (f.assessment = .exclusive)
  | .royalty m, .royalty f =>
    m.amount.numerator = f.numerator && m.amount.denominator = f.denominator &&
      sameFallback m.fallback f.fallback
  | _, _ => false

/-- Whether the mirror reports a fee. -/
def describes (m : MirrorEntry) (f : CustomFee) : Bool :=
  m.collector = some f.collector && m.exempt = f.exempt && m.sameKind f.kind

end MirrorEntry

/-- Some fee that the mirror reports is the given one. -/
def MirrorFees.reports (m : MirrorFees) (f : CustomFee) : Bool :=
  m.entries.any fun e => e.describes f

/-- Both sides have the same fees, in any order. -/
def feesAgree (fees : List CustomFee) (m : MirrorFees) : Bool :=
  fees.length = m.entries.length &&
    oneToOne (fun f (e : MirrorEntry) => e.describes f) fees m.entries

end Concord
