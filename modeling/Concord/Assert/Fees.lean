import Concord.Fee.Agreement
import Concord.Poll.Check
import Concord.Source.Consensus
import Concord.Source.Mirror

/-!
# Checking the fees of a token

A token has a schedule of fees when both sides report it.  As with keys, the
consensus side has to report the fees at once, and then both sides are probed until
the mirror has indexed them.

A probe compares the expected fees with those of the consensus side, and those of
the consensus side with those of the mirror.
-/

namespace Concord

open Text

/-- Whether what both sides report are the expected fees. -/
def schedulesAgree (expected consensus : List CustomFee) (mirror : MirrorRecord MirrorFees) :
    Bool :=
  sameFees expected consensus &&
    match mirror with
    | .found m => feesAgree consensus m
    | _ => false

variable {σ μ κ ε : Type}

/-- The check that both sides report the expected fees. -/
def feesCheck (c : ConsensusReader σ) (m : MirrorReader μ) (ctx : Context) (token : String)
    (expected : List CustomFee) : Check (σ × μ) (List CustomFee) (MirrorRecord MirrorFees) where
  label := "token " ++ token ++ " custom fees"
  probe := do
    let consensus ← Act.within Part.first (c.fees ctx token)
    let mirror ← Act.within Part.second (m.fees token)
    return (consensus, mirror)
  agrees := schedulesAgree expected
  budget := none
  shownConsensus := shownFees
  shownMirror := MirrorRecord.shown MirrorFees.shown

/-- What is said when the consensus side reports other fees. -/
def feesMismatchText (token : String) (observed expected : List CustomFee) : String :=
  "Consensus fees of token " ++ token ++ " are " ++ shownFees observed ++ ", expected " ++
    shownFees expected

/-- Checks that a token has a schedule of fees on both sides. -/
def verifyFees [Timer κ ε] (c : ConsensusReader σ) (m : MirrorReader μ) (ctx : Context)
    (budget : Budget) (token : String) (expected : List CustomFee) :
    Act ((σ × μ) × κ) ε Unit := do
  let observed ← Timer.beside (Act.within Part.first (c.fees ctx token))
  if sameFees expected observed then (feesCheck c m ctx token expected).run ctx budget
  else Timer.fail (.plain (feesMismatchText token observed expected))

end Concord
