import Concord.Act
import Concord.Context
import Concord.Failure
import Concord.Poll.Budget
import Concord.Poll.Clock

/-!
# Polling until two sides agree

A check has a probe, which reads both sides, and a relation that says when what was
read agrees.  It is probed until it agrees, until a probe fails or until the budget
is spent.  The clock, which is any on which a run can sleep (`Timer`), sleeps between two
probes and never after the last.

A run ends in one of three ways.

* It ends well on the first probe that agrees.
* It ends in the failure of the first probe that fails, with the number of that
  probe.
* It ends in a timeout that shows what the last probe read.

`Check.pollFrom` recurses on the probes that are left, so every run ends.  A clock that
breaks off takes the run with it.
-/

namespace Concord

open Text

variable {ω κ ε α β : Type}

/-- What has to agree, and how to find out. -/
structure Check (ω α β : Type) where
  /-- What the check is called in the journal and in failures. -/
  label : String
  /-- Reads both sides. -/
  probe : Act ω Failure (α × β)
  /-- Whether what was read agrees. -/
  agrees : α → β → Bool
  budget : Option Budget
  /-- What was read on the consensus side, as it is shown. -/
  shownConsensus : α → String
  /-- What was read on the mirror, as it is shown. -/
  shownMirror : β → String

namespace Check

/-! ## Records of the journal -/

/-- The label of a check behind that of its scenario. -/
def tag (ctx : Context) (label : String) : String :=
  ctx.tag ++ "'" ++ label ++ "' "

/-- A probe failed. -/
def failedText (ctx : Context) (label : String) (attempt : Nat) (cause : Failure) : String :=
  tag ctx label ++ "probe failed on attempt " ++ decimal attempt ++ ": " ++ cause.summary

/-- Both sides agree. -/
def agreedText (ctx : Context) (label : String) (attempt : Nat) : String :=
  tag ctx label ++ "converged on attempt " ++ decimal attempt

/-- The budget is spent. -/
def spentText (ctx : Context) (label : String) (attempt : Nat) : String :=
  tag ctx label ++ "did not converge after " ++ decimal attempt ++ " attempt(s)"

/-- The sides do not agree yet. -/
def waitingText (ctx : Context) (label : String) (attempt : Nat) (b : Budget) : String :=
  tag ctx label ++ "not converged (attempt " ++ decimal attempt ++ "/" ++ decimal b.attempts ++
    "), retrying in " ++ b.interval.display

/-! ## Runs -/

/-- Probes with a number of probes left behind this one. -/
def pollFrom [Timer κ ε] (ctx : Context) (b : Budget) (check : Check ω α β) :
    (left attempt : Nat) → Act (ω × κ) ε Unit
  | left, attempt => do
    match ← Act.attempt (Act.within Part.first check.probe) with
    | .error cause =>
      Act.note .error (failedText ctx check.label attempt cause)
      Timer.fail (.probe check.label attempt cause)
    | .ok (a, m) =>
      if check.agrees a m then Act.note .debug (agreedText ctx check.label attempt)
      else
        match left with
        | 0 =>
          Act.note .error (spentText ctx check.label attempt)
          Timer.fail
            (.timeout check.label attempt (check.shownConsensus a) (check.shownMirror m))
        | left + 1 =>
          Act.note .warn (waitingText ctx check.label attempt b)
          Act.within Part.second (Timer.sleep b.interval)
          pollFrom ctx b check left (attempt + 1)

/-- Probes until both sides agree, with the budget of the check or a given one. -/
def run [Timer κ ε] (ctx : Context) (budget : Budget) (check : Check ω α β) :
    Act (ω × κ) ε Unit :=
  let b := check.budget.getD budget
  pollFrom ctx b check (b.attempts - 1) 1

end Check

end Concord
