import Concord.Poll.Check
import Concord.Source.Consensus
import Concord.Source.Mirror

/-!
# Checking the key of an entity

An entity carries a key when both sides report it.  The consensus side is read once
and has to report the key at once; then both sides are probed until the mirror has
indexed it too.

Reports are compared as trees, so framing plays no part.  An entity without a key
is what is expected only when an empty list was set (`keyExpected`).
-/

namespace Concord

open Text

/-- Whether a report is the expected key. -/
def keyExpected (expected : KeyTree) : Option KeyTree → Bool
  | some t => expected.agrees t
  | none =>
    match expected with
    | .list _ [] => true
    | _ => false

/-- The tree of a key that may be absent. -/
def treeOf {κ : Type} (decode : κ → Except KeyError KeyTree) (context : String) :
    Option κ → Except Failure (Option KeyTree)
  | none => .ok none
  | some k => ((decode k).map some).mapError fun e => .within context (.key e)

/-- The tree of the key that the consensus side reports. -/
def consensusTree (key : Option String) : Except Failure (Option KeyTree) :=
  treeOf KeyTree.decode "Failed to decode consensus key" key

/-- The tree of the key that the mirror reports. -/
def mirrorTree :
    MirrorRecord (Option ObservedKey) → Except Failure (MirrorRecord (Option KeyTree))
  | .notIndexed => .ok .notIndexed
  | .unavailable reason => .ok (.unavailable reason)
  | .found key =>
    (treeOf ObservedKey.tree "Failed to decode mirror key" key).map MirrorRecord.found

/-- Whether what both sides report is the expected key. -/
def keysAgree (expected : KeyTree) (consensus : Option KeyTree)
    (mirror : MirrorRecord (Option KeyTree)) : Bool :=
  keyExpected expected consensus &&
    match mirror with
    | .found t => keyExpected expected t
    | _ => false

/-- A tree that may be absent as it is shown. -/
def shownTree? (t : Option KeyTree) : String :=
  shownOption (t.map KeyTree.shown)

variable {σ μ κ ε : Type}

/-- Reads the key of an entity on the consensus side. -/
def readConsensusTree (c : ConsensusReader σ) (ctx : Context) (e : Entity) :
    Act σ Failure (Option KeyTree) := do
  let key ← c.key ctx e
  Act.ofExcept (consensusTree key)

def readMirrorTree (m : MirrorReader μ) (e : Entity) :
    Act μ Failure (MirrorRecord (Option KeyTree)) := do
  let record ← m.key e
  Act.ofExcept (mirrorTree record)

/-- The check that both sides report the expected key. -/
def keyCheck (c : ConsensusReader σ) (m : MirrorReader μ) (ctx : Context) (e : Entity)
    (expected : KeyTree) :
    Check (σ × μ) (Option KeyTree) (MirrorRecord (Option KeyTree)) where
  label := e.display ++ " key"
  probe := do
    let consensus ← Act.within Part.first (readConsensusTree c ctx e)
    let mirror ← Act.within Part.second (readMirrorTree m e)
    return (consensus, mirror)
  agrees := keysAgree expected
  budget := none
  shownConsensus := shownTree?
  shownMirror := MirrorRecord.shown shownTree?

/-- What is said when the consensus side reports another key. -/
def keyMismatchText (e : Entity) (observed : Option KeyTree) (expected : KeyTree) : String :=
  "Consensus key of " ++ e.display ++ " is " ++ shownTree? observed ++ ", expected " ++
    expected.shown

/-- Checks that an entity carries a key on both sides. -/
def verifyKey [Timer κ ε] (c : ConsensusReader σ) (m : MirrorReader μ) (ctx : Context)
    (budget : Budget) (e : Entity) (expected : String) : Act ((σ × μ) × κ) ε Unit := do
  let expected ← Timer.beside <| Act.ofExcept <| (KeyTree.decode expected).mapError fun err =>
    .within "Failed to decode expected key" (.key err)
  let observed ← Timer.beside (Act.within Part.first (readConsensusTree c ctx e))
  if keyExpected expected observed then (keyCheck c m ctx e expected).run ctx budget
  else Timer.fail (.plain (keyMismatchText e observed expected))

end Concord
