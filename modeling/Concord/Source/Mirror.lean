import Concord.Act
import Concord.Entity
import Concord.Failure
import Concord.Fee.Mirror
import Concord.Key.Observed

/-!
# Reading the mirror

The mirror indexes what the consensus side has decided, later.  Asked for a record
it says that it has not indexed it yet, that it cannot answer now, or what it has.
The first two are no failures: a record may appear when the mirror is asked again.
-/

namespace Concord

open Text

/-- What the mirror says of a record. -/
inductive MirrorRecord (α : Type) where
  /-- The record is not indexed yet. -/
  | notIndexed
  /-- The mirror cannot answer now. -/
  | unavailable (reason : String)
  /-- The record. -/
  | found (value : α)
  deriving Repr, DecidableEq

namespace MirrorRecord

variable {α β : Type}

def value? : MirrorRecord α → Option α
  | .found a => some a
  | _ => none

def shown (f : α → String) : MirrorRecord α → String
  | .notIndexed => "NotIndexed"
  | .unavailable reason => "Unavailable(" ++ quoted reason ++ ")"
  | .found a => "Found(" ++ f a ++ ")"

end MirrorRecord

/-- A way to read the mirror. -/
structure MirrorReader (μ : Type) where
  /-- The key of an entity, none for an entity without a key. -/
  key : Entity → Act μ Failure (MirrorRecord (Option ObservedKey))
  /-- The fees of a token. -/
  fees : String → Act μ Failure (MirrorRecord MirrorFees)

end Concord
