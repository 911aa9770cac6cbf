import Concord.Act
import Concord.Rpc.Error

/-!
# Skipping what is not implemented

A scenario that calls a method which the server does not implement is skipped, and
the journal says so.  Every other failure stays a failure.
-/

namespace Concord

/-- What the journal says of a method that is skipped. -/
def skipText (method : String) (message : Option String) : String :=
  "Skipping: '" ++ method ++ "' is not implemented (" ++ message.getD "no message" ++ ")"

/-- The value of a call, none if the method is not implemented. -/
def skipUnsupported {σ α : Type} (result : Except Rpc.Error α) : Act σ Rpc.Error (Option α) :=
  match result with
  | .ok a => pure (some a)
  | .error (.notImplemented method message) => do
    Act.note .info (skipText method message)
    return none
  | .error e => throw e

end Concord
