import Concord.Key.Error
import Concord.Rpc.Error

/-!
# Failures of a check

A failure has a cause and the contexts in which it arose, outermost first, so it
reads as a list of texts.  Causes that a caller may want to tell apart keep their
type: errors of keys, of calls and of shapes, and the two ways in which waiting
for agreement fails.

A probe that fails has a failure of its own as its cause.  Waiting that ends
without agreement carries what was seen last on either side.
-/

namespace Concord

open Text

/-- Why an exchange over HTTP gave no value. -/
inductive ExchangeFault where
  /-- The request failed before a response came. -/
  | request
  /-- The body of a response could not be read to its end in time. -/
  | bodyTimeout
  /-- The body of a response broke off. -/
  | bodyBroken
  /-- The body of a response is not JSON. -/
  | bodyNotJson
  deriving Repr, DecidableEq

/-- The wording of each fault. -/
def ExchangeFault.message : ExchangeFault → String
  | .request => "error sending request"
  | .bodyTimeout => "operation timed out"
  | .bodyBroken => "error reading a body"
  | .bodyNotJson => "error decoding response body"

/-- Why a check failed. -/
inductive Failure where
  /-- A text says why. -/
  | plain (text : String)
  /-- A key cannot be read. -/
  | key (error : KeyError)
  | call (error : Rpc.Error)
  /-- A value does not have its shape. -/
  | shape (error : Json.ShapeError)
  /-- An exchange over HTTP gave no value. -/
  | exchange (fault : ExchangeFault)
  | within (context : String) (cause : Failure)
  | probe (label : String) (attempt : Nat) (cause : Failure)
  /-- The two sides did not agree in any probe. -/
  | timeout (label : String) (attempts : Nat) (consensus mirror : String)
  deriving Repr, DecidableEq

namespace Failure

/-- The texts of a failure, outermost first. -/
def texts : Failure → List String
  | .plain t => [t]
  | .key e => [e.message]
  | .call e => [e.message]
  | .shape e => [e.message]
  | .exchange f => [f.message]
  | .within context cause => context :: cause.texts
  | .probe label attempt cause =>
    ("'" ++ label ++ "' probe failed on attempt " ++ decimal attempt) :: cause.texts
  | .timeout label attempts consensus mirror =>
    ["'" ++ label ++ "' did not converge after " ++ decimal attempts ++
      " attempt(s): consensus=" ++ consensus ++ ", mirror=" ++ mirror]

/-- The outermost text. -/
def message (f : Failure) : String :=
  f.texts.headD ""

/-- All texts in one line. -/
def summary (f : Failure) : String :=
  joinWith ": " f.texts

/-- A failure with texts around it, outermost first. -/
def wrap : List String → Failure → Failure
  | [], f => f
  | t :: ts, f => .within t (wrap ts f)

end Failure

end Concord
