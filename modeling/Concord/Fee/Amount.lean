import Concord.Json.Shape
import Concord.Text.Blank

/-!
# Amounts

An amount is a whole number of 64 bits with a sign.  It is written as a text in
decimal, since not every reader of JSON keeps all its digits, and it is read from
such a text or from a number.  The text may stand between blanks, carry a plus sign
and start with zeros; the number may not have a fraction.  Nothing is wrapped or
rounded.
-/

namespace Concord.Fee

open Json Text

/-- The amount that a text denotes. -/
def parseAmount (s : String) : Except NumeralError Int64 :=
  (readInt64 (trimBlanks s.toList)).map Int64.ofInt

def readAmount : Shape Int64
  | .int n =>
    if -Int.ofNat (maxSigned64 + 1) ≤ n ∧ n ≤ Int.ofNat maxSigned64 then .ok (Int64.ofInt n)
    else .error .noAmountForm
  | .str s =>
    match parseAmount s with
    | .ok n => .ok n
    | .error e => .error (.invalidAmount s e)
  | _ => .error .noAmountForm

/-- Writes an amount. -/
def amountJson (n : Int64) : Json :=
  .str (decimalInt n.toInt)

end Concord.Fee
