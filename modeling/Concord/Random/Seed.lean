import Concord.Act
import Concord.Random.Stream
import Concord.Text.Blank
import Concord.Text.Hex

/-!
# Seeds as texts

A run is repeated by the seed that its journal names.  The text of a seed is the
marker `0x` and sixteen hexadecimal digits; what is read may lack the marker, the
zeros in front and have blanks around it, but a number beyond 64 bits is refused.
-/

namespace Concord.Random

open Text

/-- The variable that sets the seed of a run. -/
def seedVariable : String := "TCK_TEST_SEED"

def seedDigits (seed : UInt64) : String :=
  String.ofList (paddedHex 16 seed.toNat)

def seedText (seed : UInt64) : String :=
  "0x" ++ seedDigits seed

/-- The seed that a text denotes. -/
def readSeed (text : String) : Option UInt64 :=
  match readUnsigned 16 maxUnsigned64 (dropHexMarker (trimBlanks text.toList)) with
  | .ok n => some (UInt64.ofNat n)
  | .error _ => none

/-- What the journal says of the seed of a run. -/
def seedRecord (seed : UInt64) : Record :=
  ⟨.info, "TestRng seed: " ++ seedText seed ++ " (replay with " ++ seedVariable ++ "=" ++
    seedText seed ++ ")"⟩

end Concord.Random
