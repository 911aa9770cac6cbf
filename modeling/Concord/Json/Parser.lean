import Concord.Json.Value
import Concord.Text.Numeral

/-!
# Reading JSON text

Reading has two steps.  The first finds the structure of a text: a `Written`
value keeps its numbers as digits, its members in the order of the text with
repeated names, and a text that names half a surrogate pair as no text at all.
The second evaluates it, and can fail on a number that is too large, on such a
half pair, and on nesting beyond a limit.  A reader that ignores a part of a text
evaluates the other parts only, so it does not see the faults of that part.

`parse` runs both steps.  The limit it takes is the number of lists and objects
that may enclose each other.
-/

namespace Concord.Json

open Concord.Text
open Concord.Number (Binary64 ofScientific)

/-! ## Written values -/

/-- The digits of a number as they stand in a text. -/
structure WrittenNumber where
  /-- Whether a minus sign stands in front. -/
  negative : Bool
  /-- The digits before the point. -/
  whole : List Char
  /-- The digits behind the point, if there is one. -/
  fraction : Option (List Char)
  /-- Whether the exponent is negative, and its digits, if there is one. -/
  exponent : Option (Bool × List Char)
  deriving Repr, DecidableEq

/-- A value as it stands in a text. -/
inductive Written where
  /-- The word `null`. -/
  | null
  /-- One of the words `true` and `false`. -/
  | bool (b : Bool)
  | number (n : WrittenNumber)
  /-- A text, unless it names half a surrogate pair. -/
  | str (s : Option String)
  | arr (elements : List Written)
  /-- An object, its members in the order of the text. -/
  | obj (members : List (Option String × Written))
  deriving Repr

/-! ## Texts -/

/-- The blanks between the parts of a text. -/
def isSeparator (c : Char) : Bool :=
  c = ' ' || c = '\n' || c = '\t' || c = '\r'

/-- The characters behind the blanks. -/
def skipSeparators (cs : List Char) : List Char :=
  cs.dropWhile isSeparator

/-- The number that four hexadecimal digits denote. -/
def hexQuad? (a b c d : Char) : Option Nat := do
  let a ← digitValue? 16 a
  let b ← digitValue? 16 b
  let c ← digitValue? 16 c
  let d ← digitValue? 16 d
  return ((a * 16 + b) * 16 + c) * 16 + d

/-- The first half of a surrogate pair. -/
def isHighHalf (n : Nat) : Bool := 0xD800 ≤ n && n ≤ 0xDBFF

/-- The second half of a surrogate pair. -/
def isLowHalf (n : Nat) : Bool := 0xDC00 ≤ n && n ≤ 0xDFFF

/-- The character of a surrogate pair. -/
def pairChar (high low : Nat) : Char :=
  Char.ofNat (0x10000 + (high - 0xD800) * 0x400 + (low - 0xDC00))

def letterEscape? : Char → Option Char
  | '"' => some '"'
  | '\\' => some '\\'
  | '/' => some '/'
  | 'b' => some '\x08'
  | 'f' => some '\x0c'
  | 'n' => some '\n'
  | 'r' => some '\r'
  | 't' => some '\t'
  | _ => none

/-- Reads a text up to its closing quote.  The characters read so far are kept in
reverse, and `sound` tells that they hold no half pair. -/
def readText (sound : Bool) (acc : List Char) :
    List Char → Option (Option String × List Char)
  | [] => none
  | '"' :: rest => some (if sound then some (String.ofList acc.reverse) else none, rest)
  | '\\' :: 'u' :: a :: b :: c :: d :: '\\' :: 'u' :: e :: f :: g :: h :: rest =>
    match hexQuad? a b c d, hexQuad? e f g h with
    | none, _ => none
    | some _, none => none
    | some n, some m =>
      if isHighHalf n && isLowHalf m then readText sound (pairChar n m :: acc) rest
      else readText (sound && !isHighHalf n && !isLowHalf n) (Char.ofNat n :: acc)
        ('\\' :: 'u' :: e :: f :: g :: h :: rest)
  | '\\' :: 'u' :: a :: b :: c :: d :: rest =>
    match hexQuad? a b c d with
    | none => none
    | some n => readText (sound && !isHighHalf n && !isLowHalf n) (Char.ofNat n :: acc) rest
  | '\\' :: c :: rest =>
    match letterEscape? c with
    | none => none
    | some e => readText sound (e :: acc) rest
  | c :: rest => if c.toNat < 0x20 || c = '\\' then none else readText sound (c :: acc) rest
termination_by cs => cs.length

/-! ## Numbers -/

/-- The digits at the front, and what follows them. -/
def splitDigits (cs : List Char) : List Char × List Char :=
  (cs.takeWhile Char.isDigit, cs.dropWhile Char.isDigit)

/-- The digits behind a point, at least one. -/
def readFraction : List Char → Option (Option (List Char) × List Char)
  | '.' :: rest =>
    match splitDigits rest with
    | ([], _) => none
    | (ds, rest) => some (some ds, rest)
  | cs => some (none, cs)

/-- The sign and the digits of an exponent, at least one digit. -/
def readExponent (cs : List Char) : Option (Option (Bool × List Char) × List Char) :=
  let signed (rest : List Char) : Option (Option (Bool × List Char) × List Char) :=
    let (negative, rest) := match rest with
      | '+' :: rest => (false, rest)
      | '-' :: rest => (true, rest)
      | rest => (false, rest)
    match splitDigits rest with
    | ([], _) => none
    | (ds, rest) => some (some (negative, ds), rest)
  match cs with
  | 'e' :: rest => signed rest
  | 'E' :: rest => signed rest
  | cs => some (none, cs)

/-- Reads a number.  A zero in front stands alone. -/
def readNumber (cs : List Char) : Option (WrittenNumber × List Char) := do
  let (negative, cs) := match cs with
    | '-' :: rest => (true, rest)
    | cs => (false, cs)
  let (whole, cs) := splitDigits cs
  if whole = [] then none
  else if whole.head? = some '0' ∧ whole ≠ ['0'] then none
  else
    let (fraction, cs) ← readFraction cs
    let (exponent, cs) ← readExponent cs
    some (⟨negative, whole, fraction, exponent⟩, cs)

/-! ## Structure -/

mutual

/-- Reads a value behind the blanks in front of it. -/
def readValue : (fuel : Nat) → List Char → Option (Written × List Char)
  | 0, _ => none
  | fuel + 1, cs =>
    match skipSeparators cs with
    | 'n' :: 'u' :: 'l' :: 'l' :: rest => some (.null, rest)
    | 't' :: 'r' :: 'u' :: 'e' :: rest => some (.bool true, rest)
    | 'f' :: 'a' :: 'l' :: 's' :: 'e' :: rest => some (.bool false, rest)
    | '"' :: rest => (readText true [] rest).map fun (s, rest) => (.str s, rest)
    | '[' :: rest =>
      match skipSeparators rest with
      | ']' :: rest => some (.arr [], rest)
      | rest => (readElements fuel [] rest).map fun (xs, rest) => (.arr xs, rest)
    | '\x7b' :: rest =>
      match skipSeparators rest with
      | '\x7d' :: rest => some (.obj [], rest)
      | rest => (readMembers fuel [] rest).map fun (ms, rest) => (.obj ms, rest)
    | cs => (readNumber cs).map fun (n, rest) => (.number n, rest)

/-- Reads the elements of a list up to its closing bracket. -/
def readElements : (fuel : Nat) → List Written → List Char →
    Option (List Written × List Char)
  | 0, _, _ => none
  | fuel + 1, acc, cs =>
    match readValue fuel cs with
    | none => none
    | some (x, rest) =>
      match skipSeparators rest with
      | ',' :: rest => readElements fuel (x :: acc) rest
      | ']' :: rest => some ((x :: acc).reverse, rest)
      | _ => none

/-- Reads the members of an object up to its closing brace. -/
def readMembers : (fuel : Nat) → List (Option String × Written) → List Char →
    Option (List (Option String × Written) × List Char)
  | 0, _, _ => none
  | fuel + 1, acc, cs =>
    match skipSeparators cs with
    | '"' :: rest =>
      match readText true [] rest with
      | none => none
      | some (k, rest) =>
        match skipSeparators rest with
        | ':' :: rest =>
          match readValue fuel rest with
          | none => none
          | some (v, rest) =>
            match skipSeparators rest with
            | ',' :: rest => readMembers fuel ((k, v) :: acc) rest
            | '\x7d' :: rest => some (((k, v) :: acc).reverse, rest)
            | _ => none
        | _ => none
    | _ => none

end

/-- The written value that a whole text is. -/
def parseWritten (text : String) : Option Written :=
  let cs := text.toList
  match readValue (cs.length + 1) cs with
  | some (v, rest) => if skipSeparators rest = [] then some v else none
  | none => none

/-! ## Evaluation -/

/-- The digits of a decimal that take part in its value: those that keep it below
64 bits.  With them comes the number of digits before the point that were left
out, less the number behind the point that were taken. -/
def significandOf (whole fraction : List Char) : Nat × Int :=
  let rec wholePart : Nat → List Char → Nat × Nat
    | acc, [] => (acc, 0)
    | acc, c :: cs =>
      let next := acc * 10 + (c.toNat - '0'.toNat)
      if maxUnsigned64 < next then (acc, cs.length + 1) else wholePart next cs
  let rec fractionPart : Nat → Int → List Char → Nat × Int
    | acc, e, [] => (acc, e)
    | acc, e, c :: cs =>
      let next := acc * 10 + (c.toNat - '0'.toNat)
      if maxUnsigned64 < next then (acc, e) else fractionPart next (e - 1) cs
  let (acc, dropped) := wholePart 0 whole
  fractionPart acc (Int.ofNat dropped) fraction

/-- The value of an exponent, or none beyond 32 bits. -/
def exponentOf? (digits : List Char) : Option Nat :=
  match magnitude 10 maxSigned32 .tooLarge 0 digits with
  | .ok n => some n
  | .error _ => none

/-- The value of a number with a fraction or an exponent. -/
def WrittenNumber.float? (n : WrittenNumber) : Option Json :=
  let (digits, scale) := significandOf n.whole (n.fraction.getD [])
  let value (e : Int) : Option Json :=
    (ofScientific n.negative digits (scale + e)).map Json.float
  match n.exponent with
  | none => value 0
  | some (down, ds) =>
    match exponentOf? ds with
    | some e => value (if down then -(Int.ofNat e) else Int.ofNat e)
    | none => if down ∨ digits = 0 then (ofScientific n.negative 0 0).map Json.float else none

/-- The value of a number: a whole number if it has neither fraction nor exponent
and fits 64 bits with or without a sign, but for the negative zero. -/
def WrittenNumber.value? (n : WrittenNumber) : Option Json :=
  match n.fraction, n.exponent with
  | none, none =>
    let limit := if n.negative then maxSigned64 + 1 else maxUnsigned64
    match magnitude 10 limit .tooLarge 0 n.whole with
    | .ok 0 => if n.negative then n.float? else some (.int 0)
    | .ok k => some (.int (if n.negative then -(Int.ofNat k) else Int.ofNat k))
    | .error _ => n.float?
  | _, _ => n.float?

mutual

/-- The value of a written value, nested at most `depth` deep. -/
def Written.value? (depth : Nat) : Written → Option Json
  | .null => some .null
  | .bool b => some (.bool b)
  | .number n => n.value?
  | .str s => s.map Json.str
  | .arr xs =>
    match depth with
    | 0 => none
    | depth + 1 => (Written.values? depth xs).map Json.arr
  | .obj ms =>
    match depth with
    | 0 => none
    | depth + 1 => (Written.members? depth ms).map Json.object

/-- The values of the elements of a list. -/
def Written.values? (depth : Nat) : List Written → Option (List Json)
  | [] => some []
  | x :: xs => (x.value? depth).bind fun x => (Written.values? depth xs).map (x :: ·)

/-- The values of the members of an object, in the order of the text. -/
def Written.members? (depth : Nat) :
    List (Option String × Written) → Option (List (String × Json))
  | [] => some []
  | (k, x) :: ms =>
    k.bind fun k => (x.value? depth).bind fun x => (Written.members? depth ms).map ((k, x) :: ·)

end

/-- The nesting that a text may have unless a reader allows more. -/
def usualDepth : Nat := 127

/-- The value of a text nested at most `depth` deep. -/
def parse (depth : Nat) (text : String) : Option Json :=
  (parseWritten text).bind (Written.value? depth)

end Concord.Json
