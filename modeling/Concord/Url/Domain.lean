import Concord.Text.Split
import Concord.Url.Domain.Composition
import Concord.Url.Domain.Mapping
import Concord.Url.Punycode

/-!
# Domain names

A name is a row of labels with points between them.  Its normal form is in ASCII and
in lower case; labels with other letters are carried behind the mark `xn--`.  A name
has no normal form when a character may not stand in it, when a label behind that
mark denotes nothing new, when a label with other letters is too long, or when the
letters of a label do not go together.

Names of ASCII letters without that mark are only brought to lower case and checked
for characters that separate the parts of an address.
-/

namespace Concord.Url.Domain

open Text

/-! ## Characters -/

def isAscii (c : Char) : Bool := c.toNat < 0x80

/-- A character of ASCII that may not stand in a name. -/
def isForbidden (c : Char) : Bool :=
  c.toNat ≤ 0x20 || c.toNat = 0x7F || "%#/:<>?@[\\]^|".toList.contains c

/-! ## Labels -/

/-- The mark in front of labels that are carried in ASCII. -/
def carriedMark : List Char := "xn--".toList

/-- The greatest length of a label with letters beyond ASCII. -/
def maxLength : Nat := 1000

/-- The greatest length of what is carried behind the mark. -/
def maxCarriedLength : Nat := 2000

/-- Whether the characters before and behind a joiner that is to separate allow it. -/
def separates (before behind : List Char) : Bool :=
  (match before.dropWhile (fun c => joining c = .transparent) with
    | c :: _ => joining c = .left || joining c = .both
    | [] => false) &&
  match behind.dropWhile (fun c => joining c = .transparent) with
    | c :: _ => joining c = .right || joining c = .both
    | [] => false

/-- Whether the joiners of a label stand where they mean something, given the
characters before them, last one first. -/
def joinersFit (before : List Char) : List Char → Bool
  | [] => true
  | c :: cs =>
    let behindVirama := match before with
      | d :: _ => combiningClass d = 9
      | [] => false
    (if c.toNat = 0x200C then behindVirama || separates before cs
      else if c.toNat = 0x200D then behindVirama
      else true) && joinersFit (c :: before) cs

/-- Whether the characters of a label go together, and are not too many to be carried. -/
def isSound (label : List Char) : Bool :=
  (match label with
    | c :: _ => !isMark c
    | [] => true) && joinersFit [] label &&
  (label.all isAscii || label.length ≤ maxLength)

/-- The label that is carried behind the mark.  It has a letter beyond ASCII, and could
stand in a name as it is. -/
def carried? (text : List Char) : Option (List Char) := do
  let label ← if text.length ≤ maxCarriedLength then Punycode.decode? text else none
  if !label.all isAscii && label.all isKept && composedForm label = label && isSound label then
    some label
  else none

/-- The label of a text between points. -/
def label? (text : List Char) : Option (List Char) :=
  if carriedMark.isPrefixOf text then
    if text.all isAscii then carried? (text.drop carriedMark.length) else none
  else if isSound text then some text
  else none

/-- A label in ASCII. -/
def labelText (label : List Char) : List Char :=
  if label.all isAscii then label else carriedMark ++ Punycode.encode label

/-! ## Directions -/

/-- Whether a character is written from right to left. -/
def isRightward (c : Char) : Bool :=
  match direction c with
  | .right | .arabic | .arabicNumber => true
  | _ => false

/-- The directions of a label, without the marks at its end. -/
def lastDirection (label : List Char) : Direction :=
  ((label.map direction).reverse.dropWhile (· = .mark)).headD .mark

/-- Whether the directions of a label in a name with letters from right to left fit. -/
def directionsFit (label : List Char) : Bool :=
  let ds := label.map direction
  let final := lastDirection label
  match ds with
  | [] => true
  | .left :: _ =>
    ds.all (fun d => d = .left || d = .number || d = .neutral || d = .mark) &&
      (final = .left || final = .number)
  | .right :: _ | .arabic :: _ =>
    ds.all (· ≠ .left) &&
      (final = .right || final = .arabic || final = .number || final = .arabicNumber) &&
      !(ds.contains .number && ds.contains .arabicNumber)
  | _ => false

/-! ## Names -/

def labels? (name : List Char) : Option (List (List Char)) := do
  let mapped ← name.mapM mapChar?
  let labels ← (splitOn '.' (composedForm mapped.flatten)).mapM label?
  if labels.any (·.any isRightward) && !labels.all directionsFit then none else some labels

/-- Whether a label of a name stands behind the mark. -/
def carries (name : List Char) : Bool :=
  (splitOn '.' name).any carriedMark.isPrefixOf

def normalForm? (name : List Char) : Option (List Char) :=
  let lower := name.map Char.toLower
  if lower.all isAscii && !carries lower then
    if lower.any isForbidden then none else some lower
  else do
    let labels ← labels? name
    if labels.any (·.any fun c => isAscii c && isForbidden c) then none
    else some (List.intercalate ['.'] (labels.map labelText))

end Concord.Url.Domain
