import Concord.Text.Numeral
import Concord.Yaml.Cursor

/-!
# Tags and directives

A tag names the kind of a node.  It is written in full between angle brackets, or
short: a handle and a suffix.  A handle is a mark, two marks or a name between
marks, and stands for the start of a tag.  Two handles are known from the start,
and a directive in front of a document declares others.

A tag is a string of octets, of which any may be written as an escape of two
hexadecimal digits, as long as the escapes spell characters of UTF-8.  An octet
zero ends a tag.
-/

namespace Concord.Yaml

open Concord.Text

/-! ## Octets of tags -/

abbrev Octets := List UInt8

/-- The octets of a text of ASCII characters. -/
def octetsOf (cs : List Char) : Octets := cs.map fun c => UInt8.ofNat c.toNat

/-- The marks that may stand in a tag. -/
def tagMarks : List Char := ";/?:@&=+$.!~*'()".toList

/-- The marks that may stand in a tag between angle brackets only. -/
def bracketMarks : List Char := [',', '[', ']']

def isTagChar (full : Bool) (x : Char) : Bool :=
  isNameChar x || tagMarks.contains x || (full && bracketMarks.contains x)

/-- The number of octets in a character of UTF-8, by its first. -/
def leadWidth? (b : UInt8) : Option Nat :=
  if b < 0x80 then some 1
  else if 0xC0 ≤ b && b < 0xE0 then some 2
  else if 0xE0 ≤ b && b < 0xF0 then some 3
  else if 0xF0 ≤ b && b < 0xF8 then some 4
  else none

/-- An octet that continues a character of UTF-8. -/
def isContinuation (b : UInt8) : Bool := 0x80 ≤ b && b < 0xC0

/-- The octets owed behind an octet where a number is owed already, if it fits. -/
def owedBehind? (owed : Nat) (b : UInt8) : Option Nat :=
  match owed with
  | 0 => (leadWidth? b).map (· - 1)
  | n + 1 => if isContinuation b then some n else none

/-- The octet of an escape at the front of a text. -/
def escapedOctet? : List Char → Option UInt8
  | '%' :: a :: b :: _ =>
    match digitValue? 16 a, digitValue? 16 b with
    | some h, some l => some (UInt8.ofNat (h * 16 + l))
    | _, _ => none
  | _ => none

/-- Reads octets as far as they go.  `owed` octets of a character are still to come;
the octets so far come last one first. -/
def readOctets? (full : Bool) (owed : Nat) (soFar : Octets) (c : Cursor) :
    Option (Octets × Cursor) :=
  match _ : c.rest with
  | [] => if owed = 0 then some (soFar.reverse, c) else none
  | x :: _ =>
    if x = '%' then
      match escapedOctet? c.rest with
      | none => none
      | some b =>
        match owedBehind? owed b with
        | none => none
        | some owed => readOctets? full owed (b :: soFar) (c.step.skip 2)
    else if owed ≠ 0 then none
    else if isTagChar full x then readOctets? full 0 (UInt8.ofNat x.toNat :: soFar) c.step
    else some (soFar.reverse, c)
termination_by c.rest.length
decreasing_by
  · exact Nat.lt_of_le_of_lt (Cursor.skip_le _ _) (Cursor.step_lt (by assumption))
  · exact Cursor.step_lt (by assumption)

def readSomeOctets? (full : Bool) (c : Cursor) : Option (Octets × Cursor) :=
  match readOctets? full 0 [] c with
  | some ([], _) => none
  | r => r

/-- The octets up to the first that is zero. -/
def beforeZero (octets : Octets) : Octets := octets.takeWhile (· ≠ 0)

/-! ## Handles and tags -/

/-- The start of a short tag. -/
inductive Handle where
  /-- One mark. -/
  | primary
  /-- A name between marks, which is empty for two marks. -/
  | named (name : List Char)
  deriving Repr, DecidableEq

/-- A tag as it is written. -/
inductive WrittenTag where
  | full (octets : Octets)
  | short (handle : Handle) (suffix : Octets)
  deriving Repr, DecidableEq

/-- What handles stand for, by handle. -/
abbrev Handles := List (Handle × Octets)

/-- The handles that are known from the start. -/
def Handles.standard : Handles :=
  [(.primary, octetsOf ['!']), (.named [], octetsOf "tag:yaml.org,2002:".toList)]

/-- The octets of a tag, unless its handle is not known. -/
def WrittenTag.resolve? (handles : Handles) : WrittenTag → Option Octets
  | .full octets => some octets
  | .short handle suffix => (handles.lookup handle).map (· ++ suffix)

/-- The tag of the standard schema with a name. -/
def standardTag (name : String) : Octets := octetsOf ("tag:yaml.org,2002:" ++ name).toList

namespace WrittenTag

/-- The tag of one mark and a suffix.  The mark alone is a tag in full. -/
def ofSuffix (suffix : Octets) : WrittenTag :=
  if suffix = [] then .full (octetsOf ['!']) else .short .primary suffix

/-- Reads a tag from its first mark. -/
def readAny? (c : Cursor) : Option (WrittenTag × Cursor) :=
  let behind := c.step
  if behind.sees '<' then
    match readSomeOctets? true behind.step with
    | none => none
    | some (octets, c) => if c.sees '>' then some (.full (beforeZero octets), c.step) else none
  else
    let name := behind.taken isNameChar
    let past := behind.past isNameChar
    if past.sees '!' then
      (readSomeOctets? false past.step).map fun r =>
        (.short (.named name) (beforeZero r.1), r.2)
    else
      (readOctets? false 0 [] past).map fun r =>
        (ofSuffix (beforeZero (octetsOf name ++ r.1)), r.2)

/-- Reads a tag from its first mark, up to the end of the word.  Between brackets a
comma ends it, too. -/
def read? (inFlow : Bool) (c : Cursor) : Option (WrittenTag × Cursor) :=
  match readAny? c with
  | none => none
  | some (tag, c) =>
    if endsWord c.next || (inFlow && c.sees ',') then some (tag, c) else none

end WrittenTag

/-! ## Directives -/

/-- A line in front of a document. -/
inductive Directive where
  /-- The version of the format. -/
  | version (major minor : Nat)
  /-- What a handle stands for. -/
  | meaning (handle : Handle) (octets : Octets)
  deriving Repr, DecidableEq

namespace Directive

/-- Reads a number of at most nine digits. -/
def number? (c : Cursor) : Option (Nat × Cursor) :=
  let digits := c.taken Char.isDigit
  if digits = [] ∨ 9 < digits.length then none
  else
    match magnitude 10 999999999 .tooLarge 0 digits with
    | .ok n => some (n, c.past Char.isDigit)
    | .error _ => none

/-- Reads a version. -/
def version? (c : Cursor) : Option (Directive × Cursor) :=
  match number? c.pastBlanks with
  | none => none
  | some (major, c) =>
    if c.sees '.' then (number? c.step).map fun r => (.version major r.1, r.2) else none

/-- Reads a handle, which a mark ends. -/
def handle? (c : Cursor) : Option (Handle × Cursor) :=
  if c.sees '!' then
    let name := c.step.taken isNameChar
    let past := c.step.past isNameChar
    if past.sees '!' then some (.named name, past.step)
    else if name = [] then some (.primary, past)
    else none
  else none

/-- Reads a handle and what it stands for. -/
def declaration? (c : Cursor) : Option (Directive × Cursor) :=
  match handle? c.pastBlanks with
  | none => none
  | some (handle, c) =>
    if c.next.any isBlank then
      match readSomeOctets? true c.pastBlanks with
      | none => none
      | some (octets, c) =>
        if endsWord c.next then some (.meaning handle (beforeZero octets), c) else none
    else none

/-- Reads a directive from its mark, up to the start of the next line. -/
def read? (c : Cursor) : Option (Directive × Cursor) :=
  let name := c.step.taken isNameChar
  let past := c.step.past isNameChar
  let body :=
    if !endsWord past.next then none
    else if name = "YAML".toList then version? past
    else if name = "TAG".toList then declaration? past
    else none
  match body with
  | none => none
  | some (d, c) => c.nextLine?.map fun c => (d, c)

end Directive

end Concord.Yaml
