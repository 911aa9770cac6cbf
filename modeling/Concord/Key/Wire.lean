import Concord.Text.Numeral
import Concord.Text.Quoted

/-!
# Tagged fields on the wire

A message is a sequence of fields.  A field starts with a key, a number that
holds the tag of the field and the form of its value; numbers are written in base
128, least digit first, with the high bit set on all bytes but the last.

Reading takes a list of bytes and returns what is left of it.  A length is checked
against the whole of what is left, not against the end of the message around it;
a message whose last field runs past its end is refused afterwards
(`readDelimited`).

Fields of unknown tags are skipped.  A budget bounds how deep messages and groups
nest: it is spent by one on entering either, and nothing that needs it can be read
once it is spent.
-/

namespace Concord.Key

open Concord.Text

/-! ## Forms and errors -/

/-- The form of the value of a field. -/
inductive WireForm where
  /-- A number in base 128. -/
  | varint
  /-- Eight bytes. -/
  | fixed64
  /-- A length and as many bytes. -/
  | delimited
  /-- The start of a group of fields. -/
  | groupStart
  /-- The end of a group of fields. -/
  | groupEnd
  /-- Four bytes. -/
  | fixed32
  deriving Repr, DecidableEq

namespace WireForm

/-- The name of a form in messages. -/
def name : WireForm → String
  | .varint => "Varint"
  | .fixed64 => "SixtyFourBit"
  | .delimited => "LengthDelimited"
  | .groupStart => "StartGroup"
  | .groupEnd => "EndGroup"
  | .fixed32 => "ThirtyTwoBit"

/-- The number of a form in the key of a field. -/
def code : WireForm → Nat
  | .varint => 0
  | .fixed64 => 1
  | .delimited => 2
  | .groupStart => 3
  | .groupEnd => 4
  | .fixed32 => 5

/-- The form of a number. -/
def ofCode? : Nat → Option WireForm
  | 0 => some .varint
  | 1 => some .fixed64
  | 2 => some .delimited
  | 3 => some .groupStart
  | 4 => some .groupEnd
  | 5 => some .fixed32
  | _ => none

@[simp] theorem ofCode?_code (f : WireForm) : ofCode? f.code = some f := by cases f <;> rfl

theorem code_lt (f : WireForm) : f.code < 8 := by cases f <;> decide

end WireForm

/-- Why bytes are not a message. -/
inductive WireReason where
  /-- A number does not end, or does not fit 64 bits. -/
  | invalidVarint
  /-- The key of a field does not fit 32 bits. -/
  | invalidKey (key : Nat)
  /-- The key of a field has no form. -/
  | invalidForm (code : Nat)
  /-- The key of a field has the tag zero. -/
  | invalidTag
  /-- A known field has another form than its own. -/
  | wrongForm (actual expected : WireForm)
  /-- A length goes beyond the end of the bytes. -/
  | underflow
  /-- The last field of a message runs past its end. -/
  | lengthExceeded
  /-- The nesting is too deep. -/
  | recursionLimit
  /-- A group ends that has not started, or under another tag. -/
  | unexpectedGroupEnd
  deriving Repr, DecidableEq

/-- The wording of each reason. -/
def WireReason.message : WireReason → String
  | .invalidVarint => "invalid varint"
  | .invalidKey key => "invalid key value: " ++ decimal key
  | .invalidForm code => "invalid wire type value: " ++ decimal code
  | .invalidTag => "invalid tag value: 0"
  | .wrongForm actual expected =>
    "invalid wire type: " ++ actual.name ++ " (expected " ++ expected.name ++ ")"
  | .underflow => "buffer underflow"
  | .lengthExceeded => "delimited length exceeded"
  | .recursionLimit => "recursion limit reached"
  | .unexpectedGroupEnd => "unexpected end group tag"

/-- Why bytes are not a message, with the fields around the fault, innermost
first. -/
structure WireError where
  /-- The fields that were being read. -/
  path : List String
  /-- The fault itself. -/
  reason : WireReason
  deriving Repr, DecidableEq

/-- The wording of an error. -/
def WireError.message (e : WireError) : String :=
  "failed to decode Protobuf message: " ++
    e.path.foldr (fun field rest => field ++ ": " ++ rest) e.reason.message

/-- What is read from the front of some bytes, and the bytes left. -/
abbrev WireResult (α : Type) := Except WireError (α × List UInt8)

/-- Ends a reading. -/
def refuse {α : Type} (reason : WireReason) : Except WireError α :=
  .error ⟨[], reason⟩

/-- Names the field in which a reading takes place. -/
def inField {α : Type} (field : String) : Except WireError α → Except WireError α
  | .ok a => .ok a
  | .error e => .error ⟨e.path ++ [field], e.reason⟩

/-! ## Numbers -/

/-- A number in base 128, least digit first. -/
def writeVarint (n : Nat) : List UInt8 :=
  if n < 128 then [UInt8.ofNat n] else UInt8.ofNat (n % 128 + 128) :: writeVarint (n / 128)
termination_by n

/-- Reads a number of at most `left` digits.  With one digit left it is the tenth,
of which only one bit fits. -/
def readDigits : (left : Nat) → List UInt8 → Option (Nat × List UInt8)
  | 0, _ => none
  | _ + 1, [] => none
  | left + 1, b :: rest =>
    if b < 128 then
      if left = 0 ∧ 2 ≤ b then none else some (b.toNat, rest)
    else
      match readDigits left rest with
      | none => none
      | some (n, rest) => some (b.toNat - 128 + 128 * n, rest)

/-- Reads a number of at most 64 bits. -/
def readVarint (bytes : List UInt8) : WireResult Nat :=
  match readDigits 10 bytes with
  | none => refuse .invalidVarint
  | some r => .ok r

/-- The tag and the form at the front of a field. -/
structure FieldKey where
  /-- The tag of the field. -/
  tag : Nat
  /-- The form of its value. -/
  form : WireForm
  deriving Repr, DecidableEq

def writeKey (key : FieldKey) : List UInt8 :=
  writeVarint (key.tag * 8 + key.form.code)

def readKey (bytes : List UInt8) : WireResult FieldKey :=
  match readVarint bytes with
  | .error e => .error e
  | .ok (n, rest) =>
    if maxUnsigned32 < n then refuse (.invalidKey n)
    else
      match WireForm.ofCode? (n % 8) with
      | none => refuse (.invalidForm (n % 8))
      | some form => if n / 8 = 0 then refuse .invalidTag else .ok (⟨n / 8, form⟩, rest)

/-! ## Values of fields -/

/-- Requires a form. -/
def expectForm (expected actual : WireForm) : Except WireError Unit :=
  if actual = expected then .ok () else refuse (.wrongForm actual expected)

/-- Reads a length and as many bytes. -/
def readBytes (bytes : List UInt8) : WireResult (List UInt8) :=
  match readVarint bytes with
  | .error e => .error e
  | .ok (n, rest) =>
    if rest.length < n then refuse .underflow else .ok (rest.take n, rest.drop n)

/-- Repeats a step on a value while more than `limit` bytes are left.  A step
takes at least one byte, so that the number of bytes is enough for `fuel`. -/
def mergeFields {α : Type} (step : α → List UInt8 → WireResult α) (limit : Nat) :
    (fuel : Nat) → α → List UInt8 → WireResult α
  | 0, a, bytes => .ok (a, bytes)
  | fuel + 1, a, bytes =>
    if bytes.length ≤ limit then .ok (a, bytes)
    else
      match step a bytes with
      | .error e => .error e
      | .ok (a, rest) => mergeFields step limit fuel a rest

/-- Reads a message behind its length into a value, field by field. -/
def readDelimited {α : Type} (step : α → List UInt8 → WireResult α) (a : α)
    (bytes : List UInt8) : WireResult α :=
  match readVarint bytes with
  | .error e => .error e
  | .ok (n, rest) =>
    if rest.length < n then refuse .underflow
    else
      match mergeFields step (rest.length - n) rest.length a rest with
      | .error e => .error e
      | .ok (a, left) =>
        if left.length = rest.length - n then .ok (a, left) else refuse .lengthExceeded

/-- The bytes of a message behind its length. -/
def writeDelimited (bytes : List UInt8) : List UInt8 :=
  writeVarint bytes.length ++ bytes

/-! ## Unknown fields -/

/-- Skips a number of bytes. -/
def skipBytes (n : Nat) (bytes : List UInt8) : Except WireError (List UInt8) :=
  if bytes.length < n then refuse .underflow else .ok (bytes.drop n)

/-- Skips the fields of a group up to its end. -/
def skipGroup (skip : WireForm → Nat → List UInt8 → Except WireError (List UInt8)) (tag : Nat) :
    (fuel : Nat) → List UInt8 → Except WireError (List UInt8)
  | 0, _ => refuse .invalidVarint
  | fuel + 1, bytes =>
    match readKey bytes with
    | .error e => .error e
    | .ok (key, rest) =>
      if key.form = .groupEnd then
        if key.tag = tag then .ok rest else refuse .unexpectedGroupEnd
      else
        match skip key.form key.tag rest with
        | .error e => .error e
        | .ok rest => skipGroup skip tag fuel rest

/-- Skips the value of a field, with a budget for groups in groups. -/
def skipField : (budget : Nat) → WireForm → Nat → List UInt8 → Except WireError (List UInt8)
  | 0, _, _, _ => refuse .recursionLimit
  | budget + 1, form, tag, bytes =>
    match form with
    | .varint => (readVarint bytes).map Prod.snd
    | .fixed64 => skipBytes 8 bytes
    | .fixed32 => skipBytes 4 bytes
    | .delimited =>
      match readVarint bytes with
      | .error e => .error e
      | .ok (n, rest) => skipBytes n rest
    | .groupStart => skipGroup (skipField budget) tag (bytes.length + 1) bytes
    | .groupEnd => refuse .unexpectedGroupEnd

end Concord.Key
