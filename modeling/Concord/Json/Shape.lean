import Concord.Json.Value
import Concord.Text.Quoted
import Concord.Text.Numeral

/-!
# Reading values of a shape

A *shape* reads a JSON value as a value of a type, or says why it does not fit.

Records are read from objects and from lists.  In an object a field is found by
its name and unknown names are ignored.  The members are visited in their order
first, so the first member that does not fit is reported; only then is a missing
field noticed, in the order of the record.  In a list the fields stand in the
order of the record.  A field says what its absence means in either form
(`Absence`).

The members are visited by checks and the record is built by reads of the same
fields.
-/

namespace Concord.Json

open Concord.Text

/-! ## Errors -/

/-- Why a value does not fit a shape. -/
inductive ShapeError where
  /-- The value is of another kind than the one wanted. -/
  | invalidType (got : Json) (wanted : String)
  /-- The value is of the right kind and still none of those wanted. -/
  | invalidValue (got wanted : String)
  /-- A list does not have the length wanted. -/
  | invalidLength (length : Nat) (wanted : String)
  /-- An object lacks a field. -/
  | missingField (name : String)
  /-- A word is none of the variants. -/
  | unknownVariant (word : String) (variants : List String)
  /-- A text in the place of an amount is no amount. -/
  | invalidAmount (text : String) (error : NumeralError)
  /-- A value is neither of the two forms of an amount. -/
  | noAmountForm
  /-- An object names none of the variants of a kind. -/
  | noVariant (kind : String)
  deriving Repr, DecidableEq

/-- A value as an error names it. -/
def described : Json → String
  | .null => "null"
  | .bool b => "boolean `" ++ shownBool b ++ "`"
  | .int n => "integer `" ++ decimalInt n ++ "`"
  | .float x => "floating point `" ++ String.ofList x.plain ++ "`"
  | .str s => "string " ++ quoted s
  | .arr _ => "sequence"
  | .obj _ => "map"

/-- The variants of which one was expected. -/
def shownVariants (variants : List String) : String :=
  match variants.map (fun v => "`" ++ v ++ "`") with
  | [v] => v
  | [v, w] => v ++ " or " ++ w
  | vs => "one of " ++ joinWith ", " vs

/-- The wording of each error. -/
def ShapeError.message : ShapeError → String
  | .invalidType got wanted => "invalid type: " ++ got.described ++ ", expected " ++ wanted
  | .invalidValue got wanted => "invalid value: " ++ got ++ ", expected " ++ wanted
  | .invalidLength length wanted => "invalid length " ++ decimal length ++ ", expected " ++ wanted
  | .missingField name => "missing field `" ++ name ++ "`"
  | .unknownVariant word variants =>
    "unknown variant `" ++ word ++ "`, expected " ++ shownVariants variants
  | .invalidAmount text error => "invalid amount '" ++ text ++ "': " ++ error.message
  | .noAmountForm => "data did not match any variant of untagged enum RawAmount"
  | .noVariant kind => "no variant of enum " ++ kind ++ " found in flattened data"

/-- A reader of values of one type. -/
abbrev Shape (α : Type) := Json → Except ShapeError α

/-! ## Scalars -/

/-- Any value at all. -/
def readAny : Shape Json := .ok

/-- A text. -/
def readString : Shape String
  | .str s => .ok s
  | v => .error (.invalidType v "a string")

/-- A truth value. -/
def readBool : Shape Bool
  | .bool b => .ok b
  | v => .error (.invalidType v "a boolean")

/-- A whole number in a range, which errors call by a name. -/
def readIntIn (low high : Int) (name : String) : Shape Int
  | .int n =>
    if low ≤ n ∧ n ≤ high then .ok n
    else .error (.invalidValue ("integer `" ++ decimalInt n ++ "`") name)
  | v => .error (.invalidType v name)

/-- A whole number of 64 bits with a sign. -/
def readInt64 (v : Json) : Except ShapeError Int64 :=
  (readIntIn (-Int.ofNat (maxSigned64 + 1)) (Int.ofNat maxSigned64) "i64" v).map Int64.ofInt

/-- A whole number of 64 bits without a sign. -/
def readNat64 (v : Json) : Except ShapeError UInt64 :=
  (readIntIn 0 (Int.ofNat maxUnsigned64) "u64" v).map fun n => UInt64.ofNat n.toNat

/-- A whole number of 32 bits without a sign. -/
def readNat32 (v : Json) : Except ShapeError UInt32 :=
  (readIntIn 0 (Int.ofNat maxUnsigned32) "u32" v).map fun n => UInt32.ofNat n.toNat

/-- A value that may be `null`. -/
def readOption {α : Type} (read : Shape α) : Shape (Option α)
  | .null => .ok none
  | v => (read v).map some

/-- The elements of a list, each of one shape, in order. -/
def readEach {α : Type} (read : Shape α) : List Json → Except ShapeError (List α)
  | [] => .ok []
  | v :: vs =>
    match read v with
    | .error e => .error e
    | .ok a => (readEach read vs).map (a :: ·)

/-- A list with elements of one shape. -/
def readList {α : Type} (read : Shape α) : Shape (List α)
  | .arr vs => readEach read vs
  | v => .error (.invalidType v "a sequence")

/-- One of several words, alone or as the only name of an object.  The value
under that name has to be empty in the sense of `isUnit`. -/
def readVariant {α : Type} (isUnit : Json → Bool) (variants : List (String × α)) : Shape α :=
  let pick (word : String) : Except ShapeError α :=
    match variants.lookup word with
    | some a => .ok a
    | none => .error (.unknownVariant word (variants.map Prod.fst))
  fun
  | .str word => pick word
  | .obj [(word, v)] =>
    match pick word with
    | .error e => .error e
    | .ok a => if isUnit v then .ok a else .error (.invalidType v "unit")
  | .obj _ => .error (.invalidValue "map" "map with a single key")
  | v => .error (.invalidType v "string or map")

/-- Only `null` is empty. -/
def isNull (v : Json) : Bool := v = .null

/-- `null` and the object without members are empty. -/
def isNullOrBare (v : Json) : Bool := v = .null || v = .obj []

/-! ## Records -/

/-- What it means that a record lacks a field. -/
inductive Absence (α : Type) where
  /-- The field has to be there. -/
  | refused
  /-- An object may lack the field, which then has this value; a list may not. -/
  | inObjects (a : α)
  /-- The field may be absent, and then has this value. -/
  | allowed (a : α)
  deriving Repr, DecidableEq

/-- A field of a record: its name, its shape and the meaning of its absence. -/
structure RecordField (α : Type) where
  /-- The name of the field in objects. -/
  name : String
  /-- The shape of its value. -/
  read : Shape α
  /-- The meaning of its absence. -/
  absence : Absence α

/-- The record that holds a field, in either form. -/
inductive Source where
  /-- The members of an object. -/
  | members (members : Members)
  | elements (elements : List Json)

/-- The number of elements of a list, in words. -/
def countedElements (n : Nat) : String :=
  if n = 1 then "1 element" else decimal n ++ " elements"

/-- The field of a record called `record` with `size` fields, at a place counted
from zero. -/
def RecordField.get {α : Type} (f : RecordField α) (record : String) (size place : Nat) :
    Source → Except ShapeError α
  | .members ms =>
    match ms.get? f.name, f.absence with
    | some v, _ => f.read v
    | none, .refused => .error (.missingField f.name)
    | none, .inObjects a => .ok a
    | none, .allowed a => .ok a
  | .elements vs =>
    match vs[place]?, f.absence with
    | some v, _ => f.read v
    | none, .allowed a => .ok a
    | none, _ =>
      .error (.invalidLength place ("struct " ++ record ++ " with " ++ countedElements size))

/-- A member that may fit a field or not: its name and its check. -/
structure FieldCheck where
  /-- The name of the field in objects. -/
  name : String
  /-- Whether a value fits. -/
  check : Json → Except ShapeError Unit

def RecordField.toCheck {α : Type} (f : RecordField α) : FieldCheck :=
  ⟨f.name, fun v => (f.read v).map fun _ => ()⟩

/-- Visits members in order, and stops at the first that does not fit a field. -/
def visitMembers (checks : List FieldCheck) : Members → Except ShapeError Unit
  | [] => .ok ()
  | (k, v) :: ms =>
    match checks.find? (fun c => c.name = k) with
    | none => visitMembers checks ms
    | some c =>
      match c.check v with
      | .error e => .error e
      | .ok () => visitMembers checks ms

/-- What an error says of a list that is too long: its length and what was
expected, given the number of fields. -/
abbrev Excess := Nat → Nat → ShapeError

/-- The list is a value of its own. -/
def excessInArray : Excess := fun length _ => .invalidLength length "fewer elements in array"

/-- The list is part of the members of another record. -/
def excessInSequence : Excess := fun length size =>
  .invalidLength length (countedElements size ++ " in sequence")

/-- A record in either form. -/
def readRecord {α : Type} (record : String) (excess : Excess) (checks : List FieldCheck)
    (build : Source → Except ShapeError α) : Shape α
  | .obj ms =>
    match visitMembers checks ms with
    | .error e => .error e
    | .ok () => build (.members ms)
  | .arr vs =>
    match build (.elements vs) with
    | .error e => .error e
    | .ok a =>
      if checks.length < vs.length then .error (excess vs.length checks.length) else .ok a
  | v => .error (.invalidType v ("struct " ++ record))

end Concord.Json
