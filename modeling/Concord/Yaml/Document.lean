import Concord.Yaml.Node

/-!
# Documents

A text holds one document at most.  Directives may stand in front of it, and marks
may stand around it.  A text of white space and remarks holds none, and is read as a
document that says nothing.

A document that is a mapping is a list of members with a name each
(`Document.members?`).  The values of members are read as what the reader expects:

* a text takes any scalar as it is written (`Document.text?`);
* an optional text is absent if its scalar is plain and empty or one of four words
  for nothing (`Document.optionalText?`);
* a number takes a plain scalar of digits, in the bases two, eight, ten and sixteen
  (`Document.natural?`).

In each of them a reference stands for the node that it leads to.
-/

namespace Concord.Yaml

open Concord.Text

/-- A document: its node, if there is one. -/
structure Document where
  root : Option Node
  deriving Repr

namespace Document

/-! ## Reading -/

/-- Whether a version of the format is known. -/
def knowsVersion (major minor : Nat) : Bool := major = 1 && (minor = 1 || minor = 2)

def readDirectives? (versioned : Bool) (declared : Handles) :
    List Token → Option (Handles × List Token)
  | .directive (.version major minor) :: ts =>
    if !versioned && knowsVersion major minor then readDirectives? true declared ts else none
  | .directive (.meaning handle octets) :: ts =>
    if (declared.lookup handle).isSome then none
    else readDirectives? versioned ((handle, octets) :: declared) ts
  | ts => some (declared ++ Handles.standard, ts)

/-- Reads a node from the tokens of a document.  Every call takes a token or is made
by one that does. -/
def readNode? (handles : Handles) (ts : List Token) : Option (Node × Node.Rest) :=
  Node.read? handles (4 * ts.length + 4) true false ⟨ts, .empty⟩

/-- Reads the node behind the mark in front of a document. -/
def readContent? (handles : Handles) (ts : List Token) : Option (Node × Node.Rest) :=
  match ts with
  | [] => some (.empty, ⟨ts, .empty⟩)
  | .directive _ :: _ => some (.empty, ⟨ts, .empty⟩)
  | .documentStart :: _ => some (.empty, ⟨ts, .empty⟩)
  | .documentEnd :: _ => some (.empty, ⟨ts, .empty⟩)
  | _ => readNode? handles ts

/-- Reads the first node of a list of tokens. -/
def readFirst? (ts : List Token) : Option (Node × Node.Rest) :=
  match ts with
  | .documentStart :: ts => readContent? .standard ts
  | .directive _ :: _ =>
    match readDirectives? false [] ts with
    | some (handles, .documentStart :: ts) => readContent? handles ts
    | _ => none
  | _ => readNode? .standard ts

def ofTokens? (ts : List Token) : Option Document :=
  match ts with
  | [] => some ⟨none⟩
  | _ =>
    match readFirst? ts with
    | none => none
    | some (n, r) => if r.tokens.all (· = .documentEnd) then some ⟨some n⟩ else none

def ofText? (text : List Char) : Option Document := (Token.ofText? text).bind ofTokens?

/-! ## Members -/

/-- The node that a node stands for. -/
def resolve (d : Document) (n : Node) : Option Node :=
  match n with
  | .reference a => d.root.bind (·.at? a)
  | n => some n

/-- A text: any scalar. -/
def text? (d : Document) (n : Node) : Option String :=
  match d.resolve n with
  | some (.scalar _ _ s) => some s.text
  | _ => none

/-- Members with their names. -/
def named? (d : Document) : List (Node × Node) → Option (List (String × Node))
  | [] => some []
  | (k, v) :: ms =>
    match d.text? k with
    | none => none
    | some name => (named? d ms).map ((name, v) :: ·)

/-- The members of a document.  One that says nothing has none. -/
def members? (d : Document) : Option (List (String × Node)) :=
  match d.root with
  | none => some []
  | some (.mapping _ ms) => d.named? ms
  | some (.scalar _ _ ⟨"", .plain⟩) => some []
  | some _ => none

/-! ## Values -/

/-- Whether a word is one of those for nothing. -/
def isNothing (text : String) : Bool := ["null", "Null", "NULL", "~"].contains text

/-- An optional text.  A plain scalar that is tagged as nothing has to be a word for
it, and with any other tag is a text. -/
def optionalText? (d : Document) (n : Node) : Option (Option String) :=
  match d.resolve n with
  | some (.scalar _ tag ⟨text, .plain⟩) =>
    match tag with
    | none => some (if text = "" || isNothing text then none else some text)
    | some t =>
      if t = standardTag "null" then (if isNothing text then some none else none)
      else some (some text)
  | some (.scalar _ _ s) => some (some s.text)
  | _ => none

/-- The bases of numbers, by the letters in front of their digits. -/
def bases : List (List Char × Nat) := [(['0', 'x'], 16), (['0', 'o'], 8), (['0', 'b'], 2)]

/-- A number in a base.  No sign stands in front. -/
def unsigned? (base limit : Nat) (cs : List Char) : Option Nat :=
  match cs with
  | '+' :: _ => none
  | cs => (readUnsigned base limit cs).toOption

/-- Whether digits start with a zero that they could do without. -/
def hasIdleZero (cs : List Char) : Bool :=
  cs.head? = some '0' && 1 < cs.length && cs.all Char.isDigit

/-- The number that a text denotes, behind a plus sign if there is one. -/
def numeral? (limit : Nat) (cs : List Char) : Option Nat :=
  let digits := match cs with
    | '+' :: cs => cs
    | cs => cs
  let inBase := bases.findSome? fun b =>
    if b.1.isPrefixOf digits then unsigned? b.2 limit (digits.drop b.1.length) else none
  match inBase with
  | some n => some n
  | none => if hasIdleZero digits then none else unsigned? 10 limit digits

/-- A number up to a limit: a plain scalar, or a literal one with the tag of numbers. -/
def natural? (d : Document) (limit : Nat) (n : Node) : Option Nat :=
  match d.resolve n with
  | some (.scalar _ tag s) =>
    if s.style = .plain ∨ (s.style = .literal ∧ tag = some (standardTag "int")) then
      numeral? limit s.text.toList
    else none
  | _ => none

end Document

end Concord.Yaml
