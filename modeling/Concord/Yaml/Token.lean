import Concord.Yaml.Scalar
import Concord.Yaml.Tag

/-!
# Tokens

A text is a list of tokens.  Some of them are marks of the text; those that open and
close *blocks* are found in its layout.

* A block opens where a list item or a key stands right of the column of the block
  around it, and closes where a line starts left of it.  Between brackets the layout
  has no meaning.
* What turns out to be a key is known only once the colon behind it is seen.  So the
  start of every possible key is kept as a *candidate*, one for each level of
  brackets, and the tokens in front of the key are put in at that place later.  A
  candidate is dropped at the end of its line, and after 1024 bytes.
* A possible key in the column of its block has to be a key, since nothing else may
  stand there.

The list ends with the text.  A text that is no list of tokens has none.
-/

namespace Concord.Yaml

/-- A token. -/
inductive Token where
  /-- A line in front of a document. -/
  | directive (d : Directive)
  /-- The mark in front of a document. -/
  | documentStart
  /-- The mark behind a document. -/
  | documentEnd
  /-- The start of a list in a block. -/
  | blockList
  /-- The start of a mapping in a block. -/
  | blockMapping
  | blockEnd
  /-- The bracket in front of a list. -/
  | listOpen
  /-- The bracket behind a list. -/
  | listClose
  /-- The brace in front of a mapping. -/
  | mappingOpen
  /-- The brace behind a mapping. -/
  | mappingClose
  /-- The mark of an item of a list in a block. -/
  | item
  /-- The mark between the entries of a list or mapping in brackets. -/
  | comma
  /-- What stands in front of a key. -/
  | key
  /-- What stands in front of a value. -/
  | value
  /-- A reference to an anchor. -/
  | reference (name : List Char)
  | anchor (name : List Char)
  | tag (tag : WrittenTag)
  | scalar (s : Scalar)
  deriving Repr, DecidableEq

/-- The start of a possible key. -/
structure Candidate where
  /-- Whether it has to be a key. -/
  required : Bool
  /-- The number of tokens in front of it. -/
  place : Nat
  /-- Where it stands. -/
  cursor : Cursor

/-- A candidate is too far back to be a key. -/
def Candidate.isStale (k : Candidate) (c : Cursor) : Bool :=
  k.cursor.line < c.line || k.cursor.index + 1024 < c.index

/-- The candidate of a level, unless it is too far back.  One that has to be a key may
not be dropped. -/
def keepFresh? (c : Cursor) : Option Candidate → Option (Option Candidate)
  | none => some none
  | some k => if k.isStale c then (if k.required then none else some none) else some (some k)

/-- The tokens of a text up to a place. -/
structure Lexer where
  /-- The place. -/
  cursor : Cursor
  /-- The tokens, last one first. -/
  tokens : List Token
  /-- The first column inside each open block, innermost first. -/
  floors : List Nat
  /-- The candidate on this level of brackets. -/
  candidate : Option Candidate
  /-- The candidates on the levels around it, innermost first. -/
  outer : List (Option Candidate)
  /-- Whether a key may start at the place. -/
  keyAllowed : Bool

namespace Lexer

def start (text : List Char) : Lexer := ⟨.start text, [], [], none, [], true⟩

/-- Whether the place is between brackets. -/
def inFlow (l : Lexer) : Bool := !l.outer.isEmpty

/-- The first column inside the innermost block. -/
def floor (l : Lexer) : Nat := l.floors.headD 0

/-- Adds a token and moves to the place behind it. -/
def push (l : Lexer) (t : Token) (c : Cursor) : Lexer :=
  { l with tokens := t :: l.tokens, cursor := c }

/-- Puts in a token in front of the tokens behind a number of them. -/
def insert (l : Lexer) (place : Nat) (t : Token) : Lexer :=
  { l with tokens := l.tokens.insertIdx (l.tokens.length - place) t }

/-! ## Blocks -/

/-- Opens a block at a column, unless one is open there.  Its token has a place. -/
def openBlock (l : Lexer) (column place : Nat) (t : Token) : Lexer :=
  if l.inFlow || column < l.floor then l
  else { l.insert place t with floors := (column + 1) :: l.floors }

/-- The blocks whose first column is at most a number, with the tokens that close the
others. -/
def closed (column : Nat) : List Nat → List Token → List Nat × List Token
  | [], ts => ([], ts)
  | f :: fs, ts => if column < f then closed column fs (.blockEnd :: ts) else (f :: fs, ts)

/-- Closes the blocks whose first column is greater than a number. -/
def closeBlocks (l : Lexer) (column : Nat) : Lexer :=
  if l.inFlow then l
  else
    let r := closed column l.floors l.tokens
    { l with floors := r.1, tokens := r.2 }

/-! ## Candidates -/

/-- Drops the candidate.  One that has to be a key may not be dropped. -/
def drop? (l : Lexer) : Option Lexer :=
  if l.candidate.any Candidate.required then none else some { l with candidate := none }

/-- Takes the place as the start of a possible key, if a key may start there. -/
def propose? (l : Lexer) : Option Lexer :=
  if l.keyAllowed then
    let required := !l.inFlow && l.floor = l.cursor.column + 1
    l.drop?.map fun l => { l with candidate := some ⟨required, l.tokens.length, l.cursor⟩ }
  else some l

/-- The lexer with a change of whether a key may start at the place. -/
def allowKey (l : Lexer) (allowed : Bool) : Lexer := { l with keyAllowed := allowed }

/-! ## White space -/

/-- The place behind white space and remarks, and whether a key may start there.  A key
may start on a new line of a block; a tab may not stand in front of one. -/
def pastSpace (inFlow keyAllowed : Bool) (c : Cursor) : Bool × Cursor :=
  match _ : c.rest with
  | [] => (keyAllowed, c)
  | x :: _ =>
    if (c.column = 0 ∧ x = '\ufeff') ∨ x = ' ' ∨ ((inFlow ∨ ¬ keyAllowed) ∧ x = '\t') then
      pastSpace inFlow keyAllowed c.step
    else if x = '#' then pastSpace inFlow keyAllowed c.step.lineEnd
    else if isBreak x then pastSpace inFlow (keyAllowed || !inFlow) c.step
    else (keyAllowed, c)
termination_by c.rest.length
decreasing_by
  · exact Cursor.step_lt (by assumption)
  · exact Nat.lt_of_le_of_lt (Cursor.skip_le _ _) (Cursor.step_lt (by assumption))
  · exact Cursor.step_lt (by assumption)

/-- Moves to the next token, drops the candidates that are too far back and closes the
blocks that end there. -/
def settle? (l : Lexer) : Option Lexer :=
  let r := pastSpace l.inFlow l.keyAllowed l.cursor
  match keepFresh? r.2 l.candidate, l.outer.mapM (keepFresh? r.2) with
  | some candidate, some outer =>
    let l : Lexer := { l with cursor := r.2, keyAllowed := r.1, candidate, outer }
    some (l.closeBlocks (r.2.column + 1))
  | _, _ => none

/-! ## Marks -/

/-- A directive in front of a document. -/
def directive? (l : Lexer) : Option Lexer :=
  match (l.closeBlocks 0).drop?, Directive.read? l.cursor with
  | some l, some (d, c) => some ((l.allowKey false).push (.directive d) c)
  | _, _ => none

def documentMark? (l : Lexer) (t : Token) : Option Lexer :=
  (l.closeBlocks 0).drop?.map fun l => (l.allowKey false).push t (l.cursor.skip 3)

/-- An opening bracket, behind which a key may start. -/
def openBracket? (l : Lexer) (t : Token) : Option Lexer :=
  l.propose?.map fun l =>
    { (l.allowKey true).push t l.cursor.step with
      candidate := none, outer := l.candidate :: l.outer }

def closeBracket? (l : Lexer) (t : Token) : Option Lexer :=
  l.drop?.map fun l =>
    { (l.allowKey false).push t l.cursor.step with
      candidate := l.outer.headD none, outer := l.outer.tail }

/-- A comma, behind which a key may start. -/
def comma? (l : Lexer) : Option Lexer :=
  l.drop?.map fun l => (l.allowKey true).push .comma l.cursor.step

/-- The mark of an item, behind which a key may start. -/
def item? (l : Lexer) : Option Lexer :=
  if !l.inFlow && !l.keyAllowed then none
  else
    (l.openBlock l.cursor.column l.tokens.length .blockList).drop?.map fun l =>
      (l.allowKey true).push .item l.cursor.step

/-- The mark of a key. -/
def key? (l : Lexer) : Option Lexer :=
  if !l.inFlow && !l.keyAllowed then none
  else
    (l.openBlock l.cursor.column l.tokens.length .blockMapping).drop?.map fun l =>
      (l.allowKey !l.inFlow).push .key l.cursor.step

/-- The mark of a value.  The candidate, if there is one, turns out to be a key. -/
def value? (l : Lexer) : Option Lexer :=
  match l.candidate with
  | some k =>
    let l := (l.insert k.place .key).openBlock k.cursor.column k.place .blockMapping
    some ({ l.allowKey false with candidate := none }.push .value l.cursor.step)
  | none =>
    if !l.inFlow && !l.keyAllowed then none
    else
      let l := l.openBlock l.cursor.column l.tokens.length .blockMapping
      some ((l.allowKey !l.inFlow).push .value l.cursor.step)

/-! ## Nodes -/

/-- The marks that may follow the name of an anchor. -/
def nameEnds : List Char := "?:,]\x7d%@\x60".toList

/-- An anchor or a reference to one, behind its mark. -/
def name? (l : Lexer) (token : List Char → Token) : Option Lexer :=
  let name := l.cursor.step.taken isNameChar
  let past := l.cursor.step.past isNameChar
  if name ≠ [] ∧ (endsWord past.next ∨ past.next.any nameEnds.contains) then
    l.propose?.map fun l => (l.allowKey false).push (token name) past
  else none

def tag? (l : Lexer) : Option Lexer :=
  match l.propose?, WrittenTag.read? l.inFlow l.cursor with
  | some l, some (t, c) => some ((l.allowKey false).push (.tag t) c)
  | _, _ => none

/-- A quoted scalar. -/
def quoted? (l : Lexer) (q : Quote) : Option Lexer :=
  match l.propose?, q.read? .empty [] l.cursor.step with
  | some l, some (s, c) => some ((l.allowKey false).push (.scalar s) c)
  | _, _ => none

/-- A plain scalar.  If it ends on another line, a key may start there. -/
def plain? (l : Lexer) : Option Lexer :=
  match l.propose?, readPlain? l.floor l.inFlow .empty [] l.cursor with
  | some l, some p =>
    some ((l.allowKey p.broken).push (.scalar ⟨String.ofList p.text, .plain⟩) p.cursor)
  | _, _ => none

/-- A scalar of lines. -/
def block? (l : Lexer) (folded : Bool) : Option Lexer :=
  match l.drop?, readBlock? folded l.floor l.cursor.step with
  | some l, some (s, c) => some ((l.allowKey true).push (.scalar s) c)
  | _, _ => none

/-- The marks that cannot start a plain scalar, unless another rule lets them. -/
def indicators : List Char := "-?:,[]\x7b\x7d#&*!|>'\"%@\x60".toList

/-- Whether a plain scalar starts with a character in front of another one. -/
def startsPlain (inFlow : Bool) (x : Char) (next : Option Char) : Bool :=
  !(endsWord (some x) || indicators.contains x) || (x = '-' && !next.any isBlank) ||
    (!inFlow && (x = '?' || x = ':') && !endsWord next)

/-! ## The tokens of a text -/

/-- Reads a token that starts with a character. -/
def token? (l : Lexer) (x : Char) : Option Lexer :=
  let next := l.cursor.ahead 1
  if l.cursor.column = 0 ∧ x = '%' then l.directive?
  else if l.cursor.seesMark '-' then l.documentMark? .documentStart
  else if l.cursor.seesMark '.' then l.documentMark? .documentEnd
  else if x = '[' then l.openBracket? .listOpen
  else if x = '{' then l.openBracket? .mappingOpen
  else if x = ']' then l.closeBracket? .listClose
  else if x = '}' then l.closeBracket? .mappingClose
  else if x = ',' then l.comma?
  else if x = '-' ∧ endsWord next then l.item?
  else if x = '?' ∧ (l.inFlow ∨ endsWord next) then l.key?
  else if x = ':' ∧ (l.inFlow ∨ endsWord next) then l.value?
  else if x = '*' then l.name? .reference
  else if x = '&' then l.name? .anchor
  else if x = '!' then l.tag?
  else if x = '|' ∧ ¬ l.inFlow then l.block? false
  else if x = '>' ∧ ¬ l.inFlow then l.block? true
  else if x = '\'' then l.quoted? .single
  else if x = '"' then l.quoted? .double
  else if startsPlain l.inFlow x next then l.plain?
  else none

/-- Reads tokens up to the end of the text.  Every token takes a character at least. -/
def run? : Nat → Lexer → Option (List Token)
  | 0, _ => none
  | fuel + 1, l =>
    match l.settle? with
    | none => none
    | some l =>
      match l.cursor.rest with
      | [] => (l.closeBlocks 0).drop?.map fun l => l.tokens.reverse
      | x :: _ => (l.token? x).bind (run? fuel)

end Lexer

def Token.ofText? (text : List Char) : Option (List Token) :=
  if text.all isAdmitted then Lexer.run? (text.length + 1) (.start text) else none

end Concord.Yaml
