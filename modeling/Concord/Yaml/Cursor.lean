/-!
# Places in a text

YAML gives meaning to lines and columns, so its readers move a *cursor*: what is
left of the text, and how many bytes, lines and characters of the line stand before
it.

Five characters break a line, and a carriage return with a line feed behind it
breaks it once.  A text may hold the printable characters, tabs and line breaks;
`isAdmitted` says which those are.

A step always shortens what is left (`step_lt`), which is why readers end.
-/

namespace Concord.Yaml

/-! ## Characters -/

/-- A character that a text may hold. -/
def isAdmitted (c : Char) : Bool :=
  c = '\t' || c = '\n' || c = '\r' || c = '\u0085' || (' ' ≤ c && c ≤ '~') ||
    (0xA0 ≤ c.toNat && c ≠ '\ufffe' && c ≠ '\uffff')

/-- A space or a tab. -/
def isBlank (c : Char) : Bool := c = ' ' || c = '\t'

/-- A character that breaks a line. -/
def isBreak (c : Char) : Bool :=
  c = '\n' || c = '\r' || c = '\u0085' || c = '\u2028' || c = '\u2029'

/-- A character of a name: an ASCII letter or digit, a low line or a hyphen. -/
def isNameChar (c : Char) : Bool := c.isAlphanum || c = '_' || c = '-'

/-- The text that a line break stands for: a line feed, unless it is one of the two
separators of Unicode, which are kept. -/
def breakText (c : Char) : Char :=
  if c = '\u2028' || c = '\u2029' then c else '\n'

/-- Whether a word ends before what comes next: a blank, a line break or the end. -/
def endsWord (next : Option Char) : Bool :=
  match next with
  | none => true
  | some c => isBlank c || isBreak c

/-- Whether a line ends before what comes next. -/
def endsLine (next : Option Char) : Bool :=
  match next with
  | none => true
  | some c => isBreak c

/-! ## Cursors -/

/-- A place in a text. -/
structure Cursor where
  /-- What is left of the text. -/
  rest : List Char
  /-- The bytes before it, in UTF-8. -/
  index : Nat
  /-- The lines before it. -/
  line : Nat
  /-- The characters before it in its line. -/
  column : Nat
  deriving Repr, DecidableEq

namespace Cursor

def start (text : List Char) : Cursor := ⟨text, 0, 0, 0⟩

def next (c : Cursor) : Option Char := c.rest.head?

/-- The character a number of places ahead. -/
def ahead (c : Cursor) (n : Nat) : Option Char := c.rest[n]?

/-- Whether a character comes next. -/
def sees (c : Cursor) (x : Char) : Bool := c.next = some x

/-- The place behind the next character, or behind the next line break. -/
def step (c : Cursor) : Cursor :=
  match c.rest with
  | [] => c
  | '\r' :: '\n' :: rest => ⟨rest, c.index + 2, c.line + 1, 0⟩
  | x :: rest =>
    if isBreak x then ⟨rest, c.index + x.utf8Size, c.line + 1, 0⟩
    else ⟨rest, c.index + x.utf8Size, c.line, c.column + 1⟩

theorem step_lt {c : Cursor} {x : Char} {rest : List Char} (h : c.rest = x :: rest) :
    c.step.rest.length < c.rest.length := by
  unfold step
  split
  · simp_all
  · rename_i r hr
    rw [hr]
    exact Nat.lt_succ_of_lt (Nat.lt_succ_self r.length)
  · rename_i y r _ hr
    split <;> simp [hr]

theorem step_le (c : Cursor) : c.step.rest.length ≤ c.rest.length := by
  cases h : c.rest with
  | nil => simp [step, h]
  | cons x rest => exact h ▸ Nat.le_of_lt (step_lt h)

/-- The place a number of steps ahead. -/
def skip (c : Cursor) : Nat → Cursor
  | 0 => c
  | n + 1 => c.step.skip n

theorem skip_le (c : Cursor) (n : Nat) : (c.skip n).rest.length ≤ c.rest.length := by
  induction n generalizing c with
  | zero => exact Nat.le_refl _
  | succ n ih => exact Nat.le_trans (ih c.step) c.step_le

/-- The characters in front of the first that fails a test. -/
def taken (c : Cursor) (p : Char → Bool) : List Char := c.rest.takeWhile p

/-- The place of the first character that fails a test, which line breaks do. -/
def past (c : Cursor) (p : Char → Bool) : Cursor := c.skip (c.taken p).length

/-- The place behind the spaces and tabs. -/
def pastBlanks (c : Cursor) : Cursor := c.past isBlank

def lineEnd (c : Cursor) : Cursor := c.past fun x => !isBreak x

/-- The place behind a remark, if one starts here. -/
def pastRemark (c : Cursor) : Cursor := if c.sees '#' then c.lineEnd else c

/-- The start of the next line, if nothing but a remark is left of this one. -/
def nextLine? (c : Cursor) : Option Cursor :=
  let c := c.pastBlanks.pastRemark
  if endsLine c.next then some c.step else none

/-- Whether a mark of three equal characters between documents stands here. -/
def seesMark (c : Cursor) (x : Char) : Bool :=
  c.column = 0 && c.rest.take 3 = [x, x, x] && endsWord (c.ahead 3)

/-- Whether one of the two marks between documents stands here. -/
def seesAnyMark (c : Cursor) : Bool := c.seesMark '-' || c.seesMark '.'

end Cursor

end Concord.Yaml
