import Concord.Text.Numeral
import Concord.Yaml.Cursor

/-!
# Scalars

A scalar is a text, written in one of five styles.

* *Plain* and *quoted* scalars may run over several lines.  The white space between
  two words is then a `Gap`: spaces stand for themselves, one line break stands for
  a space, and of several line breaks the first is left out.
* *Literal* and *folded* scalars consist of whole lines behind a margin.  A literal
  scalar keeps its lines, a folded one joins lines as a gap does, unless one of them
  starts with a blank.  What follows the last line is up to `Chomp`.

How far a plain scalar reaches depends on where it stands: between brackets it ends
at the marks of a list or mapping, elsewhere at a line that starts left of the
*floor*, the first column inside the block around it.
-/

namespace Concord.Yaml

open Concord.Text

/-- How a scalar is written. -/
inductive Style where
  /-- Without any mark. -/
  | plain
  | singleQuoted
  | doubleQuoted
  /-- As lines. -/
  | literal
  /-- As lines to be joined. -/
  | folded
  deriving Repr, DecidableEq

/-- A text with the style in which it is written. -/
structure Scalar where
  text : String
  style : Style
  deriving Repr, DecidableEq

/-! ## White space between words -/

/-- White space between two words. -/
structure Gap where
  /-- The blanks, as long as there is no line break. -/
  blanks : List Char
  /-- Whether there is a line break. -/
  broken : Bool
  /-- The first line break, unless it is escaped. -/
  first : Option Char
  /-- The line breaks behind the first, the last one in front. -/
  more : List Char
  deriving Repr, DecidableEq

namespace Gap

/-- No white space. -/
def empty : Gap := ⟨[], false, none, []⟩

/-- An escaped line break. -/
def escaped : Gap := ⟨[], true, none, []⟩

def addBlank (g : Gap) (x : Char) : Gap :=
  if g.broken then g else { g with blanks := x :: g.blanks }

/-- A gap with a line break behind it. -/
def addBreak (g : Gap) (x : Char) : Gap :=
  if g.broken then { g with more := breakText x :: g.more }
  else ⟨[], true, some (breakText x), []⟩

/-- The characters that a gap stands for, the last one in front. -/
def reading (g : Gap) : List Char :=
  if g.broken then
    match g.first with
    | none => g.more
    | some '\n' => if g.more = [] then [' '] else g.more
    | some x => g.more ++ [x]
  else g.blanks

end Gap

/-! ## Quoted scalars -/

/-- A pair of quotes. -/
inductive Quote where
  /-- Single quotes, in which a quote is written twice. -/
  | single
  /-- Double quotes, in which a backslash escapes. -/
  | double
  deriving Repr, DecidableEq

namespace Quote

def mark : Quote → Char
  | .single => '\''
  | .double => '"'

def style : Quote → Style
  | .single => .singleQuoted
  | .double => .doubleQuoted

end Quote

/-- What follows a backslash. -/
inductive Escape where
  /-- A line break, which is left out with the blanks behind it. -/
  | lineBreak
  /-- A character, written in a number of characters. -/
  | char (x : Char) (width : Nat)
  deriving Repr, DecidableEq

namespace Escape

/-- The characters that have a letter or mark of their own. -/
def letters : List (Char × Char) :=
  [('0', '\u0000'), ('a', '\u0007'), ('b', '\u0008'), ('t', '\t'), ('\t', '\t'), ('n', '\n'),
   ('v', '\u000b'), ('f', '\u000c'), ('r', '\r'), ('e', '\u001b'), (' ', ' '), ('"', '"'),
   ('/', '/'), ('\\', '\\'), ('N', '\u0085'), ('_', '\u00a0'), ('L', '\u2028'), ('P', '\u2029')]

/-- The letters in front of a code point, with the number of its digits. -/
def codeWidths : List (Char × Nat) := [('x', 2), ('u', 4), ('U', 8)]

/-- The number that hexadecimal digits denote. -/
def hexValue? : Nat → List Char → Option Nat
  | acc, [] => some acc
  | acc, x :: xs =>
    match digitValue? 16 x with
    | none => none
    | some d => hexValue? (acc * 16 + d) xs

/-- The character of a code point, written in a number of digits. -/
def ofCode? (width : Nat) (cs : List Char) : Option Char :=
  let digits := cs.take width
  if digits.length < width then none
  else
    match hexValue? 0 digits with
    | none => none
    | some n => if n.isValidChar then some (Char.ofNat n) else none

/-- The escape at the front of a text, behind the backslash. -/
def read? : List Char → Option Escape
  | [] => none
  | x :: cs =>
    if isBreak x then some .lineBreak
    else
      match letters.lookup x with
      | some y => some (.char y 1)
      | none =>
        match codeWidths.lookup x with
        | none => none
        | some width => (ofCode? width cs).map fun y => .char y (width + 1)

end Escape

/-- Reads a scalar behind its opening quote.  The characters so far come last one
first, and the gap stands behind them. -/
def Quote.read? (q : Quote) (gap : Gap) (soFar : List Char) (c : Cursor) :
    Option (Scalar × Cursor) :=
  match _ : c.rest with
  | [] => none
  | x :: rest =>
    if isBlank x then q.read? (gap.addBlank x) soFar c.step
    else if isBreak x then q.read? (gap.addBreak x) soFar c.step
    else if c.seesAnyMark then none
    else if x = q.mark then
      if q = .single ∧ rest.head? = some x then
        q.read? .empty (x :: gap.reading ++ soFar) c.step.step
      else some (⟨String.ofList (gap.reading ++ soFar).reverse, q.style⟩, c.step)
    else if q = .double ∧ x = '\\' then
      match Escape.read? rest with
      | none => none
      | some .lineBreak => q.read? .escaped (gap.reading ++ soFar) c.step.step
      | some (.char y width) => q.read? .empty (y :: gap.reading ++ soFar) (c.step.skip width)
    else q.read? .empty (x :: gap.reading ++ soFar) c.step
termination_by c.rest.length
decreasing_by
  · exact Cursor.step_lt (by assumption)
  · exact Cursor.step_lt (by assumption)
  · exact Nat.lt_of_le_of_lt (Cursor.step_le _) (Cursor.step_lt (by assumption))
  · exact Nat.lt_of_le_of_lt (Cursor.step_le _) (Cursor.step_lt (by assumption))
  · exact Nat.lt_of_le_of_lt (Cursor.skip_le _ _) (Cursor.step_lt (by assumption))
  · exact Cursor.step_lt (by assumption)

/-! ## Plain scalars -/

/-- The marks of lists and mappings between brackets. -/
def isFlowMark (x : Char) : Bool :=
  x = ',' || x = '[' || x = ']' || x = '{' || x = '}'

/-- A plain scalar, and where it ends. -/
structure PlainEnd where
  text : List Char
  /-- Whether a line break stands between the scalar and its end. -/
  broken : Bool
  /-- The place behind the scalar and the white space that follows. -/
  cursor : Cursor

/-- Whether a plain scalar has ended before a character behind white space. -/
def endsPlain (floor : Nat) (inFlow : Bool) (c : Cursor) : Bool :=
  (!inFlow && c.column < floor) || c.seesAnyMark || c.sees '#'

/-- Reads a plain scalar from its first character.  The characters so far come last
one first, and the gap stands behind them. -/
def readPlain? (floor : Nat) (inFlow : Bool) (gap : Gap) (soFar : List Char) (c : Cursor) :
    Option PlainEnd :=
  match _ : c.rest with
  | [] => some ⟨soFar.reverse, gap.broken, c⟩
  | x :: rest =>
    if isBlank x then
      if gap.broken ∧ c.column < floor ∧ x = '\t' then none
      else readPlain? floor inFlow (gap.addBlank x) soFar c.step
    else if isBreak x then readPlain? floor inFlow (gap.addBreak x) soFar c.step
    else if gap ≠ .empty ∧ endsPlain floor inFlow c then some ⟨soFar.reverse, gap.broken, c⟩
    else if inFlow ∧ x = ':' ∧ rest.head?.any fun y => isFlowMark y || y = '?' then none
    else if (x = ':' ∧ endsWord rest.head?) ∨ (inFlow ∧ isFlowMark x) then
      some ⟨soFar.reverse, gap.broken, c⟩
    else readPlain? floor inFlow .empty (x :: gap.reading ++ soFar) c.step
termination_by c.rest.length
decreasing_by all_goals exact Cursor.step_lt (by assumption)

/-! ## Scalars of lines -/

/-- What becomes of the line breaks behind the last line. -/
inductive Chomp where
  /-- None is kept. -/
  | strip
  /-- The first is kept. -/
  | clip
  /-- All are kept. -/
  | keep
  deriving Repr, DecidableEq

/-- The first line of a scalar of lines. -/
structure BlockHeader where
  /-- What becomes of the last line breaks. -/
  chomp : Chomp
  /-- The width of the margin, if it is given. -/
  width : Option Nat
  deriving Repr, DecidableEq

namespace BlockHeader

/-- The word for a way to chomp. -/
def chomp? (next : Option Char) : Option Chomp :=
  match next with
  | some '+' => some .keep
  | some '-' => some .strip
  | _ => none

def width? (next : Option Char) : Option Nat := next.bind (digitValue? 10)

/-- Reads the words of a header, in either order. -/
def words (c : Cursor) : BlockHeader × Cursor :=
  match chomp? c.next, width? c.next with
  | some chomp, _ =>
    match width? c.step.next with
    | some n => (⟨chomp, some n⟩, c.step.step)
    | none => (⟨chomp, none⟩, c.step)
  | none, some n =>
    match chomp? c.step.next with
    | some chomp => (⟨chomp, some n⟩, c.step.step)
    | none => (⟨.clip, some n⟩, c.step)
  | none, none => (⟨.clip, none⟩, c)

/-- Reads a header up to the start of the next line. -/
def read? (c : Cursor) : Option (BlockHeader × Cursor) :=
  let r := words c
  if r.1.width = some 0 then none else r.2.nextLine?.map fun c => (r.1, c)

end BlockHeader

/-- Empty lines and the margin behind them. -/
structure Margin where
  /-- The greatest number of columns in front of a line. -/
  widest : Nat
  /-- The line breaks of the empty lines, the last one in front. -/
  breaks : List Char
  /-- The place behind the margin. -/
  cursor : Cursor

/-- Reads empty lines and a margin, which ends at a column if one is given.  A tab
may not stand in a margin. -/
def Margin.read? (column : Option Nat) (widest : Nat) (breaks : List Char) (c : Cursor) :
    Option Margin :=
  match _ : c.rest with
  | [] => some ⟨max widest c.column, breaks, c⟩
  | x :: _ =>
    let inMargin := column.all fun n => decide (c.column < n)
    if inMargin ∧ x = ' ' then Margin.read? column widest breaks c.step
    else if inMargin ∧ x = '\t' then none
    else if isBreak x then
      Margin.read? column (max widest c.column) (breakText x :: breaks) c.step
    else some ⟨max widest c.column, breaks, c⟩
termination_by c.rest.length
decreasing_by all_goals exact Cursor.step_lt (by assumption)

/-- The lines of a scalar that are read so far.  All characters come last one first. -/
structure BlockLines where
  /-- The characters up to the end of the last line. -/
  text : List Char
  /-- The line break behind the last line, if there is one. -/
  first : List Char
  /-- The line breaks of the empty lines behind it. -/
  more : List Char
  /-- Whether the last line starts with a blank. -/
  blank : Bool

namespace BlockLines

/-- The line breaks in front of a line that starts with a blank or does not. -/
def between (folded : Bool) (b : BlockLines) (blank : Bool) : List Char :=
  if folded ∧ b.first = ['\n'] ∧ ¬ b.blank ∧ ¬ blank then
    if b.more = [] then [' '] else b.more
  else b.more ++ b.first

/-- Reads lines behind a margin as long as there are any. -/
def read? (folded : Bool) (column : Nat) : Nat → BlockLines → Cursor → Option (BlockLines × Cursor)
  | 0, b, c => some (b, c)
  | fuel + 1, b, c =>
    if c.column = column ∧ c.rest ≠ [] then
      let blank := c.next.any isBlank
      let line := (c.taken fun x => !isBreak x).reverse
      let last := c.lineEnd
      let first := (last.next.map breakText).toList
      match Margin.read? (some column) 0 [] last.step with
      | none => none
      | some m =>
        read? folded column fuel
          ⟨line ++ between folded b blank ++ b.text, first, m.breaks, blank⟩ m.cursor
    else some (b, c)

/-- The characters of lines once the last line breaks are chomped. -/
def chomped (b : BlockLines) : Chomp → List Char
  | .strip => b.text
  | .clip => b.first ++ b.text
  | .keep => b.more ++ b.first ++ b.text

end BlockLines

/-- Reads a scalar of lines behind its mark.  The margin is given from the column of
the block around the scalar, or is that of the first line with text. -/
def readBlock? (folded : Bool) (floor : Nat) (c : Cursor) : Option (Scalar × Cursor) :=
  match BlockHeader.read? c with
  | none => none
  | some (header, c) =>
    let given := header.width.map (floor - 1 + ·)
    match Margin.read? given 0 [] c with
    | none => none
    | some m =>
      let column := given.getD (max m.widest (max floor 1))
      (BlockLines.read? folded column (m.cursor.rest.length + 1) ⟨[], [], m.breaks, false⟩
        m.cursor).map fun r =>
          (⟨String.ofList (r.1.chomped header.chomp).reverse,
            if folded then .folded else .literal⟩, r.2)

end Concord.Yaml
