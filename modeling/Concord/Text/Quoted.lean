import Concord.Text.Printable

/-!
# Quoted text

A text is shown between double quotes, a character between single quotes.  A
backslash starts an escape: the delimiter, the backslash, the tab, the two line
ends and the null character have one of their own, and every other character
that does not stand for itself is written by its code point, as in `\u\x7b301\x7d`.
A character stands for itself when it is printable and does not extend the one
before it.
-/

namespace Concord.Text

/-! ## Escapes -/

/-- A character by its code point, in lower case and without leading zeros. -/
def codePointEscape (c : Char) : List Char :=
  ['\\', 'u', '\x7b'] ++ Nat.toDigits 16 c.toNat ++ ['\x7d']

/-- What is written for a character between two delimiters. -/
def escapeChar (delimiter c : Char) : List Char :=
  if c = '\x00' then ['\\', '0']
  else if c = '\t' then ['\\', 't']
  else if c = '\r' then ['\\', 'r']
  else if c = '\n' then ['\\', 'n']
  else if c = '\\' then ['\\', '\\']
  else if c = delimiter then ['\\', c]
  else if isExtending c then codePointEscape c
  else if isPrintable c then [c]
  else codePointEscape c

/-! ## Texts and characters -/

/-- A text in double quotes. -/
def quoted (s : String) : String :=
  String.ofList ('"' :: (s.toList.flatMap (escapeChar '"') ++ ['"']))

/-- A character in single quotes. -/
def quotedChar (c : Char) : String :=
  String.ofList ('\'' :: (escapeChar '\'' c ++ ['\'']))

/-! ## Shown values

Values are shown by the name of their variant with their parts in brackets, and
lists by their elements in square brackets. -/

/-- Texts with a separator between each two. -/
def joinWith (separator : String) : List String → String
  | [] => ""
  | [s] => s
  | s :: t :: rest => s ++ separator ++ joinWith separator (t :: rest)

def shownList (elements : List String) : String :=
  "[" ++ joinWith ", " elements ++ "]"

/-- A shown value that may be absent. -/
def shownOption : Option String → String
  | none => "None"
  | some s => "Some(" ++ s ++ ")"

/-- A shown truth value. -/
def shownBool (b : Bool) : String :=
  if b then "true" else "false"

/-- A named record with its fields in order. -/
def shownRecord (name : String) (fields : List (String × String)) : String :=
  name ++ " \x7b " ++ joinWith ", " (fields.map fun f => f.1 ++ ": " ++ f.2) ++ " \x7d"

end Concord.Text
