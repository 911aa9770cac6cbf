import Concord.Json.Value
import Concord.Text.Numeral

/-!
# Compact JSON text

A value is written without blanks, the members of an object in their order.  In
a text the double quote, the backslash and the control characters of ASCII are
escaped, the five common controls by a letter and the others by four
hexadecimal digits.  All other characters stand for themselves.
-/

namespace Concord.Json

open Concord.Text

/-! ## Texts -/

/-- What is written for a character of a text. -/
def escapedChar (c : Char) : List Char :=
  if c = '"' then ['\\', '"']
  else if c = '\\' then ['\\', '\\']
  else if c = '\x08' then ['\\', 'b']
  else if c = '\t' then ['\\', 't']
  else if c = '\n' then ['\\', 'n']
  else if c = '\x0c' then ['\\', 'f']
  else if c = '\r' then ['\\', 'r']
  else if c.toNat < 0x20 then ['\\', 'u'] ++ paddedHex 4 c.toNat
  else [c]

/-- A text between double quotes. -/
def textChars (s : String) : List Char :=
  '"' :: (s.toList.flatMap escapedChar ++ ['"'])

/-! ## Values -/

mutual

/-- The characters a value is written as. -/
def chars : Json → List Char
  | .null => ['n', 'u', 'l', 'l']
  | .bool true => ['t', 'r', 'u', 'e']
  | .bool false => ['f', 'a', 'l', 's', 'e']
  | .int n => intDigits n
  | .float x => x.compact
  | .str s => textChars s
  | .arr [] => ['[', ']']
  | .arr (x :: xs) => '[' :: (chars x ++ elementChars xs)
  | .obj [] => ['\x7b', '\x7d']
  | .obj ((k, v) :: ms) => '\x7b' :: (textChars k ++ ':' :: (chars v ++ memberChars ms))

/-- The elements of a list behind the first, and the closing bracket. -/
def elementChars : List Json → List Char
  | [] => [']']
  | x :: xs => ',' :: (chars x ++ elementChars xs)

/-- The members of an object behind the first, and the closing brace. -/
def memberChars : List (String × Json) → List Char
  | [] => ['\x7d']
  | (k, v) :: ms => ',' :: (textChars k ++ ':' :: (chars v ++ memberChars ms))

end

/-- A value as compact text. -/
def compact (v : Json) : String :=
  String.ofList v.chars

end Concord.Json
