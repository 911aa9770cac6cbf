/-!
# Splitting at a separator

`splitOn` cuts a text at every place of a separator.  There is always a piece before
the first and one behind the last separator, so the empty text has one empty piece.
-/

namespace Concord.Text

/-- The pieces of a text between the places of a separator. -/
def splitOn (sep : Char) : List Char → List (List Char)
  | [] => [[]]
  | c :: cs =>
    if c = sep then [] :: splitOn sep cs
    else
      match splitOn sep cs with
      | [] => [[c]]
      | piece :: rest => (c :: piece) :: rest

/-- The part of a text before the last place of a separator and the part behind it,
if the text has one. -/
def splitLast (sep : Char) (cs : List Char) : Option (List Char × List Char) :=
  match cs.reverse.dropWhile (· ≠ sep) with
  | [] => none
  | _ :: before => some (before.reverse, (cs.reverse.takeWhile (· ≠ sep)).reverse)

/-- The part of a text before the first place of a separator and the part behind it,
if the text has one. -/
def splitFirst (sep : Char) (cs : List Char) : Option (List Char × List Char) :=
  match cs.dropWhile (· ≠ sep) with
  | [] => none
  | _ :: behind => some (cs.takeWhile (· ≠ sep), behind)

end Concord.Text
