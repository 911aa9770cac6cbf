/-!
# Blank characters

A character is *blank* when it has the Unicode property White_Space.  The
property is a table of a standard: twenty-five code points in ten runs, of which
core's `Char.isWhitespace` knows the four of ASCII that are common.

`trimBlanks` cuts the blank characters off both ends of a text.  It works on
lists of characters, so that what is left can be said by `dropWhile` alone, and
a text that neither starts nor ends with a blank is left as it is
(`trimBlanks_eq_self`).
-/

namespace Concord.Text

/-! ## The property -/

/-- The runs of code points with the property, each with its two ends. -/
def blankRuns : List (Nat × Nat) :=
  [(0x9, 0xD), (0x20, 0x20), (0x85, 0x85), (0xA0, 0xA0), (0x1680, 0x1680), (0x2000, 0x200A),
   (0x2028, 0x2029), (0x202F, 0x202F), (0x205F, 0x205F), (0x3000, 0x3000)]

/-- A code point lies in one of the runs of a table. -/
def inRuns (runs : List (Nat × Nat)) (n : Nat) : Bool :=
  runs.any fun run => decide (run.1 ≤ n) && decide (n ≤ run.2)

/-- A character is blank when it is white space in Unicode's sense. -/
def isBlank (c : Char) : Bool :=
  inRuns blankRuns c.toNat

/-! ## Trimming -/

/-- The characters without the blank ones at the end. -/
def trimBlanksEnd (cs : List Char) : List Char :=
  (cs.reverse.dropWhile isBlank).reverse

/-- The characters without the blank ones at either end. -/
def trimBlanks (cs : List Char) : List Char :=
  trimBlanksEnd (cs.dropWhile isBlank)

theorem dropWhile_eq_self {p : Char → Bool} {cs : List Char}
    (h : ∀ c, cs.head? = some c → p c = false) : cs.dropWhile p = cs := by
  cases cs with
  | nil => rfl
  | cons c cs => simp [List.dropWhile, h c rfl]

theorem trimBlanks_eq_self {cs : List Char} (hd : ∀ c, cs.head? = some c → isBlank c = false)
    (tl : ∀ c, cs.getLast? = some c → isBlank c = false) : trimBlanks cs = cs := by
  rw [trimBlanks, dropWhile_eq_self hd, trimBlanksEnd, dropWhile_eq_self, List.reverse_reverse]
  intro c hc
  exact tl c (by simpa using hc)

end Concord.Text
