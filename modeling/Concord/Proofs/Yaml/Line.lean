import Concord.Proofs.Yaml.Scalar
import Concord.Yaml.Token

/-!
# Lines of names and values

The plainest way to write a mapping is a line for each of its members: a name, a colon, a space and
a value (`Line`).  A name is a word, which may stand without quotes, and a value is a word or any
text between quotes.

Such lines are read as the tokens of a mapping, in their order (`Token.ofText?_linesChars`).  A
line takes three tokens, and after each of them the lexer settles in front of the next
(`Lexer.reads_name`, `Lexer.reads_colon`, `Lexer.reads_value`).  The colon of the first line opens
the mapping, and the end of the text closes it (`Lexer.InFrontOf`).
-/

namespace Concord.Yaml

/-! ## Lines -/

theorem Lexer.mem_indicators {x : Char} : x ∈ Lexer.indicators ↔
    x ∈ ['-', '?', ':', ',', '[', ']', '{', '}', '#', '&', '*', '!', '|', '>', '\'', '"', '%',
      '@', '\x60'] := Iff.rfl

/-- A text may stand without quotes: all its characters have a sign, and neither the first nor a
colon at the end is a mark. -/
def IsWord (cs : List Char) : Prop :=
  cs ≠ [] ∧ (∀ x ∈ cs, IsGraphic x) ∧ (∀ x ∈ cs.head?, x ∉ Lexer.indicators) ∧
    cs.getLast? ≠ some ':'

-- The instances for a list and for an option are named: there is one for all characters too.
instance : DecidablePred IsWord := fun cs =>
  haveI : Decidable (∀ x ∈ cs, IsGraphic x) := List.decidableBAll _ _
  haveI : Decidable (∀ x ∈ cs.head?, x ∉ Lexer.indicators) := Option.decidableForallMem _
  inferInstanceAs (Decidable (_ ∧ _ ∧ _ ∧ _))

/-- A text that may stand without quotes. -/
structure Word where
  text : String
  isWord : IsWord text.toList := by decide +kernel

namespace Word

def chars (w : Word) : List Char := w.text.toList

def scalar (w : Word) : Scalar := ⟨w.text, .plain⟩

@[simp] theorem ofList_chars (w : Word) : String.ofList w.chars = w.text := String.ofList_toList

theorem ne_nil (w : Word) : w.chars ≠ [] := w.isWord.1

theorem isGraphic (w : Word) : ∀ x ∈ w.chars, IsGraphic x := w.isWord.2.1

theorem starts (w : Word) : ∀ x ∈ w.chars.head?, x ∉ Lexer.indicators := w.isWord.2.2.1

theorem ends (w : Word) : w.chars.getLast? ≠ some ':' := w.isWord.2.2.2

theorem startsInk (w : Word) (tail : List Char) : StartsInk (w.chars ++ tail) := by
  intro x hx
  obtain ⟨y, ys, hys⟩ := List.exists_cons_of_ne_nil w.ne_nil
  have hmem : x ∈ w.chars.head? := by simpa [hys] using hx
  refine ⟨w.isGraphic x (List.mem_of_mem_head? hmem), ?_⟩
  rintro rfl
  exact w.starts '#' hmem (Lexer.mem_indicators.2 (by decide))

end Word

/-- What is written for a member. -/
inductive Value where
  /-- A word without quotes. -/
  | plain (w : Word)
  /-- Any text, between double quotes. -/
  | quoted (text : String)

namespace Value

def chars : Value → List Char
  | .plain w => w.chars
  | .quoted s => '"' :: quotedChars s.toList

def scalar : Value → Scalar
  | .plain w => w.scalar
  | .quoted s => ⟨s, .doubleQuoted⟩

theorem exists_chars_eq_cons (v : Value) (tail : List Char) :
    ∃ x xs, v.chars = x :: xs ∧ StartsInk (v.chars ++ tail) := by
  cases v with
  | plain w =>
      obtain ⟨x, xs, hxs⟩ := List.exists_cons_of_ne_nil w.ne_nil
      exact ⟨x, xs, hxs, w.startsInk tail⟩
  | quoted s =>
      refine ⟨'"', quotedChars s.toList, rfl, fun x hx => ?_⟩
      obtain rfl : '"' = x := Option.some.inj hx
      decide

end Value

/-- A line that gives a value to a name. -/
structure Line where
  name : Word
  value : Value
  /-- A longer name is not found in front of its colon. -/
  length_le : name.chars.length ≤ 1024 := by decide +kernel

namespace Line

def chars (l : Line) : List Char := l.name.chars ++ ':' :: ' ' :: (l.value.chars ++ ['\n'])

/-- The tokens of a line, in a mapping that is open. -/
def tokens (l : Line) : List Token :=
  [.key, .scalar l.name.scalar, .value, .scalar l.value.scalar]

end Line

/-- The text of some lines. -/
def linesChars (ls : List Line) : List Char := ls.flatMap Line.chars

/-- The tokens of some lines: those of a mapping, if there is a line at all. -/
def linesTokens : List Line → List Token
  | [] => []
  | l :: ls => .blockMapping :: ((l :: ls).flatMap Line.tokens ++ [.blockEnd])

theorem startsInk_linesChars (ls : List Line) : StartsInk (linesChars ls) := by
  cases ls with
  | nil => exact fun x hx => nomatch hx
  | cons l ls =>
      rw [linesChars, List.flatMap_cons, Line.chars, List.append_assoc]
      exact l.name.startsInk _

/-! ## Reading a line -/

section

variable {i l k column : Nat} {x : Char} {cs rest : List Char} {ts opened : List Token}
  {floors : List Nat} {c : Cursor}

namespace Lexer

theorem pastSpace_of_startsInk {inFlow allowed : Bool} (h : StartsInk rest) :
    pastSpace inFlow allowed ⟨rest, i, l, k⟩ = (allowed, ⟨rest, i, l, k⟩) := by
  cases rest with
  | nil => rw [pastSpace]
  | cons x rest =>
      obtain ⟨hx, hremark⟩ := h x (by simp)
      have hspace : x ≠ '\ufeff' ∧ x ≠ ' ' ∧ x ≠ '\t' :=
        hx.of_forall (p := fun x => x ≠ '\ufeff' ∧ x ≠ ' ' ∧ x ≠ '\t') (by decide)
      rw [pastSpace]
      simp [hspace, hremark, hx.isBreak]

theorem closed_eq_self (h : floors.headD 0 ≤ column) : closed column floors ts = (floors, ts) := by
  cases floors with
  | nil => rfl
  | cons f floors => exact if_neg (Nat.not_lt.2 h)

theorem closeBlocks_eq_self {s : Lexer} (h : s.floor ≤ column) : s.closeBlocks column = s := by
  unfold closeBlocks
  split
  · rfl
  · rw [closed_eq_self h]

/-- Where no candidate has to go and no block ends, settling only passes over white space. -/
theorem settle?_eq {allowed allowed' : Bool} {c' : Cursor} {candidate : Option Candidate}
    (hspace : pastSpace false allowed c = (allowed', c'))
    (hcandidate : keepFresh? c' candidate = some candidate)
    (hfloor : floors.headD 0 ≤ c'.column + 1) :
    (⟨c, ts, floors, candidate, [], allowed⟩ : Lexer).settle?
      = some ⟨c', ts, floors, candidate, [], allowed'⟩ := by
  have hclose : (⟨c', ts, floors, candidate, [], allowed'⟩ : Lexer).closeBlocks (c'.column + 1)
      = ⟨c', ts, floors, candidate, [], allowed'⟩ := closeBlocks_eq_self hfloor
  simp [settle?, inFlow, hspace, hcandidate, hclose]

theorem settle?_of_startsInk {allowed : Bool} (h : StartsInk rest)
    (hfloor : floors.headD 0 ≤ k + 1) :
    (⟨⟨rest, i, l, k⟩, ts, floors, none, [], allowed⟩ : Lexer).settle?
      = some ⟨⟨rest, i, l, k⟩, ts, floors, none, [], allowed⟩ :=
  settle?_eq (pastSpace_of_startsInk h) rfl hfloor

/-- A token that starts like a word is a plain scalar. -/
theorem token?_of_word {s : Lexer} (hx : IsGraphic x) (hmark : x ∉ indicators)
    (hnext : s.cursor.rest = x :: rest) (hstop : s.cursor.seesMark '.' = false) :
    s.token? x = s.plain? := by
  have hline : s.cursor.seesMark '-' = false := by
    have hne : x ≠ '-' := by
      rintro rfl
      exact hmark (mem_indicators.2 (by decide))
    simp [Cursor.seesMark, hnext, hne]
  have hstarts : ∀ y, startsPlain s.inFlow x y = true := by
    intro y
    simp [startsPlain, hx.endsWord, hmark]
  simp only [mem_indicators, List.mem_cons, not_or] at hmark
  simp [token?, hline, hstop, hstarts, hmark]

/-- Three points in front of a word and its colon are no mark. -/
theorem seesMark_word (w : Word) :
    Cursor.seesMark ⟨w.chars ++ ':' :: rest, i, l, k⟩ '.' = false := by
  have hcolon : endsWord (some ':') = false := rfl
  have hgraphic := w.isGraphic
  rcases hchars : w.chars with _ | ⟨a, _ | ⟨b, _ | ⟨c, _ | ⟨d, cs⟩⟩⟩⟩
  · exact absurd hchars w.ne_nil
  · simp [Cursor.seesMark]
  · simp [Cursor.seesMark]
  · simp [Cursor.seesMark, Cursor.ahead, hcolon]
  · have hd : endsWord (some d) = false := (hgraphic d (by simp [hchars])).endsWord
    simp [Cursor.seesMark, Cursor.ahead, hd]

/-- A name at the start of a line is a plain scalar in front of its colon, and may turn out to
be a key.  It has to be one where a mapping is open. -/
theorem token?_name (w : Word) (hx : w.chars.head? = some x) :
    (⟨⟨w.chars ++ ':' :: ' ' :: rest, i, l, 0⟩, ts, floors, none, [], true⟩ : Lexer).token? x
      = some ⟨⟨':' :: ' ' :: rest, i + w.chars.length, l, w.chars.length⟩,
          .scalar w.scalar :: ts, floors,
          some ⟨floors.headD 0 = 1, ts.length, ⟨w.chars ++ ':' :: ' ' :: rest, i, l, 0⟩⟩, [],
          false⟩ := by
  have hmem : x ∈ w.chars := List.mem_of_mem_head? hx
  obtain ⟨xs, hxs⟩ := List.head?_eq_some_iff.1 hx
  rw [token?_of_word (w.isGraphic x hmem) (w.starts x hx) (by simp [hxs]; rfl) (seesMark_word w)]
  simp [plain?, propose?, drop?, readPlain?_of_isGraphic w.isGraphic w.ends, readPlain?_colon,
    allowKey, push, inFlow, floor, Word.scalar]

/-- The tokens and the open blocks in front of a line, and the tokens once a mapping is open. -/
inductive InFrontOf : List Token → List Nat → List Token → Prop where
  /-- The first line opens the mapping. -/
  | first : InFrontOf [] [] [.blockMapping]
  | later {ts : List Token} : InFrontOf ts [1] ts

/-- The colon behind a candidate makes it a key. -/
theorem token?_colon {s : Scalar} {required : Bool} (h : InFrontOf ts floors opened)
    (hcolumn : c.column = 0) (hk : k ≠ 0) :
    (⟨⟨':' :: ' ' :: rest, i, l, k⟩, .scalar s :: ts, floors,
        some ⟨required, ts.length, c⟩, [], false⟩ : Lexer).token? ':'
      = some ⟨⟨' ' :: rest, i + 1, l, k + 1⟩, .value :: .scalar s :: .key :: opened, [1], none, [],
          false⟩ := by
  have hends : endsWord (some ' ') = true := rfl
  have hmark : ∀ y, Cursor.seesMark ⟨':' :: ' ' :: rest, i, l, k⟩ y = false := by
    intro y
    simp [Cursor.seesMark, hk]
  have htoken : ∀ s : Lexer, s.cursor = ⟨':' :: ' ' :: rest, i, l, k⟩ →
      s.token? ':' = s.value? := by
    intro s hs
    simp [token?, hs, hk, hmark, Cursor.ahead, hends]
  have hstep : Cursor.step ⟨':' :: ' ' :: rest, i, l, k⟩ = ⟨' ' :: rest, i + 1, l, k + 1⟩ :=
    Cursor.step_of_isPrinted (by decide)
  rw [htoken _ rfl]
  cases h with
  | first => simp [value?, openBlock, insert, inFlow, floor, allowKey, push, hcolumn, hstep]
  | later => simp [value?, openBlock, insert, inFlow, floor, allowKey, push, hcolumn, hstep]

theorem pastSpace_space (h : StartsInk rest) :
    pastSpace false false ⟨' ' :: rest, i, l, k⟩ = (false, ⟨rest, i + 1, l, k + 1⟩) := by
  have hstep : Cursor.step ⟨' ' :: rest, i, l, k⟩ = ⟨rest, i + 1, l, k + 1⟩ :=
    Cursor.step_of_isPrinted (by decide)
  rw [pastSpace]
  simp [hstep, pastSpace_of_startsInk h]

theorem pastSpace_lineFeed (h : StartsInk rest) :
    pastSpace false false ⟨'\n' :: rest, i, l, k⟩ = (true, ⟨rest, i + 1, l + 1, 0⟩) := by
  have hbreak : isBreak '\n' = true := rfl
  have hstep : Cursor.step ⟨'\n' :: rest, i, l, k⟩ = ⟨rest, i + 1, l + 1, 0⟩ := rfl
  rw [pastSpace]
  simp [hbreak, hstep, pastSpace_of_startsInk h]

/-- A word behind a name ends with its line. -/
theorem token?_wordValue (w : Word) (hx : w.chars.head? = some x) (hk : k ≠ 0)
    (hrest : StartsInk rest) :
    (⟨⟨w.chars ++ '\n' :: rest, i, l, k⟩, ts, [1], none, [], false⟩ : Lexer).token? x
      = some ⟨⟨rest, i + w.chars.length + 1, l + 1, 0⟩, .scalar w.scalar :: ts, [1], none, [],
          true⟩ := by
  have hmem : x ∈ w.chars := List.mem_of_mem_head? hx
  obtain ⟨xs, hxs⟩ := List.head?_eq_some_iff.1 hx
  have hnext : w.chars ++ '\n' :: rest = x :: (xs ++ '\n' :: rest) := by simp [hxs]
  have hstop : Cursor.seesMark ⟨w.chars ++ '\n' :: rest, i, l, k⟩ '.' = false := by
    simp [Cursor.seesMark, hk]
  rw [token?_of_word (w.isGraphic x hmem) (w.starts x hx) hnext hstop]
  simp [plain?, propose?, floor, inFlow, readPlain?_of_isGraphic w.isGraphic w.ends,
    readPlain?_lineFeed hrest, allowKey, push, Word.scalar]

/-- A quoted text behind a name ends in front of the end of its line. -/
theorem token?_quotedValue (text : String) (hk : k ≠ 0) :
    (⟨⟨'"' :: (quotedChars text.toList ++ '\n' :: rest), i, l, k⟩, ts, [1], none, [], false⟩ :
        Lexer).token? '"'
      = some ⟨⟨'\n' :: rest, i + 1 + (quotedChars text.toList).length, l,
          k + 1 + (quotedChars text.toList).length⟩, .scalar ⟨text, .doubleQuoted⟩ :: ts, [1], none,
          [], false⟩ := by
  have hmark : ∀ y, Cursor.seesMark
      ⟨'"' :: (quotedChars text.toList ++ '\n' :: rest), i, l, k⟩ y = false := by
    intro y
    simp [Cursor.seesMark, hk]
  have hstep : Cursor.step ⟨'"' :: (quotedChars text.toList ++ '\n' :: rest), i, l, k⟩
      = ⟨quotedChars text.toList ++ '\n' :: rest, i + 1, l, k + 1⟩ :=
    Cursor.step_of_isPrinted (by decide)
  have hread : Quote.double.read? .empty []
      ⟨quotedChars text.toList ++ '\n' :: rest, i + 1, l, k + 1⟩
        = some (⟨text, .doubleQuoted⟩, ⟨'\n' :: rest, i + 1 + (quotedChars text.toList).length, l,
            k + 1 + (quotedChars text.toList).length⟩) := by
    have hempty : (Gap.empty.reading ++ []).reverse ++ text.toList = text.toList := rfl
    rw [Quote.read?_quotedChars text.toList (Nat.succ_ne_zero k) rfl, hempty,
      String.ofList_toList]
  simp [token?, hk, hmark, quoted?, propose?, hstep, hread, allowKey, push]

/-- A value with the end of its line is a scalar, behind which the lexer settles at the start of
the next line. -/
theorem token?_value {v : Value} (ts : List Token) (hx : v.chars.head? = some x) (hk : k ≠ 0)
    (hrest : StartsInk rest) :
    ∃ s j, (⟨⟨v.chars ++ '\n' :: rest, i, l, k⟩, ts, [1], none, [], false⟩ : Lexer).token? x
        = some s ∧
      s.settle? = some ⟨⟨rest, j, l + 1, 0⟩, .scalar v.scalar :: ts, [1], none, [], true⟩ := by
  have hfloor : [1].headD 0 ≤ 0 + 1 := Nat.le_refl 1
  cases v with
  | plain w =>
      exact ⟨_, _, token?_wordValue w hx hk hrest, settle?_of_startsInk hrest hfloor⟩
  | quoted text =>
      obtain rfl : '"' = x := Option.some.inj hx
      exact ⟨_, _, token?_quotedValue text hk, settle?_eq (pastSpace_lineFeed hrest) rfl hfloor⟩

/-- A lexer goes on as another one does once it has read a token. -/
def Reads (s s' : Lexer) : Prop := ∀ fuel, run? (fuel + 1) s = run? fuel s'

section

variable {s t s' : Lexer}

theorem reads_of_token? (hs : s.settle? = some t) (hrest : t.cursor.rest = x :: cs)
    (htoken : t.token? x = some s') : Reads s s' := by
  intro fuel
  rw [run?, hs]
  simp only [hrest, htoken, Option.bind_some]

theorem reads_name (w : Word) (hlength : w.chars.length ≤ 1024) (h : InFrontOf ts floors opened)
    (hs : s.settle? = some ⟨⟨w.chars ++ ':' :: ' ' :: rest, i, l, 0⟩, ts, floors, none, [], true⟩) :
    ∃ s' required c, Reads s s' ∧ c.column = 0 ∧
      s'.settle? = some ⟨⟨':' :: ' ' :: rest, i + w.chars.length, l, w.chars.length⟩,
        .scalar w.scalar :: ts, floors, some ⟨required, ts.length, c⟩, [], false⟩ := by
  obtain ⟨x, xs, hx⟩ := List.exists_cons_of_ne_nil w.ne_nil
  have hhead : w.chars.head? = some x := by rw [hx, List.head?_cons]
  have hfloor : floors.headD 0 ≤ w.chars.length + 1 := by
    cases h <;> simp
  have hfresh : ¬ i + 1024 < i + w.chars.length := by omega
  refine ⟨_, _, _, reads_of_token? hs (by rw [hx]; rfl) (token?_name w hhead), rfl,
    settle?_eq (pastSpace_of_startsInk ?_) ?_ hfloor⟩
  · intro y hy
    obtain rfl : ':' = y := Option.some.inj hy
    decide
  · simp [keepFresh?, Candidate.isStale, hfresh]

theorem reads_colon {required : Bool} {text : Scalar} (h : InFrontOf ts floors opened)
    (hcolumn : c.column = 0) (hk : k ≠ 0) (hrest : StartsInk rest)
    (hs : s.settle? = some ⟨⟨':' :: ' ' :: rest, i, l, k⟩, .scalar text :: ts, floors,
      some ⟨required, ts.length, c⟩, [], false⟩) :
    ∃ s', Reads s s' ∧ s'.settle? = some ⟨⟨rest, i + 1 + 1, l, k + 1 + 1⟩,
      .value :: .scalar text :: .key :: opened, [1], none, [], false⟩ :=
  ⟨_, reads_of_token? hs rfl (token?_colon h hcolumn hk),
    settle?_eq (pastSpace_space hrest) rfl (Nat.le_add_left 1 _)⟩

theorem reads_value {v : Value} (hk : k ≠ 0) (hrest : StartsInk rest)
    (hs : s.settle? = some ⟨⟨v.chars ++ '\n' :: rest, i, l, k⟩, ts, [1], none, [], false⟩) :
    ∃ s' j, Reads s s' ∧
      s'.settle? = some ⟨⟨rest, j, l + 1, 0⟩, .scalar v.scalar :: ts, [1], none, [], true⟩ := by
  obtain ⟨x, xs, hx, -⟩ := v.exists_chars_eq_cons rest
  have hhead : v.chars.head? = some x := by rw [hx, List.head?_cons]
  obtain ⟨s', j, htoken, hsettle⟩ := token?_value (i := i) (l := l) ts hhead hk hrest
  exact ⟨s', j, reads_of_token? hs (by rw [hx]; rfl) htoken, hsettle⟩

/-- Three tokens are read in a line, and then the lexer stands in front of the next line. -/
theorem run?_line (line : Line) (h : InFrontOf ts floors opened) (hrest : StartsInk rest)
    (hs : s.settle? = some ⟨⟨line.chars ++ rest, i, l, 0⟩, ts, floors, none, [], true⟩) :
    ∃ s' j, (∀ fuel, run? (fuel + 3) s = run? fuel s') ∧
      s'.settle?
        = some ⟨⟨rest, j, l + 1, 0⟩, line.tokens.reverse ++ opened, [1], none, [], true⟩ := by
  have hchars : line.chars ++ rest
      = line.name.chars ++ ':' :: ' ' :: (line.value.chars ++ '\n' :: rest) := by
    simp [Line.chars]
  have hne : line.name.chars.length ≠ 0 := by
    have := line.name.ne_nil
    simpa using this
  obtain ⟨-, -, -, hvalue⟩ := line.value.exists_chars_eq_cons ('\n' :: rest)
  obtain ⟨s₁, required, c, hname, hcolumn, hs₁⟩ :=
    reads_name line.name line.length_le h (hchars ▸ hs)
  obtain ⟨s₂, hcolon, hs₂⟩ := reads_colon h hcolumn hne hvalue hs₁
  obtain ⟨s₃, j, hread, hs₃⟩ := reads_value (Nat.succ_ne_zero _) hrest hs₂
  refine ⟨s₃, j, fun fuel => ?_, hs₃⟩
  rw [hname, hcolon, hread]

theorem run?_lines {fuel : Nat} (ls : List Line) (hfuel : 3 * ls.length < fuel)
    (hs : s.settle? = some ⟨⟨linesChars ls, i, l, 0⟩, ts, [1], none, [], true⟩) :
    run? fuel s = some (ts.reverse ++ (ls.flatMap Line.tokens ++ [.blockEnd])) := by
  induction ls generalizing s i l ts fuel with
  | nil =>
      obtain ⟨fuel, rfl⟩ := Nat.exists_eq_add_one_of_ne_zero (Nat.ne_of_gt hfuel)
      simp [run?, hs, linesChars, closeBlocks, closed, inFlow, drop?]
  | cons line ls ih =>
      obtain ⟨fuel, rfl⟩ : ∃ f, fuel = f + 3 := ⟨fuel - 3, by simp at hfuel; omega⟩
      obtain ⟨s', j, hrun, hs'⟩ := run?_line line .later (startsInk_linesChars ls) hs
      rw [hrun, ih (by simp at hfuel; omega) hs']
      simp

end

end Lexer

theorem isPrinted_of_mem_word {w : Word} (h : x ∈ w.chars) : IsPrinted x :=
  (w.isGraphic x h).isPrinted

theorem Value.isAdmitted {v : Value} (h : x ∈ v.chars) : isAdmitted x = true := by
  cases v with
  | plain w => exact (isPrinted_of_mem_word h).isAdmitted
  | quoted s =>
      refine IsPrinted.isAdmitted ?_
      rcases List.mem_cons.1 h with rfl | h
      · decide
      · rcases List.mem_append.1 h with h | h
        · obtain ⟨y, -, hx⟩ := List.mem_flatMap.1 h
          exact isPrinted_of_mem_quotedChar hx
        · rw [List.mem_singleton.1 h]
          decide

theorem Line.isAdmitted {line : Line} (h : x ∈ line.chars) : Yaml.isAdmitted x = true := by
  simp only [Line.chars, List.mem_append, List.mem_cons, List.not_mem_nil, or_false] at h
  rcases h with h | rfl | rfl | h | rfl
  · exact (isPrinted_of_mem_word h).isAdmitted
  · decide
  · decide
  · exact Value.isAdmitted h
  · decide

theorem three_mul_length_le (ls : List Line) : 3 * ls.length ≤ (linesChars ls).length := by
  induction ls with
  | nil => exact Nat.le_refl 0
  | cons line ls ih =>
      simp [linesChars, Line.chars] at ih ⊢
      omega

/-- A text of lines is read as the tokens of a mapping. -/
theorem Token.ofText?_linesChars (ls : List Line) :
    Token.ofText? (linesChars ls) = some (linesTokens ls) := by
  have hadmitted : (linesChars ls).all Yaml.isAdmitted = true := by
    rw [List.all_eq_true]
    intro x hx
    obtain ⟨line, -, hx⟩ := List.mem_flatMap.1 hx
    exact Line.isAdmitted hx
  have hlength := three_mul_length_le ls
  rw [Token.ofText?, if_pos hadmitted]
  have hs : (Lexer.start (linesChars ls)).settle?
      = some ⟨⟨linesChars ls, 0, 0, 0⟩, [], [], none, [], true⟩ :=
    Lexer.settle?_of_startsInk (startsInk_linesChars ls) (Nat.zero_le _)
  cases ls with
  | nil =>
      have hs' : (Lexer.start []).settle? = some ⟨⟨[], 0, 0, 0⟩, [], [], none, [], true⟩ := hs
      simp [Lexer.run?, hs', linesChars, linesTokens, Lexer.closeBlocks, Lexer.closed, Lexer.inFlow,
        Lexer.drop?]
  | cons line ls =>
      obtain ⟨s, j, hrun, hs'⟩ := Lexer.run?_line line .first (startsInk_linesChars ls) hs
      obtain ⟨fuel, hfuel⟩ : ∃ f, (linesChars (line :: ls)).length + 1 = f + 3 :=
        ⟨(linesChars (line :: ls)).length - 2, by simp at hlength; omega⟩
      rw [hfuel, hrun, Lexer.run?_lines ls (by simp at hlength; omega) hs']
      simp [linesTokens]

end

end Concord.Yaml
