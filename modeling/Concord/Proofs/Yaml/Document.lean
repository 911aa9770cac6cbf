import Concord.Proofs.Yaml.Line
import Concord.Proofs.Yaml.Number

/-!
# Documents of lines

A text of lines is read as the document of their members, in their order
(`Document.ofText?_linesChars`, `Document.members?_linesDocument`).

A value is a text in any case.  It is an optional text, unless it is one of four words for nothing
(`Value.optionalText`), and it is a number if it is a word that denotes one (`Value.Denotes`).
Readers take a value for just that (`Document.text?_node`, `Document.optionalText?_node`,
`Document.natural?_node_eq_some_iff`).
-/

namespace Concord.Yaml

/-! ## Values -/

namespace Value

/-- The text of a value, written in either form. -/
def text : Value → String
  | .plain w => w.text
  | .quoted s => s

/-- The optional text of a value.  Four words without quotes say that there is none. -/
def optionalText : Value → Option String
  | .plain w => if w.text ∈ ["null", "Null", "NULL", "~"] then none else some w.text
  | .quoted s => some s

/-- A value is a word that denotes a number. -/
def Denotes (v : Value) (n : Nat) : Prop := ∃ w, v = .plain w ∧ DenotesNatural w.chars n

/-- The node of a value. -/
def node (v : Value) : Node := .scalar none none v.scalar

end Value

section

open Text

variable {x : Char} {n : Nat}

theorem isGraphic_of_mem_natDigits (h : x ∈ natDigits n) :
    IsGraphic x ∧ x ∉ Lexer.indicators := by
  have hdigit : '0' ≤ x ∧ x ≤ '9' := by
    simpa [Char.isDigit, Char.le_def] using isDigit_of_mem_natDigits h
  exact of_forall_range (p := fun x => IsGraphic x ∧ x ∉ Lexer.indicators) (by decide) hdigit.1
    hdigit.2

/-- The digits of a number, as a word. -/
def Word.ofNat (n : Nat) : Word where
  text := decimal n
  isWord := by
    rw [decimal, String.toList_ofList]
    refine ⟨natDigits_ne_nil n, fun x hx => (isGraphic_of_mem_natDigits hx).1, fun x hx => ?_,
      fun h => ?_⟩
    · exact (isGraphic_of_mem_natDigits (List.mem_of_mem_head? hx)).2
    · have hcolon := (isGraphic_of_mem_natDigits (List.mem_of_getLast? h)).2
      exact hcolon (Lexer.mem_indicators.2 (by decide))

theorem Value.denotes_ofNat (n : Nat) : (Value.plain (.ofNat n)).Denotes n := by
  have hread := magnitude_natDigits .tooLarge (Nat.le_refl n)
  have hnumeral := ((magnitude_eq_ok_iff_numeral (by decide) (natDigits_ne_nil n)).1 hread).1
  have hchars : (Word.ofNat n).chars = natDigits n := String.toList_ofList
  refine ⟨_, rfl, hchars ▸ .plain (.decimal hnumeral fun h => ?_)⟩
  obtain rfl := head?_natDigits h
  rfl

/-- The word for nothing. -/
def Word.null : Word := { text := "null" }

/-- An optional text between quotes, or the word for nothing. -/
def Value.ofOption : Option String → Value
  | none => .plain .null
  | some text => .quoted text

theorem Value.optionalText_ofOption (text : Option String) :
    (Value.ofOption text).optionalText = text := by
  cases text with
  | none => rfl
  | some text => rfl

end

namespace Document

variable {d : Document} {v : Value} {limit n : Nat}

theorem text?_node (d : Document) (v : Value) : d.text? v.node = some v.text := by
  cases v <;> rfl

theorem optionalText?_node (d : Document) (v : Value) :
    d.optionalText? v.node = some v.optionalText := by
  cases v with
  | plain w =>
      have hne : w.text ≠ "" := by
        intro h
        exact w.ne_nil (by simp [Word.chars, h])
      simp [optionalText?, resolve, Value.node, Value.scalar, Word.scalar, Value.optionalText, hne,
        isNothing]
  | quoted s => rfl

theorem natural?_node_eq_some_iff : d.natural? limit v.node = some n ↔ v.Denotes n ∧ n ≤ limit := by
  cases v with
  | plain w =>
      have hread : d.natural? limit (Value.plain w).node = numeral? limit w.chars := by
        simp [natural?, resolve, Value.node, Value.scalar, Word.scalar, Word.chars]
      rw [hread, numeral?_eq_some_iff]
      simp [Value.Denotes]
  | quoted s => simp [natural?, resolve, Value.node, Value.scalar, Value.Denotes]

end Document

/-! ## Members -/

namespace Line

/-- The name and the value of a line, as nodes. -/
def member (l : Line) : Node × Node := (.scalar none none l.name.scalar, l.value.node)

end Line

/-- The document of some lines: a mapping, if there is a line at all. -/
def linesDocument : List Line → Document
  | [] => ⟨none⟩
  | l :: ls => ⟨some (.mapping none ((l :: ls).map Line.member))⟩

section

variable {handles : Handles} {fuel : Nat} {inBlock inMapping : Bool} {s : Scalar} {ts : List Token}
  {names : Node.Names}

theorem Node.read?_scalar :
    Node.read? handles (fuel + 1) inBlock inMapping ⟨.scalar s :: ts, names⟩
      = some (.scalar none none s, ⟨ts, names⟩) := by
  simp [Node.read?, Node.readProperties?, Node.Rest.behind]

theorem Node.read?_blockMapping :
    Node.read? handles (fuel + 1) true inMapping ⟨.blockMapping :: ts, names⟩
      = (Node.readMembers? handles fuel ⟨ts, names⟩).map fun x => (.mapping none x.1, x.2) := by
  simp [Node.read?, Node.readProperties?, Node.Rest.behind]

/-- A member is read from the tokens of its line. -/
theorem Node.readMembers?_line (line : Line) :
    Node.readMembers? handles (fuel + 2) ⟨line.tokens ++ ts, names⟩
      = (Node.readMembers? handles (fuel + 1) ⟨ts, names⟩).map fun x =>
          (line.member :: x.1, x.2) := by
  conv_lhs => rw [Node.readMembers?]
  simp [Line.tokens, Node.Rest.behind, Node.orEmpty, Node.memberEnds, Node.readValue?,
    Node.read?_scalar, Line.member, Value.node]

theorem Node.readMembers?_lines (ls : List Line) (hfuel : ls.length < fuel) :
    Node.readMembers? handles (fuel + 1) ⟨ls.flatMap Line.tokens ++ [.blockEnd], names⟩
      = some (ls.map Line.member, ⟨[], names⟩) := by
  induction ls generalizing fuel with
  | nil => simp [Node.readMembers?, Node.Rest.behind]
  | cons line ls ih =>
      rw [List.length_cons] at hfuel
      obtain ⟨fuel, rfl⟩ := Nat.exists_eq_add_one_of_ne_zero (Nat.ne_zero_of_lt hfuel)
      rw [List.flatMap_cons, List.append_assoc, Node.readMembers?_line, ih (by omega)]
      rfl

end

theorem length_linesTokens (ls : List Line) : ls.length ≤ (linesTokens ls).length := by
  cases ls with
  | nil => exact Nat.le_refl 0
  | cons line ls =>
      have hall : ls.length ≤ (ls.flatMap Line.tokens).length := by
        induction ls with
        | nil => exact Nat.le_refl 0
        | cons line ls ih =>
            simp [Line.tokens] at ih ⊢
            omega
      simp [linesTokens, Line.tokens] at hall ⊢
      omega

theorem Document.readFirst?_linesTokens (line : Line) (ls : List Line) :
    Document.readFirst? (linesTokens (line :: ls))
      = some (.mapping none ((line :: ls).map Line.member), ⟨[], .empty⟩) := by
  obtain ⟨ts, hts⟩ : ∃ ts, (line :: ls).flatMap Line.tokens ++ [.blockEnd] = ts := ⟨_, rfl⟩
  have htokens : linesTokens (line :: ls) = .blockMapping :: ts := hts ▸ rfl
  have hlength := length_linesTokens (line :: ls)
  have hmembers : Node.readMembers? .standard (4 * (linesTokens (line :: ls)).length + 3)
      ⟨ts, .empty⟩ = some ((line :: ls).map Line.member, ⟨[], .empty⟩) :=
    hts ▸ Node.readMembers?_lines (line :: ls) (by omega)
  rw [htokens] at hmembers ⊢
  rw [Document.readFirst?, Document.readNode?, Node.read?_blockMapping, hmembers]
  · rfl
  · simp
  · simp

/-- A text of lines is read as the document with their members. -/
theorem Document.ofText?_linesChars (ls : List Line) :
    Document.ofText? (linesChars ls) = some (linesDocument ls) := by
  rw [Document.ofText?, Token.ofText?_linesChars, Option.bind_some]
  cases ls with
  | nil => rfl
  | cons line ls =>
      rw [Document.ofTokens?.eq_2 _ (by simp [linesTokens]), Document.readFirst?_linesTokens]
      rfl

theorem Document.named?_member (d : Document) (ls : List Line) :
    d.named? (ls.map Line.member) = some (ls.map fun l => (l.name.text, l.value.node)) := by
  induction ls with
  | nil => rfl
  | cons line ls ih =>
      have hname : d.text? line.member.1 = some line.name.text :=
        d.text?_node (.plain line.name)
      simp only [List.map_cons, Document.named?, hname, ih]
      rfl

/-- The members of a document of lines are their names and values, in the order of the lines. -/
theorem Document.members?_linesDocument (ls : List Line) :
    (linesDocument ls).members? = some (ls.map fun l => (l.name.text, l.value.node)) := by
  cases ls with
  | nil => rfl
  | cons line ls => exact Document.named?_member _ (line :: ls)

end Concord.Yaml
