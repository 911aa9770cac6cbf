/-!
# Actions

An action works on a state, keeps a journal of what it did, and ends in a value or
in an error.  What was written to the state and to the journal stays written when
it ends in an error.

A component acts on a state of its own.  When components are put together their
states become parts of a larger one: `Act.within` runs an action on a part and
leaves the rest alone, and the journal is shared, in the order in which the records
are made.
-/

namespace Concord

/-! ## The journal -/

/-- How much a record matters. -/
inductive Level where
  /-- Of interest when a run is studied. -/
  | debug
  /-- Of interest in any case. -/
  | info
  /-- A state that may not last. -/
  | warn
  /-- A failure. -/
  | error
  deriving Repr, DecidableEq

def Level.name : Level → String
  | .debug => "DEBUG"
  | .info => "INFO"
  | .warn => "WARN"
  | .error => "ERROR"

/-- A record of the journal. -/
structure Record where
  /-- How much it matters. -/
  level : Level
  /-- What it says. -/
  text : String
  deriving Repr, DecidableEq

/-- A state with the journal so far, oldest record first. -/
structure Traced (σ : Type) where
  state : σ
  journal : List Record

/-! ## Actions -/

/-- An action on a state, which ends in a value or an error. -/
abbrev Act (σ ε α : Type) : Type := EStateM ε (Traced σ) α

namespace Act

variable {σ τ ε ε' α : Type}

/-- Adds a record to the journal. -/
def note (level : Level) (text : String) : Act σ ε Unit := fun s =>
  .ok () { s with journal := s.journal ++ [⟨level, text⟩] }

/-- Adds records to the journal. -/
def noteAll (records : List Record) : Act σ ε Unit := fun s =>
  .ok () { s with journal := s.journal ++ records }

/-- Reads the state. -/
def state : Act σ ε σ := fun s => .ok s.state s

/-- Changes the state. -/
def update (f : σ → σ) : Act σ ε Unit := fun s => .ok () { s with state := f s.state }

/-- Ends in a given value or error. -/
def ofExcept : Except ε α → Act σ ε α
  | .ok a => fun s => .ok a s
  | .error e => fun s => .error e s

/-- Changes the error in which an action ends. -/
def mapError (f : ε → ε') (act : Act σ ε α) : Act σ ε' α := fun s =>
  match act s with
  | .ok a s => .ok a s
  | .error e s => .error (f e) s

/-- Ends in a value that tells whether an action ended in a value or an error. -/
def attempt (act : Act σ ε α) : Act σ ε' (Except ε α) := fun s =>
  match act s with
  | .ok a s => .ok (.ok a) s
  | .error e s => .ok (.error e) s

/-- The outcome of an action on a state, with an empty journal before it. -/
def runOn (act : Act σ ε α) (s : σ) : Except ε α × Traced σ :=
  match act ⟨s, []⟩ with
  | .ok a s => (.ok a, s)
  | .error e s => (.error e, s)

@[simp] theorem note_apply (level : Level) (text : String) (s : Traced σ) :
    (note level text : Act σ ε Unit) s =
      .ok () { s with journal := s.journal ++ [⟨level, text⟩] } := rfl

end Act

/-! ## Parts of a state -/

/-- A part of a state: how it is read and how it is replaced. -/
structure Part (σ τ : Type) where
  /-- The part of a state. -/
  get : σ → τ
  /-- The state with another part. -/
  set : σ → τ → σ

namespace Part

/-- The first component of a pair. -/
def first {σ τ : Type} : Part (σ × τ) σ := ⟨Prod.fst, fun s a => (a, s.2)⟩

/-- The second component of a pair. -/
def second {σ τ : Type} : Part (σ × τ) τ := ⟨Prod.snd, fun s b => (s.1, b)⟩

end Part

namespace Act

variable {σ τ ε α : Type}

/-- Runs an action on a part of the state. -/
def within (part : Part σ τ) (act : Act τ ε α) : Act σ ε α := fun s =>
  match act ⟨part.get s.state, s.journal⟩ with
  | .ok a t => .ok a ⟨part.set s.state t.state, t.journal⟩
  | .error e t => .error e ⟨part.set s.state t.state, t.journal⟩

end Act

end Concord
