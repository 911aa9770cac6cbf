import Concord.Act

/-!
# How actions end

An action ends in a value or an error and leaves a state and a journal behind, and two
ends can be compared.  An action made of several is opened at its first part: `Act.bind_ok`
and `Act.bind_error` go forward from the end of that part, `Act.exists_of_bind_ok` goes back
to it.  What every event preserves is preserved by a run of events (`Act.exists_forM`).

An action that is made again and again *follows* a sequence of answers when the state
keeps track of how many have been given (`Act.Follows`).  Actions that follow sequences
are put together with the sequences they follow: a reading after an action
(`Act.Follows.reading`), and one action on either part of a state (`Act.Follows.both`).

`Act.replay` gives the answers of a sequence one after another and counts them.  It
stands for a party of which nothing is known but what it answered.
-/

namespace Concord

deriving instance DecidableEq for Traced

/-- Ends are compared by what they end in and what they leave behind. -/
instance decEqResult {ε σ α : Type} [DecidableEq ε] [DecidableEq σ] [DecidableEq α] :
    DecidableEq (EStateM.Result ε σ α)
  | .ok a s, .ok b t => decidable_of_iff (a = b ∧ s = t) (by simp)
  | .ok _ _, .error _ _ => isFalse (by simp)
  | .error _ _, .ok _ _ => isFalse (by simp)
  | .error e s, .error f t => decidable_of_iff (e = f ∧ s = t) (by simp)

namespace Act

variable {σ τ ε ε' α β : Type}

/-! ## Actions one after another -/

theorem bind_ok {act : Act σ ε α} {f : α → Act σ ε β} {s t : Traced σ} {a : α}
    (h : act s = .ok a t) : (act >>= f) s = f a t := by
  show EStateM.bind act f s = f a t
  rw [EStateM.bind, h]

theorem bind_error {act : Act σ ε α} {f : α → Act σ ε β} {s t : Traced σ} {e : ε}
    (h : act s = .error e t) : (act >>= f) s = .error e t := by
  show EStateM.bind act f s = .error e t
  rw [EStateM.bind, h]

/-- What ends in a value has a first part that ends in one. -/
theorem exists_of_bind_ok {act : Act σ ε α} {f : α → Act σ ε β} {s u : Traced σ} {b : β}
    (h : (act >>= f) s = .ok b u) : ∃ a t, act s = .ok a t ∧ f a t = .ok b u := by
  cases ha : act s with
  | ok a t =>
      rw [bind_ok ha] at h
      exact ⟨a, t, rfl, h⟩
  | error e t =>
      rw [bind_error ha] at h
      cases h

@[simp] theorem ofExcept_ok (a : α) (s : Traced σ) :
    (ofExcept (.ok a) : Act σ ε α) s = .ok a s := rfl

@[simp] theorem ofExcept_error (e : ε) (s : Traced σ) :
    (ofExcept (.error e) : Act σ ε α) s = .error e s := rfl

theorem ofExcept_inj {r r' : Except ε α} {s t : Traced σ}
    (h : ofExcept r s = ofExcept r' t) : r = r' ∧ s = t := by
  cases r <;> cases r' <;> cases h <;> exact ⟨rfl, rfl⟩

/-- What ends in a given value or error goes on with what ends in one without touching the
state. -/
theorem bind_ofExcept {act : Act σ ε α} {f : α → Act σ ε β} {g : α → Except ε β}
    {r : Except ε α} {s t : Traced σ} (h : act s = ofExcept r t)
    (hf : ∀ a, f a t = ofExcept (g a) t) : (act >>= f) s = ofExcept (r >>= g) t := by
  cases r with
  | ok a => exact (bind_ok h).trans (hf a)
  | error e => exact bind_error h

/-- What ends in a given value or error once its values are read ends in one before. -/
theorem exists_of_map_ofExcept {act : Act σ ε α} {f : α → β} {r : Except ε β} {s t : Traced σ}
    (h : (f <$> act) s = ofExcept r t) : ∃ r', act s = ofExcept r' t ∧ r'.map f = r := by
  rw [map_eq_pure_bind] at h
  cases ha : act s with
  | ok a u =>
      rw [bind_ok ha] at h
      cases r with
      | ok b =>
          cases h
          exact ⟨.ok a, rfl, rfl⟩
      | error e => cases h
  | error e u =>
      rw [bind_error ha] at h
      cases r with
      | ok b => cases h
      | error e' =>
          cases h
          exact ⟨.error e, rfl, rfl⟩

/-! ## Actions on a part and their ends -/

theorem within_ok {part : Part σ τ} {act : Act τ ε α} {s : Traced σ} {t : Traced τ} {a : α}
    (h : act ⟨part.get s.state, s.journal⟩ = .ok a t) :
    within part act s = .ok a ⟨part.set s.state t.state, t.journal⟩ := by
  rw [within, h]

theorem within_error {part : Part σ τ} {act : Act τ ε α} {s : Traced σ} {t : Traced τ} {e : ε}
    (h : act ⟨part.get s.state, s.journal⟩ = .error e t) :
    within part act s = .error e ⟨part.set s.state t.state, t.journal⟩ := by
  rw [within, h]

theorem within_ofExcept {part : Part σ τ} {act : Act τ ε α} {r : Except ε α} {s : Traced σ}
    {t : Traced τ} (h : act ⟨part.get s.state, s.journal⟩ = ofExcept r t) :
    within part act s = ofExcept r ⟨part.set s.state t.state, t.journal⟩ := by
  cases r with
  | ok a => exact within_ok h
  | error e => exact within_error h

theorem attempt_ok {act : Act σ ε α} {s t : Traced σ} {a : α} (h : act s = .ok a t) :
    (attempt act : Act σ ε' (Except ε α)) s = .ok (.ok a) t := by
  rw [attempt, h]

theorem attempt_error {act : Act σ ε α} {s t : Traced σ} {e : ε} (h : act s = .error e t) :
    (attempt act : Act σ ε' (Except ε α)) s = .ok (.error e) t := by
  rw [attempt, h]

theorem attempt_ofExcept {act : Act σ ε α} {r : Except ε α} {s t : Traced σ}
    (h : act s = ofExcept r t) : (attempt act : Act σ ε' (Except ε α)) s = .ok r t := by
  cases r with
  | ok a => exact attempt_ok h
  | error e => exact attempt_error h

theorem mapError_ok {f : ε → ε'} {act : Act σ ε α} {s t : Traced σ} {a : α}
    (h : act s = .ok a t) : mapError f act s = .ok a t := by
  rw [mapError, h]

theorem mapError_error {f : ε → ε'} {act : Act σ ε α} {s t : Traced σ} {e : ε}
    (h : act s = .error e t) : mapError f act s = .error (f e) t := by
  rw [mapError, h]

theorem mapError_ofExcept {f : ε → ε'} {act : Act σ ε α} {r : Except ε α} {s t : Traced σ}
    (h : act s = ofExcept r t) : mapError f act s = ofExcept (r.mapError f) t := by
  rw [mapError, h]
  cases r <;> rfl

/-! ## Runs -/

/-- What each event of a run preserves, given the events before it, a whole run preserves. -/
theorem exists_forM {κ : Type} {perform : κ → Act σ ε Unit} {kept : List κ → σ → Prop}
    (hstep : ∀ {history s} event, kept history s.state →
      ∃ t, perform event s = .ok () t ∧ kept (history ++ [event]) t.state)
    (later : List κ) {history : List κ} {s : Traced σ} (h : kept history s.state) :
    ∃ t, later.forM perform s = .ok () t ∧ kept (history ++ later) t.state := by
  induction later generalizing history s with
  | nil => exact ⟨s, rfl, by rwa [List.append_nil]⟩
  | cons event later ih =>
      obtain ⟨t, hperform, ht⟩ := hstep event h
      obtain ⟨u, hrest, hu⟩ := ih ht
      refine ⟨u, ?_, by rwa [List.append_assoc] at hu⟩
      show (perform event >>= fun _ => later.forM perform) s = _
      rw [bind_ok hperform]
      exact hrest

/-! ## Sequences of answers -/

/-- The action gives the answers of a sequence, from number one on.  After `n` answers
none of which was an error the state satisfies `sound n`, and it satisfies `broken n` when
the last of them was one. -/
structure Follows (act : Act σ ε α) (answers : Nat → Except ε α)
    (sound broken : Nat → σ → Prop) : Prop where
  /-- The next answer is a value. -/
  ok : ∀ {n s a}, sound n s.state → answers (n + 1) = .ok a →
    ∃ t, act s = .ok a t ∧ sound (n + 1) t.state
  /-- The next answer is an error. -/
  error : ∀ {n s e}, sound n s.state → answers (n + 1) = .error e →
    ∃ t, act s = .error e t ∧ broken (n + 1) t.state

/-- The state after `k` answers, the last of which is given. -/
def Reached (sound broken : Nat → σ → Prop) (k : Nat) (answer : Except ε α) (w : σ) : Prop :=
  match answer with
  | .ok _ => sound k w
  | .error _ => broken k w

/-- Gives the answers of a sequence.  The state counts the answers given. -/
def replay (answers : Nat → Except ε α) : Act Nat ε α := fun s =>
  ofExcept (answers (s.state + 1)) { s with state := s.state + 1 }

/-- The state is the number of answers given. -/
def Counts (n w : Nat) : Prop := w = n

/-- What ends in the next answer, whether that is a value or an error, follows the sequence. -/
theorem follows_of_ofExcept {act : Act σ ε α} {answers : Nat → Except ε α}
    {at' : Nat → σ → Prop} (h : ∀ {n} {s : Traced σ}, at' n s.state →
      ∃ t, act s = ofExcept (answers (n + 1)) t ∧ at' (n + 1) t.state) :
    Follows act answers at' at' where
  ok := by
    intro n s a hs ha
    obtain ⟨t, hact, ht⟩ := h hs
    rw [ha] at hact
    exact ⟨t, hact, ht⟩
  error := by
    intro n s e hs he
    obtain ⟨t, hact, ht⟩ := h hs
    rw [he] at hact
    exact ⟨t, hact, ht⟩

theorem follows_replay (answers : Nat → Except ε α) :
    Follows (replay answers) answers Counts Counts := by
  refine follows_of_ofExcept ?_
  intro n s hs
  obtain rfl : s.state = n := hs
  exact ⟨{ s with state := s.state + 1 }, rfl, rfl⟩

theorem Reached.eq_of_counts {k n : Nat} {answer : Except ε α}
    (h : Reached Counts Counts k answer n) : n = k := by
  cases answer <;> exact h

/-- What has the same answer in every state of a kind, and leaves a state of that kind,
follows the sequence of that answer. -/
theorem follows_const {act : Act σ ε α} {a : α} {kept : σ → Prop}
    (h : ∀ s : Traced σ, kept s.state → ∃ t, act s = .ok a t ∧ kept t.state) :
    Follows act (fun _ => .ok a) (fun _ => kept) (fun _ => kept) where
  ok := by
    intro n s b hs hb
    cases hb
    exact h s hs
  error := by
    intro n s e hs he
    cases he

/-- What takes a sequence of states in order follows the sequence of the answers it gives. -/
theorem follows_states {act : Act σ ε α} {answers : Nat → α} {states : Nat → σ}
    (h : ∀ n journal, ∃ journal',
      act ⟨states n, journal⟩ = .ok (answers (n + 1)) ⟨states (n + 1), journal'⟩) :
    Follows act (fun n => .ok (answers n)) (fun n w => w = states n)
      (fun n w => w = states n) where
  ok := by
    rintro n ⟨w, journal⟩ a rfl ha
    cases ha
    obtain ⟨journal', hact⟩ := h n journal
    exact ⟨⟨states (n + 1), journal'⟩, hact, rfl⟩
  error := by
    intro n s e hs he
    cases he

/-! ## Putting sequences together -/

/-- What is read off an answer. -/
def readOff (f : α → Except ε β) (answers : Nat → Except ε α) (n : Nat) : Except ε β :=
  (answers n).bind f

/-- An answer that is read follows the readings of the sequence.  The state does not tell
an error of reading from an answer. -/
theorem Follows.reading {act : Act σ ε α} {answers : Nat → Except ε α} {at' : Nat → σ → Prop}
    (h : Follows act answers at' at') (f : α → Except ε β) :
    Follows (act >>= fun a => ofExcept (f a)) (readOff f answers) at' at' where
  ok := by
    intro n s b hs hb
    cases ha : answers (n + 1) with
    | error e =>
        rw [readOff, ha] at hb
        cases hb
    | ok a =>
        obtain ⟨t, hact, ht⟩ := h.ok hs ha
        rw [readOff, ha] at hb
        have hf : f a = .ok b := hb
        exact ⟨t, by rw [bind_ok hact, hf, ofExcept_ok], ht⟩
  error := by
    intro n s e hs he
    cases ha : answers (n + 1) with
    | error e' =>
        obtain ⟨t, hact, ht⟩ := h.error hs ha
        rw [readOff, ha] at he
        cases he
        exact ⟨t, bind_error hact, ht⟩
    | ok a =>
        obtain ⟨t, hact, ht⟩ := h.ok hs ha
        rw [readOff, ha] at he
        have hf : f a = .error e := he
        exact ⟨t, by rw [bind_ok hact, hf, ofExcept_error], ht⟩

/-- The answers of two sequences side by side, the first of which is one answer ahead.
The second is not asked for an answer if the first has none. -/
def sideBySide (left : Nat → Except ε α) (right : Nat → Except ε β) (n : Nat) :
    Except ε (α × β) :=
  match left (n + 1) with
  | .error e => .error e
  | .ok a =>
    match right n with
    | .error e => .error e
    | .ok b => .ok (a, b)

theorem sideBySide_eq_ok_iff {left : Nat → Except ε α} {right : Nat → Except ε β} {n : Nat}
    {a : α} {b : β} :
    sideBySide left right n = .ok (a, b) ↔ left (n + 1) = .ok a ∧ right n = .ok b := by
  cases hl : left (n + 1) <;> cases hr : right n <;> simp [sideBySide, hl, hr]

theorem sideBySide_eq_error_iff {left : Nat → Except ε α} {right : Nat → Except ε β} {n : Nat}
    {e : ε} :
    sideBySide left right n = .error e ↔
      left (n + 1) = .error e ∨ (∃ a, left (n + 1) = .ok a) ∧ right n = .error e := by
  cases hl : left (n + 1) <;> cases hr : right n <;> simp [sideBySide, hl, hr]

theorem exists_eq_ok_of_no_error {r : Except ε α} (h : ¬ ∃ e, r = .error e) :
    ∃ a, r = .ok a := by
  cases r with
  | ok a => exact ⟨a, rfl⟩
  | error e => exact absurd ⟨e, rfl⟩ h

/-- Both parts of a state after as many answers of either sequence, none an error. -/
def BothSound (atLeft : Nat → σ → Prop) (atRight : Nat → τ → Prop) (n : Nat) (w : σ × τ) : Prop :=
  atLeft (n + 1) w.1 ∧ atRight n w.2

/-- Both parts of a state when answer number `n` was an error: it was one of the second
part only if the first part had an answer. -/
def BothBroken (left : Nat → Except ε α) (atLeft : Nat → σ → Prop) (atRight : Nat → τ → Prop)
    (n : Nat) (w : σ × τ) : Prop :=
  atLeft (n + 1) w.1 ∧
    match left (n + 1) with
    | .error _ => atRight (n - 1) w.2
    | .ok _ => atRight n w.2

/-- An action on either part of a state, one after the other, follows the two sequences
side by side. -/
theorem Follows.both {first : Act σ ε α} {second : Act τ ε β} {left : Nat → Except ε α}
    {right : Nat → Except ε β} {atLeft : Nat → σ → Prop} {atRight : Nat → τ → Prop}
    (hl : Follows first left atLeft atLeft) (hr : Follows second right atRight atRight) :
    Follows
      (do
        let a ← within Part.first first
        let b ← within Part.second second
        return (a, b))
      (sideBySide left right) (BothSound atLeft atRight) (BothBroken left atLeft atRight) where
  ok := by
    intro n s p hs hp
    cases ha : left (n + 1 + 1) with
    | error e =>
        rw [sideBySide, ha] at hp
        cases hp
    | ok a =>
        obtain ⟨t, hfirst, ht⟩ := hl.ok (s := ⟨s.state.1, s.journal⟩) hs.1 ha
        cases hb : right (n + 1) with
        | error e =>
            rw [sideBySide, ha, hb] at hp
            cases hp
        | ok b =>
            obtain ⟨u, hsecond, hu⟩ := hr.ok (s := ⟨s.state.2, t.journal⟩) hs.2 hb
            rw [sideBySide, ha, hb] at hp
            cases hp
            refine ⟨⟨(t.state, u.state), u.journal⟩, ?_, ht, hu⟩
            rw [bind_ok (within_ok hfirst), bind_ok (within_ok hsecond)]
            rfl
  error := by
    intro n s e hs he
    cases ha : left (n + 1 + 1) with
    | error e' =>
        obtain ⟨t, hfirst, ht⟩ := hl.error (s := ⟨s.state.1, s.journal⟩) hs.1 ha
        rw [sideBySide, ha] at he
        cases he
        refine ⟨⟨(t.state, s.state.2), t.journal⟩, ?_, ht, ?_⟩
        · rw [bind_error (within_error hfirst)]
          rfl
        · rw [ha]
          exact hs.2
    | ok a =>
        obtain ⟨t, hfirst, ht⟩ := hl.ok (s := ⟨s.state.1, s.journal⟩) hs.1 ha
        cases hb : right (n + 1) with
        | ok b =>
            rw [sideBySide, ha, hb] at he
            cases he
        | error e' =>
            obtain ⟨u, hsecond, hu⟩ := hr.error (s := ⟨s.state.2, t.journal⟩) hs.2 hb
            rw [sideBySide, ha, hb] at he
            cases he
            refine ⟨⟨(t.state, u.state), u.journal⟩, ?_, ht, ?_⟩
            · rw [bind_ok (within_ok hfirst), bind_error (within_error hsecond)]
              rfl
            · rw [ha]
              exact hu

end Act

end Concord
