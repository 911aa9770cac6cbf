import Concord.Key.Spec
import Concord.Proofs.Key.Tree
import Mathlib.Data.List.Lex

/-!
# The first bad threshold

What stands in a specification has a *place* there, the numbers of the children that lead down
to it (`KeySpec.at?`).  The lexicographic order of places is pre-order: a list is in front of
what it holds, and what one child holds is in front of what the next one holds.

A threshold is sound or it is bad, in one of two ways (`BadThreshold`).  A specification is valid
when the thresholds at all places are sound.  Otherwise there is a first place where one is not,
and validation ends in what is bad about that one (`validate_reports_first`), although it looks
at no place behind.
-/

namespace Concord.KeySpec

open KeyTree (SoundThreshold)

variable {s : KeySpec} {ss : List KeySpec} {required : Option UInt32} {e f : ThresholdError}

/-! ## One threshold -/

/-- What is bad about the threshold of a list with a number of children. -/
inductive BadThreshold (children : Nat) : Option UInt32 → ThresholdError → Prop where
  | zero : BadThreshold children (some 0) .zero
  | tooLarge {n : UInt32} (h : children < n.toNat) :
      BadThreshold children (some n) (.tooLarge n children)

theorem soundThreshold_of_check {n : Nat} (h : checkThreshold n required = .ok ()) :
    SoundThreshold n required := by
  rintro m rfl
  rw [checkThreshold] at h
  split at h
  case isTrue => cases h
  case isFalse hzero =>
      split at h
      case isTrue => cases h
      case isFalse hlarge =>
          refine ⟨Nat.pos_of_ne_zero ?_, Nat.le_of_not_lt hlarge⟩
          intro hm
          exact hzero (UInt32.toNat_inj.1 hm)

theorem badThreshold_of_check {n : Nat} (h : checkThreshold n required = .error e) :
    BadThreshold n required e := by
  cases required with
  | none => cases h
  | some m =>
      rw [checkThreshold] at h
      split at h
      case isTrue hzero =>
          cases h
          exact hzero ▸ .zero
      case isFalse =>
          split at h
          case isTrue hlarge =>
              cases h
              exact .tooLarge hlarge
          case isFalse => cases h

theorem BadThreshold.not_sound {n : Nat} (h : BadThreshold n required e) :
    ¬ SoundThreshold n required := by
  intro hsound
  cases h with
  | zero => exact Nat.lt_irrefl 0 (hsound 0 rfl).1
  | tooLarge hlarge => exact Nat.not_lt.2 (hsound _ rfl).2 hlarge

theorem BadThreshold.unique {n : Nat} (h : BadThreshold n required e)
    (h' : BadThreshold n required f) : e = f := by
  cases h with
  | zero =>
      cases h' with
      | zero => rfl
      | tooLarge hlarge => exact absurd hlarge (Nat.not_lt_zero n)
  | tooLarge hlarge =>
      cases h' with
      | zero => exact absurd hlarge (Nat.not_lt_zero n)
      | tooLarge => rfl

/-! ## Places -/

/-- The specification at a place. -/
def at? : KeySpec → List Nat → Option KeySpec
  | s, [] => some s
  | .single _ _, _ :: _ => none
  | .list ss _, i :: place => ss[i]?.bind fun s => s.at? place

/-- The threshold at a place is sound, if there is a list. -/
def SoundAt (s : KeySpec) (place : List Nat) : Prop :=
  ∀ ss required, s.at? place = some (.list ss required) → SoundThreshold ss.length required

/-- There is a list at a place, with a bad threshold. -/
def BadAt (s : KeySpec) (place : List Nat) (e : ThresholdError) : Prop :=
  ∃ ss required, s.at? place = some (.list ss required) ∧ BadThreshold ss.length required e

/-- A place is the first in pre-order that has a bad threshold. -/
structure FirstBad (s : KeySpec) (place : List Nat) (e : ThresholdError) : Prop where
  bad : s.BadAt place e
  sound : ∀ earlier < place, s.SoundAt earlier

theorem BadAt.not_sound {place : List Nat} (h : s.BadAt place e) : ¬ s.SoundAt place := by
  obtain ⟨ss, required, hat, hbad⟩ := h
  intro hsound
  exact hbad.not_sound (hsound ss required hat)

theorem BadAt.unique {place : List Nat} (h : s.BadAt place e) (h' : s.BadAt place f) : e = f := by
  obtain ⟨ss, required, hat, hbad⟩ := h
  obtain ⟨ss', required', hat', hbad'⟩ := h'
  rw [hat] at hat'
  cases hat'
  exact hbad.unique hbad'

/-- There is only one first place with a bad threshold, and only one thing bad about it. -/
theorem FirstBad.unique {place other : List Nat} (h : s.FirstBad place e)
    (h' : s.FirstBad other f) : e = f := by
  rcases lt_trichotomy place other with hlt | rfl | hlt
  · exact absurd (h'.sound place hlt) h.bad.not_sound
  · exact h.bad.unique h'.bad
  · exact absurd (h.sound other hlt) h'.bad.not_sound

theorem soundAt_single {a : Algorithm} {m : Material} (place : List Nat) :
    (single a m).SoundAt place := by
  intro ss required hat
  cases place with
  | nil => cases hat
  | cons i place => cases hat

theorem soundAt_nil (h : SoundThreshold ss.length required) : (list ss required).SoundAt [] := by
  intro ts r hat
  cases hat
  exact h

theorem soundAt_child {i : Nat} {place : List Nat}
    (h : ∀ s, ss[i]? = some s → s.SoundAt place) : (list ss required).SoundAt (i :: place) := by
  intro ts r hat
  obtain ⟨s, hs, hplace⟩ := Option.bind_eq_some_iff.1 hat
  exact h s hs ts r hplace

theorem badAt_child {i : Nat} {place : List Nat} (hs : ss[i]? = some s) (h : s.BadAt place e) :
    (list ss required).BadAt (i :: place) e := by
  obtain ⟨ts, r, hat, hbad⟩ := h
  exact ⟨ts, r, Option.bind_eq_some_iff.2 ⟨s, hs, hat⟩, hbad⟩

/-! ## Checks in turn -/

theorem validate_list : validate (.list ss required)
    = (checkThreshold ss.length required).bind fun _ => validateAll ss := by
  rw [validate]
  cases checkThreshold ss.length required with
  | error e => rfl
  | ok u => rfl

theorem validateAll_cons : validateAll (s :: ss) = (validate s).bind fun _ => validateAll ss := by
  rw [validateAll]
  cases validate s with
  | error e => rfl
  | ok u => rfl

section

variable {first second : Except ThresholdError Unit}

theorem bind_eq_ok_iff :
    (first.bind fun _ => second) = .ok () ↔ first = .ok () ∧ second = .ok () := by
  cases first with
  | error e => simp [Except.bind]
  | ok u => simp [Except.bind]

theorem bind_eq_error_iff : (first.bind fun _ => second) = .error e ↔
    first = .error e ∨ first = .ok () ∧ second = .error e := by
  cases first with
  | error f => simp [Except.bind]
  | ok u => simp [Except.bind]

end

/-! ## Valid specifications -/

mutual

theorem soundAt_of_validate : ∀ {s : KeySpec}, s.validate = .ok () → ∀ place, s.SoundAt place
  | .single _ _, _, place => soundAt_single place
  | .list ss required, h, place => by
      rw [validate_list, bind_eq_ok_iff] at h
      cases place with
      | nil => exact soundAt_nil (soundThreshold_of_check h.1)
      | cons i place =>
          refine soundAt_child fun s hs => ?_
          exact soundAt_of_validateAll h.2 s (List.mem_of_getElem? hs) place

theorem soundAt_of_validateAll : ∀ {ss : List KeySpec}, validateAll ss = .ok () →
    ∀ s ∈ ss, ∀ place, s.SoundAt place
  | [], _ => fun _ h => absurd h List.not_mem_nil
  | s :: ss, h => by
      rw [validateAll_cons, bind_eq_ok_iff] at h
      exact List.forall_mem_cons.2 ⟨soundAt_of_validate h.1, soundAt_of_validateAll h.2⟩

end

/-! ## Where validation ends -/

/-- A bad threshold of a list itself is the first. -/
theorem firstBad_nil (h : BadThreshold ss.length required e) :
    (list ss required).FirstBad [] e where
  bad := ⟨ss, required, rfl, h⟩
  sound earlier hlt := absurd hlt (List.not_lt_nil earlier)

/-- The first bad threshold of a child is that of the list, if neither the list nor a child in
front has one. -/
theorem firstBad_child {before after : List KeySpec} {place : List Nat}
    (hlist : SoundThreshold (before ++ s :: after).length required)
    (hbefore : ∀ t ∈ before, ∀ place, t.SoundAt place) (h : s.FirstBad place e) :
    (list (before ++ s :: after) required).FirstBad (before.length :: place) e where
  bad := badAt_child (by simp) h.bad
  sound earlier hlt := by
    cases earlier with
    | nil => exact soundAt_nil hlist
    | cons i earlier =>
        refine soundAt_child fun t ht => ?_
        rcases List.cons_lt_cons_iff.1 hlt with hi | ⟨rfl, hplace⟩
        · rw [List.getElem?_append_left hi] at ht
          exact hbefore t (List.mem_of_getElem? ht) earlier
        · obtain rfl : s = t := by simpa using ht
          exact h.sound earlier hplace

mutual

theorem exists_firstBad : ∀ {s : KeySpec} {e : ThresholdError}, s.validate = .error e →
    ∃ place, s.FirstBad place e
  | .single _ _, _, h => by cases h
  | .list ss _, _, h => by
      rw [validate_list, bind_eq_error_iff] at h
      rcases h with hcheck | ⟨hcheck, hall⟩
      · exact ⟨[], firstBad_nil (badThreshold_of_check hcheck)⟩
      · obtain ⟨before, s, after, place, rfl, hbefore, hfirst⟩ := exists_firstBad_child hall
        exact ⟨_, firstBad_child (soundThreshold_of_check hcheck) hbefore hfirst⟩

theorem exists_firstBad_child : ∀ {ss : List KeySpec} {e : ThresholdError},
    validateAll ss = .error e → ∃ before s after place, ss = before ++ s :: after ∧
      (∀ t ∈ before, ∀ place, t.SoundAt place) ∧ s.FirstBad place e
  | [], _, h => by cases h
  | s :: ss, _, h => by
      rw [validateAll_cons, bind_eq_error_iff] at h
      rcases h with hhead | ⟨hhead, hrest⟩
      · obtain ⟨place, hfirst⟩ := exists_firstBad hhead
        exact ⟨[], s, ss, place, rfl, by simp, hfirst⟩
      · obtain ⟨before, t, after, place, rfl, hbefore, hfirst⟩ := exists_firstBad_child hrest
        exact ⟨s :: before, t, after, place, rfl,
          List.forall_mem_cons.2 ⟨soundAt_of_validate hhead, hbefore⟩, hfirst⟩

end

/-- A specification is valid exactly if the thresholds at all places are sound, and otherwise
the error is what is bad about the first in pre-order that is not. -/
theorem validate_reports_first (s : KeySpec) :
    (s.validate = .ok () ↔ ∀ place, s.SoundAt place) ∧
      ∀ e, s.validate = .error e ↔ ∃ place, s.FirstBad place e := by
  cases h : s.validate with
  | ok u =>
      have hsound := soundAt_of_validate h
      refine ⟨iff_of_true rfl hsound, fun e => iff_of_false (by simp) ?_⟩
      rintro ⟨place, hfirst⟩
      exact hfirst.bad.not_sound (hsound place)
  | error e =>
      obtain ⟨place, hfirst⟩ := exists_firstBad h
      refine ⟨iff_of_false (by simp) fun hsound => hfirst.bad.not_sound (hsound place), fun f => ?_⟩
      constructor
      · intro hf
        cases hf
        exact ⟨place, hfirst⟩
      · rintro ⟨other, hother⟩
        rw [hfirst.unique hother]

/-- A list that asks too much in front of a list that asks for nothing. -/
example : validate (.list [.list [.list [] none] (some 3), .list [] (some 0)] (some 2))
    = .error (.tooLarge 3 1) := by
  rfl

end Concord.KeySpec
