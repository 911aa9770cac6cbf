import Concord.Proofs.Key.Observed

/-!
# Trees that agree

Leaves agree by their ends, so agreement of trees is reflexive and symmetric
(`KeyTree.agrees_comm`), but it is not transitive: two different keys may both end in a third.
What tells them apart is that the third is too short to be a key.

Whatever a tree is read from, each of its leaves has the size of its algorithm
(`KeyTree.Read.leavesWellFormed`).  Keys of one size agree only if they are equal, and so do
trees whose leaves are such keys (`KeyTree.eq_of_agrees`).  The recursion is on both trees at
once, and trees of different structure agree with nothing of each other.
-/

namespace Concord

open Text

/-! ## Ends of byte strings -/

/-- Strings of bytes end alike when one is the end of the other and both or none are empty. -/
theorem endsAlike_iff {a b : List UInt8} :
    endsAlike a b = true ↔ (a = [] ↔ b = []) ∧ (a <:+ b ∨ b <:+ a) := by
  cases a with
  | nil => cases b <;> simp [endsAlike]
  | cons x a =>
      cases b with
      | nil => simp [endsAlike]
      | cons y b =>
          by_cases hle : (x :: a).length ≤ (y :: b).length
          · -- The longer string is an end of the shorter one only if they are equal.
            have hback : y :: b <:+ x :: a → x :: a <:+ y :: b := fun h =>
              (h.eq_of_length_le hle).symm ▸ List.suffix_refl _
            rw [endsAlike, if_neg (by simp), if_pos hle, List.isSuffixOf_iff_suffix]
            exact ⟨fun h => ⟨by simp, Or.inl h⟩, fun h => h.2.elim id hback⟩
          · have hback : x :: a <:+ y :: b → y :: b <:+ x :: a := fun h =>
              absurd h.length_le hle
            rw [endsAlike, if_neg (by simp), if_neg hle, List.isSuffixOf_iff_suffix]
            exact ⟨fun h => ⟨by simp, Or.inr h⟩, fun h => h.2.elim hback id⟩

theorem endsAlike_comm (a b : List UInt8) : endsAlike a b = endsAlike b a := by
  rw [Bool.eq_iff_iff, endsAlike_iff, endsAlike_iff, @iff_comm (a = []), @or_comm (a <:+ b)]

namespace RawKey

theorem agrees_comm (k l : RawKey) : k.agrees l = l.agrees k := by
  rw [agrees, agrees, endsAlike_comm]
  exact congrArg (· && _) (decide_eq_decide.2 eq_comm)

/-- Keys that have the size of their algorithm agree only if they are equal. -/
theorem eq_of_agrees {k l : RawKey} (hk : k.WellFormed) (hl : l.WellFormed)
    (h : k.agrees l = true) : k = l := by
  obtain ⟨a, b⟩ := k
  obtain ⟨c, d⟩ := l
  rw [agrees, Bool.and_eq_true, decide_eq_true_iff] at h
  obtain ⟨halgorithm, hends⟩ := h
  have halgorithm : a = c := halgorithm
  subst halgorithm
  have hlength : b.length = d.length := hk.1.trans hl.1.symm
  rw [eq_of_endsAlike hlength hends]

end RawKey

namespace KeyTree

/-! ## Symmetry -/

mutual

theorem agrees_comm : ∀ a b : KeyTree, a.agrees b = b.agrees a
  | .single k, .single l => by rw [agrees, agrees, RawKey.agrees_comm]
  | .single _, .list _ _ => by simp [agrees]
  | .list _ _, .single _ => by simp [agrees]
  | .list n ts, .list m us => by
      rw [agrees, agrees, agreeAll_comm ts us]
      exact congrArg (· && _) (decide_eq_decide.2 eq_comm)

theorem agreeAll_comm : ∀ ts us : List KeyTree, agreeAll ts us = agreeAll us ts
  | [], [] => rfl
  | [], _ :: _ => rfl
  | _ :: _, [] => rfl
  | t :: ts, u :: us => by rw [agreeAll, agreeAll, agrees_comm t u, agreeAll_comm ts us]

end

/-! ## Equality -/

theorem LeavesWellFormed.children {required : Option UInt32} {ts : List KeyTree}
    (h : LeavesWellFormed (.list required ts)) : ∀ t ∈ ts, t.LeavesWellFormed := by
  cases h with
  | list hchildren => exact hchildren

mutual

/-- Trees with well formed leaves agree only if they are equal. -/
theorem eq_of_agrees : ∀ {a b : KeyTree}, a.LeavesWellFormed → b.LeavesWellFormed →
    a.agrees b = true → a = b
  | .single k, .single l, .single hk, .single hl, h => by
      rw [agrees] at h
      rw [RawKey.eq_of_agrees hk hl h]
  | .single _, .list _ _, _, _, h => by
      simp [agrees] at h
  | .list _ _, .single _, _, _, h => by
      simp [agrees] at h
  | .list n ts, .list m us, ha, hb, h => by
      rw [agrees, Bool.and_eq_true, decide_eq_true_iff] at h
      obtain ⟨hrequired, hchildren⟩ := h
      rw [hrequired, eq_of_agreeAll ha.children hb.children hchildren]

theorem eq_of_agreeAll : ∀ {ts us : List KeyTree}, (∀ t ∈ ts, t.LeavesWellFormed) →
    (∀ u ∈ us, u.LeavesWellFormed) → agreeAll ts us = true → ts = us
  | [], [], _, _, _ => rfl
  | [], _ :: _, _, _, h => by
      cases h
  | _ :: _, [], _, _, h => by
      cases h
  | t :: ts, u :: us, hts, hus, h => by
      rw [List.forall_mem_cons] at hts hus
      rw [agreeAll, Bool.and_eq_true] at h
      rw [eq_of_agrees hts.1 hus.1 h.1, eq_of_agreeAll hts.2 hus.2 h.2]

end

/-! ## Trees that are read -/

/-- A tree has been read: off a message, off a text of any framing, or off a report. -/
inductive Read : KeyTree → Prop where
  | ofMessage {m t} (h : ofMessage m = .ok t) : Read t
  | ofText {encoded t} (h : decode encoded = .ok t) : Read t
  | ofReport {o t} (h : ObservedKey.tree o = .ok t) : Read t

theorem leavesWellFormed_of_tree {o : ObservedKey} {t : KeyTree} (h : o.tree = .ok t) :
    t.LeavesWellFormed := by
  rw [ObservedKey.tree] at h
  split at h
  case h_1 a _ =>
      obtain ⟨k, hk, rfl⟩ := Key.exists_of_map_ok h
      exact .single (RawKey.wellFormed_of_decode hk)
  case h_2 => exact leavesWellFormed_of_decode h

theorem Read.leavesWellFormed {t : KeyTree} (h : t.Read) : t.LeavesWellFormed := by
  cases h with
  | ofMessage h => exact leavesWellFormed_of_ofMessage h
  | ofText h => exact leavesWellFormed_of_decode h
  | ofReport h => exact leavesWellFormed_of_tree h

theorem Read.agrees_iff {a b : KeyTree} (ha : a.Read) (hb : b.Read) :
    a.agrees b = true ↔ a = b := by
  constructor
  · exact eq_of_agrees ha.leavesWellFormed hb.leavesWellFormed
  · rintro rfl
    exact a.agrees_refl

/-- Agreement is reflexive and symmetric on all trees, whatever the length of their leaves.
Trees that have been read agree only if they are equal, whatever each of them has been read
from, and so agreement is transitive among them. -/
theorem agrees_read :
    (∀ t : KeyTree, t.agrees t = true) ∧
      (∀ a b : KeyTree, a.agrees b = b.agrees a) ∧
      (∀ a b : KeyTree, a.Read → b.Read → (a.agrees b = true ↔ a = b)) ∧
      ∀ a b c : KeyTree, a.Read → b.Read → c.Read →
        a.agrees b = true → b.agrees c = true → a.agrees c = true := by
  refine ⟨agrees_refl, agrees_comm, fun a b ha hb => ha.agrees_iff hb, ?_⟩
  intro a b c ha hb hc hab hbc
  have hfirst : a = b := (ha.agrees_iff hb).1 hab
  rw [hfirst]
  exact hbc

/-- Two keys agree with their common end, which is no key, but not with each other. -/
example :
    agrees (.single ⟨.ed25519, [1, 7]⟩) (.single ⟨.ed25519, [7]⟩) = true ∧
      agrees (.single ⟨.ed25519, [7]⟩) (.single ⟨.ed25519, [2, 7]⟩) = true ∧
      agrees (.single ⟨.ed25519, [1, 7]⟩) (.single ⟨.ed25519, [2, 7]⟩) = false := by
  decide

/-- A key of equal bytes. -/
def sevens : RawKey := ⟨.ed25519, List.replicate 32 7⟩

/-- A key that differs from that of equal bytes in its first byte alone. -/
def eightAndSevens : RawKey := ⟨.ed25519, 8 :: List.replicate 31 7⟩

/-- A key is read off a message in which it stands behind its header and off the text that the
network uses, and agrees with itself; it does not agree with a key that ends like it and is
read off a report. -/
theorem agrees_read_of_common_end :
    ofMessage (.ed25519 sevens.framed) = .ok (.single sevens) ∧
      decode sevens.encode = .ok (.single sevens) ∧
      (ObservedKey.ofTree (.single eightAndSevens)).tree = .ok (.single eightAndSevens) ∧
      agrees (.single sevens) (.single sevens) = true ∧
      agrees (.single sevens) (.single eightAndSevens) = false := by
  have hmessage : ofMessage (.ed25519 sevens.framed) = .ok (.single sevens) := by
    rfl
  have htext : decode sevens.encode = .ok (.single sevens) :=
    decode_of_rawDecode (RawKey.decode_encode (by decide))
  have hreport : (ObservedKey.ofTree (.single eightAndSevens)).tree
      = .ok (.single eightAndSevens) :=
    ObservedKey.tree_ofTree_single (by decide)
  obtain ⟨-, -, hsame, htransitive⟩ := agrees_read
  have hself := (hsame _ _ (.ofMessage hmessage) (.ofText htext)).2 rfl
  refine ⟨hmessage, htext, hreport, ?_, ?_⟩
  · exact htransitive _ _ _ (.ofMessage hmessage) (.ofText htext) (.ofMessage hmessage) hself hself
  · rw [Bool.eq_false_iff, ne_eq, hsame _ _ (.ofText htext) (.ofReport hreport)]
    decide

end KeyTree

end Concord
