import Concord.Proofs.Key.Injective
import Concord.Proofs.Key.Legible
import Concord.Proofs.Key.Separation
import Concord.Proofs.Text.Spelling

/-!
# Texts that break off

The text of a key that breaks off is refused, unless it breaks off behind sixty-four digits and
is taken for a key of curve 25519 (`KeyTree.decode_of_prefix`).

A reader takes what it needs off the front of some bytes and leaves the rest, so that what it
takes off bytes that break off it takes off the whole bytes as well (`readDigits_append`).  A
number that is read is then the one that was written (`readVarint_of_cut`).  Hence the length of
a list that breaks off is either refused or the length of the whole list, of which a byte at
least is missing (`readDelimited_of_cut`).  It does not matter how deep the list is nor where
below it the bytes break off: the outermost length tells.
-/

namespace Concord.Key

/-! ## Numbers -/

/-- A number is read without regard to what comes behind it. -/
theorem readDigits_append (left : Nat) :
    ∀ {bytes rest : List UInt8} {n : Nat} (more : List UInt8),
      readDigits left bytes = some (n, rest) →
        readDigits left (bytes ++ more) = some (n, rest ++ more) := by
  induction left with
  | zero =>
      intro bytes rest n more h
      cases h
  | succ left ih =>
      intro bytes rest n more h
      cases bytes with
      | nil => cases h
      | cons b tail =>
          rw [readDigits] at h
          rw [List.cons_append, readDigits]
          split at h
          case isTrue hdigit =>
              rw [if_pos hdigit]
              split at h
              case isTrue => cases h
              case isFalse hfits =>
                  cases h
                  rw [if_neg hfits]
          case isFalse hdigit =>
              rw [if_neg hdigit]
              cases hmore : readDigits left tail with
              | none =>
                  rw [hmore] at h
                  cases h
              | some r =>
                  obtain ⟨m, behind⟩ := r
                  rw [hmore] at h
                  cases h
                  rw [ih more hmore]

/-- A number that is read is read with more digits left as well. -/
theorem readDigits_succ (left : Nat) :
    ∀ {bytes : List UInt8} {r : Nat × List UInt8},
      readDigits left bytes = some r → readDigits (left + 1) bytes = some r := by
  induction left with
  | zero =>
      intro bytes r h
      cases h
  | succ left ih =>
      intro bytes r h
      cases bytes with
      | nil => cases h
      | cons b tail =>
          rw [readDigits] at h
          rw [readDigits]
          split at h
          case isTrue hdigit =>
              rw [if_pos hdigit, if_neg fun hlast => Nat.succ_ne_zero left hlast.1]
              split at h
              case isTrue => cases h
              case isFalse => exact h
          case isFalse hdigit =>
              rw [if_neg hdigit]
              cases hmore : readDigits left tail with
              | none =>
                  rw [hmore] at h
                  cases h
              | some s =>
                  rw [hmore] at h
                  rw [ih hmore]
                  exact h

theorem readDigits_mono {left most : Nat} (hle : left ≤ most) {bytes : List UInt8}
    {r : Nat × List UInt8} (h : readDigits left bytes = some r) :
    readDigits most bytes = some r := by
  induction hle with
  | refl => exact h
  | step _ ih => exact readDigits_succ _ ih

section

variable {cut more bytes rest : List UInt8} {n m : Nat}

/-- What is read of a number that may break off is the number, and behind it is what there is of
the rest. -/
theorem readVarint_of_cut (hcut : cut ++ more = writeVarint n ++ bytes)
    (h : readVarint cut = .ok (m, rest)) : m = n ∧ rest ++ more = bytes := by
  rw [readVarint] at h
  split at h
  case h_1 => cases h
  case h_2 r hread =>
      cases h
      -- Both readings are compared with as many digits left as either of them needs.
      have hlonger := readDigits_mono (show 10 ≤ max 9 n + 1 by omega)
        (readDigits_append 10 more hread)
      have hfits : n < capacity (max 9 n) := by
        rcases Nat.le_total n 9 with hle | hle
        · rw [Nat.max_eq_left hle]
          exact Nat.lt_of_le_of_lt hle (lt_capacity 9)
        · rw [Nat.max_eq_right hle]
          exact lt_capacity n
      rw [hcut, readDigits_writeVarint (max 9 n) bytes hfits] at hlonger
      cases hlonger
      exact ⟨rfl, rfl⟩

/-- A message of which a byte is missing is refused. -/
theorem readDelimited_of_cut {α : Type} {step : α → List UInt8 → WireResult α} {a : α}
    (hcut : cut ++ more = writeDelimited bytes) (hmore : more ≠ []) :
    ∃ e, readDelimited step a cut = .error e := by
  cases hlength : readVarint cut with
  | error e =>
      rw [readDelimited, hlength]
      exact ⟨e, rfl⟩
  | ok r =>
      obtain ⟨m, rest⟩ := r
      obtain ⟨rfl, hrest⟩ := readVarint_of_cut hcut hlength
      have hsum := congrArg List.length hrest
      have hpos := List.length_pos_iff.2 hmore
      rw [List.length_append] at hsum
      rw [readDelimited, hlength]
      simp only [if_pos (show rest.length < bytes.length by omega)]
      exact ⟨_, rfl⟩

end

end Concord.Key

namespace Concord

open Key Text

namespace KeyMessage

variable {cut more value : List UInt8} {tag : Nat}

/-- A field of a list or a threshold of which a byte is missing is refused. -/
theorem mergeKeyField_of_cut (budget : Nat) (htag : tag = 5 ∨ tag = 6)
    (hcut : cut ++ more = field tag value) (hne : cut ≠ []) (hmore : more ≠ []) :
    ∃ e, mergeKeyField budget .empty cut = .error e := by
  have hlt : tag < 16 := by omega
  have hkey : writeKey ⟨tag, .delimited⟩ = [UInt8.ofNat (tag * 8 + WireForm.delimited.code)] :=
    writeKey_of_lt hlt
  obtain ⟨b, rest, rfl⟩ := List.exists_cons_of_ne_nil hne
  rw [field, hkey, List.cons_append, List.singleton_append] at hcut
  obtain ⟨rfl, hrest⟩ := List.cons.inj hcut
  have hread : readKey (UInt8.ofNat (tag * 8 + WireForm.delimited.code) :: rest)
      = .ok (⟨tag, .delimited⟩, rest) := by
    rw [← List.singleton_append, ← hkey]
    exact readKey_writeKey (by show 0 < tag; omega)
      (by show tag * 8 + 7 ≤ 4294967295; omega) rest
  rw [mergeKeyField, hread]
  rcases htag with rfl | rfl
  · cases budget with
    | zero => exact ⟨_, rfl⟩
    | succ budget =>
        obtain ⟨e, he⟩ : ∃ e, readDelimited (mergeThresholdField budget) (0, none) rest
            = .error e := readDelimited_of_cut hrest hmore
        simp only [expectForm, if_true, thresholdOf, he, Except.map, inField]
        exact ⟨_, rfl⟩
  · cases budget with
    | zero => exact ⟨_, rfl⟩
    | succ budget =>
        obtain ⟨e, he⟩ : ∃ e, readDelimited (mergeListField budget) [] rest = .error e :=
          readDelimited_of_cut hrest hmore
        simp only [expectForm, if_true, keysOf, he, Except.map, inField]
        exact ⟨_, rfl⟩

theorem ofBytes_of_cut (htag : tag = 5 ∨ tag = 6) (hcut : cut ++ more = field tag value)
    (hne : cut ≠ []) (hmore : more ≠ []) : ∃ e, ofBytes cut = .error e := by
  obtain ⟨e, he⟩ := mergeKeyField_of_cut nestingBudget htag hcut hne hmore
  obtain ⟨b, rest, rfl⟩ := List.exists_cons_of_ne_nil hne
  have hmany : ¬ (b :: rest).length ≤ 0 := by
    rw [List.length_cons]
    omega
  refine ⟨e, ?_⟩
  rw [ofBytes, List.length_cons, mergeFields, if_neg hmany, he]
  rfl

end KeyMessage

/-! ## Single keys -/

namespace RawKey

variable {k : RawKey} {cut more : List UInt8}

theorem exists_of_cut_framed (hcut : cut ++ more = k.framed) (hne : cut ≠ []) :
    ∃ rest, cut = 0x30 :: rest := by
  obtain ⟨b, rest, rfl⟩ := List.exists_cons_of_ne_nil hne
  obtain ⟨tail, hframed⟩ := k.exists_framed
  rw [hframed, List.cons_append] at hcut
  obtain ⟨rfl, -⟩ := List.cons.inj hcut
  exact ⟨rest, rfl⟩

/-- No framed key is the front of another. -/
theorem eq_nil_of_framed_append {l : RawKey} (hl : l.WellFormed) (hk : k.WellFormed)
    (h : l.framed ++ more = k.framed) : more = [] := by
  have hlong : 1 < l.framed.length := by
    rw [length_framed hl, Algorithm.length_publicHeader]
    split <;> omega
  have hsecond := congrArg (fun bytes : List UInt8 => bytes[1]?) h
  simp only [List.getElem?_append_left hlong, framed_get_one, Option.some.injEq] at hsecond
  have halgorithm := Algorithm.publicCount_injective hsecond
  have hlength := congrArg List.length h
  rw [List.length_append, length_framed hl, length_framed hk, halgorithm] at hlength
  exact List.length_eq_zero_iff.1 (by omega)

/-- A framed key of which a byte is missing is no key, unless thirty-two bytes of it are left. -/
theorem detect_of_cut (hk : k.WellFormed) (hcut : cut ++ more = k.framed) (hne : cut ≠ [])
    (hmore : more ≠ []) (hlength : cut.length ≠ 32) : ∃ e, detect cut = .error e := by
  cases hfound : detect cut with
  | error e => exact ⟨e, rfl⟩
  | ok l =>
      obtain ⟨-, hl, rfl | rfl⟩ := stripHeader_eq_ok (detect_eq_ok_iff.1 hfound)
      · -- The header starts like no compressed point.
        obtain ⟨rest, hstart⟩ := exists_of_cut_framed hcut hne
        obtain ⟨a, bytes⟩ := l
        obtain rfl : bytes = 0x30 :: rest := hstart
        cases a with
        | ed25519 => exact absurd hl.1 hlength
        | secp256k1 => exact absurd (hl.2 rfl) (by simp)
      · exact absurd (eq_nil_of_framed_append hl hk hcut) hmore

end RawKey

/-! ## Trees -/

namespace KeyTree

theorem bytes_list_eq_field (required : Option UInt32) (ts : List KeyTree) :
    ∃ tag value, (tag = 5 ∨ tag = 6) ∧
      (toMessage (.list required ts)).bytes = KeyMessage.field tag value := by
  rw [KeyMessage.bytes_eq_content]
  cases required with
  | none => exact ⟨6, _, .inr rfl, rfl⟩
  | some n => exact ⟨5, _, .inl rfl, rfl⟩

variable {t : KeyTree} {cut more : List UInt8}

/-- What is left of a tree of which a byte is missing is refused, unless it is as long as a key
of curve 25519. -/
theorem ofBytes_of_cut (hleaves : t.LeavesWellFormed) (hcut : cut ++ more = t.networkBytes)
    (hmore : more ≠ []) (hlength : cut.length ≠ 32) : ∃ e, ofBytes cut = .error e := by
  by_cases hne : cut = []
  · subst hne
    exact ⟨.emptyKey, rfl⟩
  · cases hleaves with
    | @single k hk =>
        obtain ⟨e, he⟩ := RawKey.detect_of_cut hk hcut hne hmore hlength
        obtain ⟨rest, rfl⟩ := RawKey.exists_of_cut_framed hcut hne
        have hsingle : KeyMessage.looksSingle (0x30 :: rest) = true := rfl
        rw [ofBytes, KeyMessage.ofEncodedBytes, hsingle, if_pos rfl, he]
        exact ⟨e, rfl⟩
    | @list required ts _ =>
        rw [networkBytes] at hcut
        obtain ⟨tag, value, htag, hfield⟩ := bytes_list_eq_field required ts
        obtain ⟨e, he⟩ := KeyMessage.ofBytes_of_cut htag (hcut.trans hfield) hne hmore
        obtain ⟨b, rest, hlist, hb⟩ := exists_bytes_list required ts
        obtain ⟨c, left, rfl⟩ := List.exists_cons_of_ne_nil hne
        rw [hlist, List.cons_append] at hcut
        obtain ⟨rfl, -⟩ := List.cons.inj hcut
        rw [ofBytes, KeyMessage.ofEncodedBytes, looksSingle_cons_of_list hb hlength,
          if_neg Bool.false_ne_true, KeyMessage.read, he]
        exact ⟨_, rfl⟩

/-! ## Texts -/

section

variable {p : String}

/-- A text of digits that breaks off between two pairs has the digits of the first bytes. -/
theorem decode_of_prefix_even {bytes : List UInt8} (h : p.toList <+: hexDigits bytes)
    (heven : p.toList.length % 2 = 0) :
    ∃ cut more, bytes = cut ++ more ∧ p = encodeHex cut ∧ decode p = ofBytes cut := by
  obtain ⟨cut, more, hbytes, hdigits⟩ := exists_of_prefix_hexDigits h heven
  have hp : p = encodeHex cut := by
    rw [encodeHex, ← hdigits, String.ofList_toList]
  refine ⟨cut, more, hbytes, hp, ?_⟩
  rw [hp, decode_encodeHex]

theorem decode_of_prefix_odd {bytes : List UInt8} (h : p.toList <+: hexDigits bytes)
    (hodd : p.toList.length % 2 = 1) : decode p = .error (.invalidHex .oddLength) := by
  have hdigits : AllDigits p.toList := fun c hc =>
    AllDigits.of_hexDigits bytes c (h.subset hc)
  rw [decode, KeyMessage.ofEncoded, decodeHex_of_odd hdigits hodd]

/-- Sixty-four digits are those of a key of curve 25519. -/
theorem decode_of_prefix_key {bytes : List UInt8} (h : p.toList <+: hexDigits bytes)
    (hlength : p.length = 64) : ∃ cut, cut.length = 32 ∧ p = encodeHex cut ∧
      decode p = .ok (.single ⟨.ed25519, cut⟩) := by
  obtain ⟨cut, more, -, hp, hread⟩ := decode_of_prefix_even h
    (by rw [String.length_toList, hlength])
  have hcut : cut.length = 32 := by
    rw [hp, length_encodeHex] at hlength
    omega
  rw [ofBytes_of_length hcut] at hread
  exact ⟨cut, hcut, hp, hread⟩

/-- Any other number of digits is refused, if a digit is missing. -/
theorem decode_of_prefix_refused (hleaves : t.LeavesWellFormed)
    (h : p.toList <+: hexDigits t.networkBytes) (hne : p ≠ t.encode) (hlength : p.length ≠ 64) :
    ∃ e, decode p = .error e := by
  rcases Nat.mod_two_eq_zero_or_one p.toList.length with heven | hodd
  · obtain ⟨cut, more, hbytes, hp, hread⟩ := decode_of_prefix_even h heven
    have hmore : more ≠ [] := by
      rintro rfl
      rw [List.append_nil] at hbytes
      exact hne (by rw [encode, hbytes, hp])
    have hcut : cut.length ≠ 32 := by
      intro hsize
      rw [hp, length_encodeHex, hsize] at hlength
      exact hlength rfl
    obtain ⟨e, he⟩ := ofBytes_of_cut hleaves hbytes.symm hmore hcut
    exact ⟨e, hread.trans he⟩
  · exact ⟨_, decode_of_prefix_odd h hodd⟩

/-- The text of a tree that breaks off behind sixty-four digits is read as the single key of
curve 25519 that has these digits.  If it breaks off anywhere else it is refused. -/
theorem decode_of_prefix (hleaves : t.LeavesWellFormed) (h : p.toList <+: t.encode.toList)
    (hne : p ≠ t.encode) :
    ((∃ s, decode p = .ok s) ↔ p.length = 64) ∧
      (p.length = 64 → ∃ bytes, bytes.length = 32 ∧ p = encodeHex bytes ∧
        decode p = .ok (.single ⟨.ed25519, bytes⟩)) ∧
      (p.length ≠ 64 → ∃ e, decode p = .error e) := by
  have hprefix : p.toList <+: hexDigits t.networkBytes := by
    rwa [encode, encodeHex, String.toList_ofList] at h
  refine ⟨⟨?_, ?_⟩, decode_of_prefix_key hprefix, decode_of_prefix_refused hleaves hprefix hne⟩
  · rintro ⟨s, hs⟩
    by_cases hlength : p.length = 64
    · exact hlength
    · obtain ⟨e, he⟩ := decode_of_prefix_refused hleaves hprefix hne hlength
      rw [hs] at he
      cases he
  · intro hlength
    obtain ⟨bytes, -, -, hread⟩ := decode_of_prefix_key hprefix hlength
    exact ⟨_, hread⟩

/-- One of two keys that breaks off within the first, in front of it, and before it starts. -/
theorem decode_of_prefix_of_pair :
    (∃ bytes, bytes.length = 32 ∧
      "2a2d080112290a233a2102070707070707070707070707070707070707070707" = encodeHex bytes ∧
      decode "2a2d080112290a233a2102070707070707070707070707070707070707070707"
        = .ok (.single ⟨.ed25519, bytes⟩)) ∧
      (∃ e, decode "2a2d080112290a233a2" = .error e) ∧ ∃ e, decode "" = .error e := by
  have hkey : RawKey.WellFormed ⟨.secp256k1, 2 :: List.replicate 32 7⟩ := by decide
  have hempty : LeavesWellFormed (.list none []) := .list (by simp)
  have hleaves : LeavesWellFormed
      (.list (some 1) [.single ⟨.secp256k1, 2 :: List.replicate 32 7⟩, .list none []]) :=
    .list (by simpa using ⟨.single hkey, hempty⟩)
  obtain ⟨-, hlong, -⟩ := decode_of_prefix hleaves
    (p := "2a2d080112290a233a2102070707070707070707070707070707070707070707")
    (by decide +kernel) (by decide +kernel)
  obtain ⟨-, -, hshort⟩ := decode_of_prefix hleaves (p := "2a2d080112290a233a2")
    (by decide +kernel) (by decide +kernel)
  obtain ⟨-, -, hnone⟩ := decode_of_prefix hleaves (p := "")
    (by decide +kernel) (by decide +kernel)
  exact ⟨hlong (by decide +kernel), hshort (by decide +kernel), hnone (by decide +kernel)⟩

end

end KeyTree

end Concord
