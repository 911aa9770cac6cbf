import Concord.Url.Address

/-!
# Addresses with a scheme and a host

A text is completed by a scheme unless it starts with one (`completed_eq`).  An address that is
read has a host (`host_present_of_read`): a name that is not empty, or an address of the network.
-/

namespace Concord.Url

open Text

/-! ## Schemes -/

theorem splitScheme_isSome_iff {cs : List Char} :
    (splitScheme cs).isSome ↔ "http://".toList <+: cs ∨ "https://".toList <+: cs := by
  have hfind : (splitScheme cs).isSome
      = ([Scheme.http, .https].find? fun s => s.lead.toList.isPrefixOf cs).isSome := by
    rw [splitScheme]
    split
    next s hs => rw [hs]; rfl
    next hs => rw [hs]; rfl
  rw [hfind, List.find?_isSome]
  simp [Scheme.lead, Scheme.name]

/-- A text is completed by the first scheme unless it starts with one of the two. -/
theorem completed_eq (text : String) :
    completed text = if "http://".toList <+: text.toList ∨ "https://".toList <+: text.toList
      then text else "http://" ++ text := by
  rw [completed]
  cases h : splitScheme text.toList with
  | some p => rw [if_pos (splitScheme_isSome_iff.1 (by simp [h]))]
  | none =>
      rw [if_neg fun hlead => by simpa [h] using splitScheme_isSome_iff.2 hlead]
      rfl

/-! ## Hosts -/

/-- A host is there: its name is not empty. -/
def Host.Present : Host → Prop
  | .name text => text ≠ ""
  | .ipv4 _ => True
  | .ipv6 _ => True

namespace Host

variable {cs : List Char} {host : Host}

theorem present_of_ofNormalForm (h : ofNormalForm cs = .ok host) : host.Present := by
  unfold ofNormalForm at h
  split at h
  case isTrue => cases h
  case isFalse hne =>
      split at h
      case isTrue =>
          split at h
          case h_1 =>
              cases h
              trivial
          case h_2 => cases h
      case isFalse =>
          cases h
          intro hname
          exact hne (String.ofList_eq_empty_iff.1 hname)

theorem present_of_ofBracketed (h : ofBracketed cs = .ok host) : host.Present := by
  unfold ofBracketed at h
  split at h
  case h_1 =>
      cases h
      trivial
  case h_2 => cases h

theorem present_of_read (h : read cs = .ok host) : host.Present := by
  unfold read at h
  split at h
  case h_1 => cases h
  case h_2 => exact present_of_ofBracketed h
  case h_3 =>
      split at h
      case h_1 => exact present_of_ofNormalForm h
      case h_2 => cases h

end Host

namespace Address

variable {a : Address}

theorem host_present_of_ofRest {scheme : Scheme} {cs : List Char} (h : ofRest scheme cs = .ok a) :
    a.host.Present := by
  unfold ofRest at h
  dsimp only at h
  split at h
  case h_1 => cases h
  case h_2 host hhost =>
      split at h
      case h_1 => cases h
      case h_2 =>
          cases h
          exact Host.present_of_read hhost

/-- An address that is read has a host. -/
theorem host_present_of_read {text : String} (h : read text = .ok a) : a.host.Present := by
  rw [read] at h
  split at h
  case h_1 => exact host_present_of_ofRest h
  case h_2 => cases h

theorem isSome_host?_iff : a.host?.isSome ↔ a.host.Present := by
  rw [host?]
  cases a.host <;> simp [Host.Present]

end Address

end Concord.Url
