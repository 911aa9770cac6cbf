import Concord.Key.Observed
import Concord.Proofs.Key.Decoded
import Concord.Proofs.Key.Legible

/-!
# Trees of reports

The mirror reports an encoded key by its tree: a single key raw under its algorithm, a list
as the network encodes it.  A report of a single key has the tree of the key.  A report of a
list is read as the text of the list is, for its type says nothing about the framing, and so
it has the tree of the list exactly when the list is legible (`ObservedKey.ofEncoded_tree`).

A list that is read need not be legible, for the text it is read from need not be canonical.
-/

namespace Concord

open Key Text

/-! ## Names -/

theorem Algorithm.ofName?_name (a : Algorithm) : Algorithm.ofName? a.name = some a := by
  cases a <;> decide

namespace ObservedKey

theorem ofName?_compositeType : Algorithm.ofName? compositeType = none := by decide

/-! ## Reports -/

theorem tree_ofTree_single {k : RawKey} (h : k.WellFormed) :
    (ofTree (.single k)).tree = .ok (.single k) := by
  rw [ofTree, tree, Algorithm.ofName?_name]
  show (RawKey.decode k.algorithm k.hex).map KeyTree.single = _
  rw [RawKey.decode_hex h]
  rfl

theorem tree_ofTree_list (required : Option UInt32) (ts : List KeyTree) :
    (ofTree (.list required ts)).tree = KeyTree.decode (KeyTree.list required ts).encode := by
  rw [ofTree, tree, ofName?_compositeType]

/-- The report of a tree that is read is read as the text of the tree is. -/
theorem tree_ofTree_of_decode {encoded : String} {t : KeyTree}
    (h : KeyTree.decode encoded = .ok t) : (ofTree t).tree = KeyTree.decode t.encode := by
  cases t with
  | list required ts => exact tree_ofTree_list required ts
  | single k =>
      cases KeyTree.leavesWellFormed_of_decode h with
      | single hk =>
          rw [tree_ofTree_single hk, KeyTree.encode, KeyTree.networkBytes, ← RawKey.encode,
            KeyTree.decode_of_rawDecode (RawKey.decode_encode hk)]

theorem tree_ofTree_reads {encoded : String} {t : KeyTree}
    (h : KeyTree.decode encoded = .ok t) (hlength : encoded.utf8ByteSize < UInt64.size) :
    t.ReadBackAs (ofTree t).tree := by
  cases t with
  | single k =>
      cases KeyTree.leavesWellFormed_of_decode h with
      | single hk =>
          rw [tree_ofTree_single hk]
          exact .itself trivial
  | list required ts =>
      have hbytes := KeyTree.length_toMessage_of_decode h
      rw [tree_ofTree_list, KeyTree.encode, KeyTree.networkBytes, KeyTree.decode_encodeHex]
      exact KeyTree.ofBytes_list_reads (KeyTree.leavesWellFormed_of_decode h)
        (Nat.lt_of_le_of_lt hbytes hlength)

/-- Every encoded key that can be read has a report, and the report is read as the text that
the network uses for the tree of the key.  It has that tree exactly when the tree is single,
or is a list whose message neither has thirty-two bytes nor nests too deep; of the other
lists, the former are read as a single key and the latter are refused.

`hlength` says no more than that the encoded key can be held in memory. -/
theorem ofEncoded_tree {encoded : String} {t : KeyTree} (h : KeyTree.decode encoded = .ok t)
    (hlength : encoded.utf8ByteSize < UInt64.size) :
    ∃ o, ofEncoded encoded = .ok o ∧ o.tree = KeyTree.decode t.encode ∧
      t.ReadBackAs o.tree ∧ (o.tree = .ok t ↔ t.Legible) := by
  have hreads := tree_ofTree_reads h hlength
  refine ⟨ofTree t, ?_, tree_ofTree_of_decode h, hreads, hreads.eq_ok_iff⟩
  rw [ofEncoded, h]
  rfl

/-- A list in two pieces, with a field of an unknown tag between them, has a report that is
read as the list in one piece. -/
theorem ofEncoded_tree_of_pieces :
    KeyTree.decode "32040a023200080132040a023200"
        = .ok (.list none [.list none [], .list none []]) ∧
      ∃ o, ofEncoded "32040a023200080132040a023200" = .ok o ∧
        o.tree = .ok (.list none [.list none [], .list none []]) := by
  have htext : encodeHex [0x32, 0x04, 0x0a, 0x02, 0x32, 0x00, 0x08, 0x01, 0x32, 0x04, 0x0a,
      0x02, 0x32, 0x00] = "32040a023200080132040a023200" := by
    decide +kernel
  have hread : KeyTree.decode "32040a023200080132040a023200"
      = .ok (.list none [.list none [], .list none []]) := by
    rw [← htext, KeyTree.decode_encodeHex]
    rfl
  obtain ⟨o, ho, -, -, hlegible⟩ := ofEncoded_tree hread (by decide +kernel)
  exact ⟨hread, o, ho, hlegible.2 (by decide +kernel)⟩

/-! ## Reports of other keys -/

/-- Five thresholds that have no list. -/
def fiveBare : KeyTree := .list none (List.replicate 5 (.list (some 0) []))

/-- The five thresholds can be read off a list of twenty-two bytes.  In the report each of
them is written with an empty list.  So the report has thirty-two bytes, and is read as a
single key. -/
theorem report_of_bare_thresholds :
    KeyTree.decode "32140a022a000a022a000a022a000a022a000a022a00" = .ok fiveBare ∧
      ofEncoded "32140a022a000a022a000a022a000a022a000a022a00"
        = .ok ⟨compositeType,
          "321e0a042a0212000a042a0212000a042a0212000a042a0212000a042a021200"⟩ ∧
      ObservedKey.tree ⟨compositeType,
          "321e0a042a0212000a042a0212000a042a0212000a042a0212000a042a021200"⟩
        ≠ .ok fiveBare := by
  have hbare : encodeHex ([0x32, 0x14] ++ (List.replicate 5 [0x0a, 0x02, 0x2a, 0x00]).flatten)
      = "32140a022a000a022a000a022a000a022a000a022a00" := by
    decide +kernel
  have hread : KeyTree.decode "32140a022a000a022a000a022a000a022a000a022a00"
      = .ok fiveBare := by
    rw [← hbare, KeyTree.decode_encodeHex]
    rfl
  have hreport : ofTree fiveBare = ⟨compositeType,
      "321e0a042a0212000a042a0212000a042a0212000a042a0212000a042a021200"⟩ := by
    decide +kernel
  have hsize : fiveBare.toMessage.bytes.length = 32 := by
    decide +kernel
  have hsingle : (ofTree fiveBare).tree
      = .ok (.single ⟨.ed25519, fiveBare.toMessage.bytes⟩) := by
    rw [fiveBare, tree_ofTree_list, KeyTree.encode, KeyTree.networkBytes,
      KeyTree.decode_encodeHex]
    exact KeyTree.ofBytes_of_length hsize
  refine ⟨hread, ?_, ?_⟩
  · rw [ofEncoded, hread, ← hreport]
    rfl
  · rw [← hreport, hsingle, fiveBare]
    intro h
    cases h

end ObservedKey

end Concord
