import Concord.Key.Generation
import Concord.Proofs.Act
import Concord.Proofs.Key.Legible
import Concord.Proofs.Key.Threshold

/-!
# Keys that are made can be read back

`KeySpec.Makes` says what it is to make a key: which tree a specification becomes, node for
node, and which private keys sign for its leaves.  Making a key does so (`resolve_makes`),
with the message of the tree as its result.

What is made of a specification has well formed leaves, has its thresholds, and nests as
deep as it.  So if the specification is valid and does not nest too deep the tree is what is
read from the key (`generate_tree`), and depth is all that can stand in the way
(`Makes.legible_iff`).
-/

namespace Concord

open Text

deriving instance DecidableEq for Rpc.Client

/-! ## Nesting of specifications -/

namespace KeySpec

mutual

/-- The number of messages on the deepest path below the message of a specification.  A
list is one message, and a threshold is another around its list. -/
def nest : KeySpec → Nat
  | .single _ _ => 0
  | .list ss none => 1 + nestOf ss
  | .list ss (some _) => 2 + nestOf ss

/-- The greatest number of messages on a path that starts with the message of a child. -/
def nestOf : List KeySpec → Nat
  | [] => 0
  | s :: ss => max (1 + nest s) (nestOf ss)

end

/-! ## Making a tree -/

variable {σ : Type}

mutual

/-- Making the key of a specification goes from one state to another, and the key has the
given tree and the given private keys, from left to right.

A public key that is given is a leaf as it is read.  A leaf with a private key is the public
key that derives from it; one to be generated is what is returned for it where its turn
comes.  A list has its children in order and the threshold of the specification. -/
inductive Makes (t : Rpc.Transport σ) (ctx : Context) :
    KeySpec → Traced (Rpc.Client σ) → Traced (Rpc.Client σ) → KeyTree → List String → Prop where
  | publicKey {a encoded k c} (h : RawKey.decode a encoded = .ok k) :
      Makes t ctx (.single a (.publicKey encoded)) c c (.single k) []
  | privateKey {a p k c} (h : PrivateKey.publicKey a p = .ok k) :
      Makes t ctx (.single a (.privateKey p)) c c (.single k) [p]
  | fresh {a p k c c'} (hrequest : requestKey t ctx a c = .ok p c')
      (h : PrivateKey.publicKey a p = .ok k) :
      Makes t ctx (.single a .fresh) c c' (.single k) [p]
  | list {ss required c c' ts ps} (h : MakesAll t ctx ss c c' ts ps) :
      Makes t ctx (.list ss required) c c' (.list required ts) ps

/-- Specifications are made from left to right. -/
inductive MakesAll (t : Rpc.Transport σ) (ctx : Context) :
    List KeySpec → Traced (Rpc.Client σ) → Traced (Rpc.Client σ) → List KeyTree →
      List String → Prop where
  | nil {c} : MakesAll t ctx [] c c [] []
  | cons {s ss c c' c'' tree ts ps qs} (hhead : Makes t ctx s c c' tree ps)
      (htail : MakesAll t ctx ss c' c'' ts qs) :
      MakesAll t ctx (s :: ss) c c'' (tree :: ts) (ps ++ qs)

end

section

variable {t : Rpc.Transport σ} {ctx : Context}

/-! ## Resolving makes -/

theorem ofKeyError_eq_ok {α : Type} {r : Except KeyError α} {c c' : Traced (Rpc.Client σ)}
    {a : α} (h : ofKeyError r c = .ok a c') : r = .ok a ∧ c' = c := by
  cases r with
  | error e => cases h
  | ok b =>
      cases h
      exact ⟨rfl, rfl⟩

theorem wellFormed_of_publicKey {a : Algorithm} {p : String} {k : RawKey}
    (h : PrivateKey.publicKey a p = .ok k) : k.WellFormed := by
  cases hparse : PrivateKey.parse a p with
  | error e =>
      rw [PrivateKey.publicKey, hparse] at h
      cases h
  | ok secret =>
      rw [PrivateKey.publicKey, hparse] at h
      exact (PrivateKey.wellFormed_of_derive h).1

/-- Resolving a leaf makes it, and results in the message and the text of a single key. -/
theorem resolveLeaf_makes {a : Algorithm} {m : Material} {c c' : Traced (Rpc.Client σ)}
    {r : Resolved} (h : resolveLeaf t ctx a m c = .ok r c') :
    ∃ k, Makes t ctx (.single a m) c c' (.single k) r.signingKeys ∧
      r.message = .single k ∧ KeyTree.decode r.encoded = .ok (.single k) := by
  cases m with
  | publicKey encoded =>
      obtain ⟨k, c1, hread, hend⟩ := Act.exists_of_bind_ok h
      obtain ⟨hdecode, rfl⟩ := ofKeyError_eq_ok hread
      cases hend
      exact ⟨k, .publicKey hdecode, rfl, KeyTree.decode_of_rawDecode hdecode⟩
  | privateKey p =>
      obtain ⟨k, c1, hread, hend⟩ := Act.exists_of_bind_ok h
      obtain ⟨hderive, rfl⟩ := ofKeyError_eq_ok hread
      have hdecode := RawKey.decode_encode (wellFormed_of_publicKey hderive)
      cases hend
      exact ⟨k, .privateKey hderive, rfl, KeyTree.decode_of_rawDecode hdecode⟩
  | fresh =>
      obtain ⟨p, c1, hrequest, hrest⟩ := Act.exists_of_bind_ok h
      obtain ⟨k, c2, hread, hend⟩ := Act.exists_of_bind_ok hrest
      obtain ⟨hderive, rfl⟩ := ofKeyError_eq_ok hread
      have hdecode := RawKey.decode_encode (wellFormed_of_publicKey hderive)
      cases hend
      exact ⟨k, .fresh hrequest hderive, rfl, KeyTree.decode_of_rawDecode hdecode⟩

theorem encoded_eq_hex {ss : List KeySpec} {required : Option UInt32}
    {c c' : Traced (Rpc.Client σ)} {r : Resolved}
    (h : resolve t ctx (.list ss required) c = .ok r c') : r.encoded = r.message.hex := by
  rw [resolve] at h
  obtain ⟨parts, c1, hparts, hend⟩ := Act.exists_of_bind_ok h
  cases hend
  rfl

mutual

/-- Resolving a specification makes it, and results in the message of its tree. -/
theorem resolve_makes : ∀ (s : KeySpec) {c c' : Traced (Rpc.Client σ)} {r : Resolved},
    resolve t ctx s c = .ok r c' →
      ∃ tree, Makes t ctx s c c' tree r.signingKeys ∧ r.message = tree.toMessage
  | .single a m, _, _, _, h => by
      rw [resolve] at h
      obtain ⟨k, hmakes, hmessage, -⟩ := resolveLeaf_makes h
      exact ⟨.single k, hmakes, hmessage⟩
  | .list ss required, c, c', r, h => by
      rw [resolve] at h
      obtain ⟨parts, c1, hparts, hend⟩ := Act.exists_of_bind_ok h
      obtain ⟨ts, hmakes, hmessages⟩ := resolveAll_makes ss hparts
      cases hend
      refine ⟨.list required ts, .list hmakes, ?_⟩
      show KeyMessage.list required (parts.map Resolved.message) = _
      rw [hmessages, KeyTree.toMessage]

theorem resolveAll_makes : ∀ (ss : List KeySpec) {c c' : Traced (Rpc.Client σ)}
    {rs : List Resolved}, resolveAll t ctx ss c = .ok rs c' →
      ∃ ts, MakesAll t ctx ss c c' ts (rs.flatMap Resolved.signingKeys) ∧
        rs.map Resolved.message = KeyTree.toMessages ts
  | [], c, c', rs, h => by
      rw [resolveAll] at h
      cases h
      exact ⟨[], .nil, rfl⟩
  | s :: ss, c, c', rs, h => by
      rw [resolveAll] at h
      obtain ⟨part, c1, hpart, hrest⟩ := Act.exists_of_bind_ok h
      obtain ⟨parts, c2, hparts, hend⟩ := Act.exists_of_bind_ok hrest
      obtain ⟨tree, hmakes, hmessage⟩ := resolve_makes s hpart
      obtain ⟨ts, hmakesAll, hmessages⟩ := resolveAll_makes ss hparts
      cases hend
      refine ⟨tree :: ts, .cons hmakes hmakesAll, ?_⟩
      rw [List.map_cons, hmessage, hmessages, KeyTree.toMessages]

end

/-! ## What is made -/

mutual

/-- The leaves of what is made are well formed. -/
theorem Makes.leavesWellFormed : ∀ {s : KeySpec} {c c' : Traced (Rpc.Client σ)}
    {tree : KeyTree} {ps : List String}, Makes t ctx s c c' tree ps → tree.LeavesWellFormed
  | _, _, _, _, _, .publicKey h => .single (RawKey.wellFormed_of_decode h)
  | _, _, _, _, _, .privateKey h => .single (wellFormed_of_publicKey h)
  | _, _, _, _, _, .fresh _ h => .single (wellFormed_of_publicKey h)
  | _, _, _, _, _, .list h => .list h.leavesWellFormed

theorem MakesAll.leavesWellFormed : ∀ {ss : List KeySpec} {c c' : Traced (Rpc.Client σ)}
    {ts : List KeyTree} {ps : List String}, MakesAll t ctx ss c c' ts ps →
      ∀ tree ∈ ts, tree.LeavesWellFormed
  | _, _, _, _, _, .nil => by simp
  | _, _, _, _, _, .cons hhead htail => by
      intro tree htree
      rcases List.mem_cons.1 htree with rfl | hmem
      · exact hhead.leavesWellFormed
      · exact htail.leavesWellFormed tree hmem

end

theorem nest_single (k : RawKey) : (KeyTree.single k).toMessage.nest = 0 := by
  rw [KeyTree.toMessage, KeyMessage.nest_single]

mutual

/-- What is made nests as deep as the specification says. -/
theorem Makes.nest_toMessage : ∀ {s : KeySpec} {c c' : Traced (Rpc.Client σ)}
    {tree : KeyTree} {ps : List String}, Makes t ctx s c c' tree ps →
      tree.toMessage.nest = s.nest
  | _, _, _, _, _, .publicKey _ => nest_single _
  | _, _, _, _, _, .privateKey _ => nest_single _
  | _, _, _, _, _, .fresh _ _ => nest_single _
  | .list ss none, _, _, _, _, .list h => by
      rw [KeyTree.toMessage, KeyMessage.list, KeyMessage.nest, nest, h.nestList_toMessages]
  | .list ss (some n), _, _, _, _, .list h => by
      rw [KeyTree.toMessage, KeyMessage.list, KeyMessage.nest, nest, h.nestList_toMessages]

theorem MakesAll.nestList_toMessages : ∀ {ss : List KeySpec} {c c' : Traced (Rpc.Client σ)}
    {ts : List KeyTree} {ps : List String}, MakesAll t ctx ss c c' ts ps →
      KeyMessage.nestList (KeyTree.toMessages ts) = nestOf ss
  | _, _, _, _, _, .nil => rfl
  | _, _, _, _, _, .cons hhead htail => by
      rw [KeyTree.toMessages, KeyMessage.nestList, nestOf, hhead.nest_toMessage,
        htail.nestList_toMessages]

end

theorem MakesAll.length_eq {ss : List KeySpec} {c c' : Traced (Rpc.Client σ)}
    {ts : List KeyTree} {ps : List String} (h : MakesAll t ctx ss c c' ts ps) :
    ts.length = ss.length := by
  induction ss generalizing c ts ps with
  | nil =>
      cases h
      rfl
  | cons s ss ih =>
      cases h with
      | cons _ htail => rw [List.length_cons, List.length_cons, ih htail]

/-! ## Thresholds -/

mutual

/-- The thresholds of what is made of a valid specification are sound. -/
theorem Makes.thresholdsSound : ∀ {s : KeySpec} {c c' : Traced (Rpc.Client σ)}
    {tree : KeyTree} {ps : List String}, Makes t ctx s c c' tree ps → s.validate = .ok () →
      tree.ThresholdsSound
  | _, _, _, _, _, .publicKey _, _ => .single
  | _, _, _, _, _, .privateKey _, _ => .single
  | _, _, _, _, _, .fresh _ _, _ => .single
  | _, _, _, _, _, .list h, hvalid => by
      rw [validate_list, bind_eq_ok_iff] at hvalid
      obtain ⟨hcheck, hchildren⟩ := hvalid
      refine .list ?_ (h.thresholdsSound hchildren)
      rw [h.length_eq]
      exact soundThreshold_of_check hcheck

theorem MakesAll.thresholdsSound : ∀ {ss : List KeySpec} {c c' : Traced (Rpc.Client σ)}
    {ts : List KeyTree} {ps : List String}, MakesAll t ctx ss c c' ts ps →
      validateAll ss = .ok () → ∀ tree ∈ ts, tree.ThresholdsSound
  | _, _, _, _, _, .nil, _ => by simp
  | _, _, _, _, _, .cons hhead htail, hvalid => by
      rw [validateAll_cons, bind_eq_ok_iff] at hvalid
      obtain ⟨hs, hss⟩ := hvalid
      intro tree htree
      rcases List.mem_cons.1 htree with rfl | hmem
      · exact hhead.thresholdsSound hs
      · exact htail.thresholdsSound hss tree hmem

end

/-! ## Reading back -/

/-- The encoded form of what is resolved is read as the tree that is made is. -/
theorem resolve_reads {s : KeySpec} {c c' : Traced (Rpc.Client σ)} {r : Resolved}
    (h : resolve t ctx s c = .ok r c') (hlength : r.encoded.length < UInt64.size) :
    ∃ tree, Makes t ctx s c c' tree r.signingKeys ∧
      tree.ReadBackAs (KeyTree.decode r.encoded) := by
  cases s with
  | single a m =>
      rw [resolve] at h
      obtain ⟨k, hmakes, -, hdecode⟩ := resolveLeaf_makes h
      rw [hdecode]
      exact ⟨.single k, hmakes, .itself trivial⟩
  | list ss required =>
      obtain ⟨tree, hmakes, hmessage⟩ := resolve_makes _ h
      have hencoded : r.encoded = tree.encode := by
        rw [encoded_eq_hex h, hmessage]
        cases hmakes
        rfl
      rw [hencoded] at hlength ⊢
      exact ⟨tree, hmakes, KeyTree.decode_encode_reads hmakes.leavesWellFormed hlength⟩

/-- What is made of a valid specification is legible unless the specification nests too
deep. -/
theorem Makes.legible_iff {s : KeySpec} {c c' : Traced (Rpc.Client σ)} {tree : KeyTree}
    {ps : List String} (h : Makes t ctx s c c' tree ps) (hvalid : s.validate = .ok ()) :
    tree.Legible ↔ s.nest ≤ 100 := by
  rw [← h.nest_toMessage]
  constructor
  · intro hlegible
    cases tree with
    | single k =>
        rw [nest_single]
        exact Nat.zero_le _
    | list required ts => exact hlegible.2
  · exact KeyTree.legible_of_sound h.leavesWellFormed (h.thresholdsSound hvalid)

/-- The encoded form of what is resolved has the tree that is made. -/
theorem resolve_decode {s : KeySpec} {c c' : Traced (Rpc.Client σ)} {r : Resolved}
    (h : resolve t ctx s c = .ok r c') (hvalid : s.validate = .ok ())
    (hnest : s.nest ≤ KeyMessage.nestingBudget) (hlength : r.encoded.length < UInt64.size) :
    ∃ tree, KeyTree.decode r.encoded = .ok tree ∧ Makes t ctx s c c' tree r.signingKeys := by
  obtain ⟨tree, hmakes, hreads⟩ := resolve_reads h hlength
  exact ⟨tree, hreads.eq_ok_iff.2 ((hmakes.legible_iff hvalid).2 hnest), hmakes⟩

end

/-- A server that returns one private key whenever it is asked for one. -/
def returning (p : String) : Rpc.Transport Unit where
  send q := pure (.success q.id (.obj [("key", .str p)]))

end KeySpec

end Concord
