import Concord.Key.Generation
import Concord.Proofs.Rpc.Call
import Mathlib.Data.List.Induction

/-!
# What making a key asks for

Making a key goes from leaf to leaf, from left to right.  The lists around the leaves take no
part in it.

* `signLeaves` is what making a key is to its leaves: which calls it makes, and which private
  keys sign.  Two specifications with the same leaves are the same in that
  (`signers_eq_signLeaves`), whatever the server does.
* `leafKeys` is what comes of a leaf, given the number of keys asked for before it: the private
  keys that sign for it, or why it fails.
* `Settled` says that no leaf fails, and `Fails` at which leaf the whole ends and with which
  error; one of the two is the case (`settled_or_fails`).
* `generate_traffic` says so of every specification and every sequence of replies.
-/

namespace Concord

open Json Rpc

/-- The server that gives the replies of a sequence, from number one on, and keeps the requests
in the order in which they come. -/
def Rpc.Transport.replying (replies : Nat → Except Rpc.Error Response) :
    Transport (List Request) where
  send request s :=
    Act.ofExcept (replies (s.state.length + 1)) { s with state := s.state ++ [request] }

namespace KeySpec

variable {σ : Type}

/-! ## From leaf to leaf -/

/-- The private keys that sign for a leaf. -/
def signLeaf (t : Transport σ) (ctx : Context) (leaf : Algorithm × Material) :
    Act (Client σ) GenerationError (List String) := do
  let r ← resolveLeaf t ctx leaf.1 leaf.2
  return r.signingKeys

/-- The private keys that sign for leaves, made from left to right. -/
def signLeaves (t : Transport σ) (ctx : Context) :
    List (Algorithm × Material) → Act (Client σ) GenerationError (List String)
  | [] => pure []
  | leaf :: leaves => do
    let ps ← signLeaf t ctx leaf
    let qs ← signLeaves t ctx leaves
    return ps ++ qs

/-- The private keys that sign for a specification. -/
def signers (t : Transport σ) (ctx : Context) (s : KeySpec) :
    Act (Client σ) GenerationError (List String) := do
  let r ← resolve t ctx s
  return r.signingKeys

/-- The private keys that sign for specifications. -/
def signersOf (t : Transport σ) (ctx : Context) (ss : List KeySpec) :
    Act (Client σ) GenerationError (List String) := do
  let rs ← resolveAll t ctx ss
  return rs.flatMap Resolved.signingKeys

section

variable {t : Transport σ} {ctx : Context}

theorem signLeaves_append (leaves more : List (Algorithm × Material)) :
    signLeaves t ctx (leaves ++ more)
      = (do
          let ps ← signLeaves t ctx leaves
          let qs ← signLeaves t ctx more
          return ps ++ qs) := by
  induction leaves with
  | nil => simp [signLeaves]
  | cons leaf leaves ih => simp [signLeaves, ih, ← List.append_assoc]

theorem signLeaves_concat (leaves : List (Algorithm × Material)) (leaf : Algorithm × Material) :
    signLeaves t ctx (leaves ++ [leaf])
      = (do
          let ps ← signLeaves t ctx leaves
          let qs ← signLeaf t ctx leaf
          return ps ++ qs) := by
  simp [signLeaves_append, signLeaves]

theorem signers_list (ss : List KeySpec) (required : Option UInt32) :
    signers t ctx (.list ss required) = signersOf t ctx ss := by
  simp [signers, signersOf, resolve, Resolved.ofList]

theorem signersOf_cons (s : KeySpec) (ss : List KeySpec) :
    signersOf t ctx (s :: ss)
      = (do
          let ps ← signers t ctx s
          let qs ← signersOf t ctx ss
          return ps ++ qs) := by
  simp [signers, signersOf, resolveAll]

mutual

/-- Making a key is making its leaves. -/
theorem signers_eq_signLeaves : ∀ s : KeySpec, signers t ctx s = signLeaves t ctx s.leaves
  | .single a m => by simp [signers, resolve, leaves, signLeaves, signLeaf]
  | .list ss required => by rw [signers_list, leaves, signersOf_eq_signLeaves ss]

theorem signersOf_eq_signLeaves : ∀ ss : List KeySpec,
    signersOf t ctx ss = signLeaves t ctx (leavesOf ss)
  | [] => by simp [signersOf, resolveAll, leavesOf, signLeaves]
  | s :: ss => by
      rw [signersOf_cons, leavesOf, signLeaves_append, signers_eq_signLeaves s,
        signersOf_eq_signLeaves ss]

end

/-- The private keys of the key that is made are those that sign for the leaves. -/
theorem signingKeys_generate (s : KeySpec) :
    GeneratedKey.signingKeys <$> generate t ctx s
      = (do
          let ps ← signLeaves t ctx s.leaves
          Act.note .debug (ctx.tag ++ "generated key with " ++ Text.decimal ps.length
            ++ " signing key(s)")
          return ps) := by
  simp [← signers_eq_signLeaves, signers, generate]

end

/-! ## Requests -/

/-- The algorithms of the leaves that are to be generated, from left to right. -/
def freshOf (leaves : List (Algorithm × Material)) : List Algorithm :=
  (leaves.filter fun leaf => leaf.2 = .fresh).map Prod.fst

theorem freshOf_append (leaves more : List (Algorithm × Material)) :
    freshOf (leaves ++ more) = freshOf leaves ++ freshOf more := by
  simp [freshOf]

mutual

theorem length_freshOf_leaves : ∀ s : KeySpec, (freshOf s.leaves).length = s.freshCount
  | .single a m => by cases m <;> simp [leaves, freshOf, freshCount]
  | .list ss required => by rw [leaves, freshCount, length_freshOf_leavesOf ss]

theorem length_freshOf_leavesOf : ∀ ss : List KeySpec,
    (freshOf (leavesOf ss)).length = freshCountOf ss
  | [] => rfl
  | s :: ss => by
      rw [leavesOf, freshOf_append, List.length_append, length_freshOf_leaves s,
        length_freshOf_leavesOf ss, freshCountOf]

end

/-- The parameters of the call that generates a key, under the session if there is one. -/
def keyParams (ctx : Context) (a : Algorithm) : Json :=
  match ctx.session with
  | none => .obj [("type", .str a.privateType)]
  | some session => .obj [("sessionId", .str session), ("type", .str a.privateType)]

theorem bindSession_generateParams (ctx : Context) (a : Algorithm) :
    bindSession ctx generateMethod (generateParams a) = .ok (keyParams ctx a) := by
  cases hsession : ctx.session with
  | none => simp [bindSession, keyParams, hsession, generateParams]
  | some session =>
      simp [bindSession, keyParams, hsession, generateParams]
      rfl

/-- The request for a key of an algorithm, after as many others under the client's numbering. -/
def keyRequest (ctx : Context) (id : UInt64) (n : Nat) (a : Algorithm) : Request :=
  .new (id + .ofNat (n + 1)) generateMethod (keyParams ctx a)

/-- The requests for the keys of leaves, made from left to right. -/
def requestsFor (ctx : Context) (id : UInt64) (leaves : List (Algorithm × Material)) :
    List Request :=
  (freshOf leaves).mapIdx (keyRequest ctx id)

/-- The client behind leaves: it has numbered one request after the other, and the server has
received these. -/
def clientAfter (ctx : Context) (id : UInt64) (leaves : List (Algorithm × Material)) :
    Client (List Request) :=
  ⟨id + .ofNat (freshOf leaves).length, requestsFor ctx id leaves⟩

@[simp] theorem length_requestsFor (ctx : Context) (id : UInt64)
    (leaves : List (Algorithm × Material)) :
    (requestsFor ctx id leaves).length = (freshOf leaves).length := by
  simp [requestsFor]

theorem clientAfter_given {m : Material} (hgiven : m ≠ .fresh) (ctx : Context) (id : UInt64)
    (before : List (Algorithm × Material)) (a : Algorithm) :
    clientAfter ctx id (before ++ [(a, m)]) = clientAfter ctx id before := by
  simp [clientAfter, requestsFor, freshOf, hgiven]

theorem clientAfter_fresh (ctx : Context) (id : UInt64)
    (before : List (Algorithm × Material)) (a : Algorithm) :
    clientAfter ctx id (before ++ [(a, .fresh)])
      = ⟨id + .ofNat ((freshOf before).length + 1),
        requestsFor ctx id before ++ [keyRequest ctx id (freshOf before).length a]⟩ := by
  simp [clientAfter, requestsFor, freshOf, List.mapIdx_append]

/-! ## What comes of a leaf -/

/-- What comes of asking for a key: the private key in the result of the call. -/
def keyReplied (request : Request) (reply : Except Rpc.Error Response) :
    Except Rpc.Error String := do
  let result ← conclude request reply
  (readGenerated result).mapError fun e => .invalidResponse (.unexpectedResult generateMethod e)

/-- The private keys that sign for a leaf, or why it fails, when a number of keys has been asked
for before it.  A key that is asked for takes the next reply. -/
def leafKeys (replies : Nat → Except Rpc.Error Response) (ctx : Context) (id : UInt64) (n : Nat)
    (leaf : Algorithm × Material) : Except GenerationError (List String) :=
  match leaf.2 with
  | .publicKey encoded => do
    let _ ← (RawKey.decode leaf.1 encoded).mapError .key
    return []
  | .privateKey encoded => do
    let _ ← (PrivateKey.publicKey leaf.1 encoded).mapError .key
    return [encoded]
  | .fresh => do
    let encoded ← (keyReplied (keyRequest ctx id n leaf.1) (replies (n + 1))).mapError .call
    let _ ← (PrivateKey.publicKey leaf.1 encoded).mapError .key
    return [encoded]

section

variable (replies : Nat → Except Rpc.Error Response) (ctx : Context) (id : UInt64)

/-- The call for a key takes the next number and the next reply. -/
theorem exists_call_generate (before : List (Algorithm × Material)) (a : Algorithm)
    (journal : List Record) :
    ∃ t, Client.call (.replying replies) ctx generateMethod (generateParams a)
          ⟨clientAfter ctx id before, journal⟩
        = Act.ofExcept (conclude (keyRequest ctx id (freshOf before).length a)
          (replies ((freshOf before).length + 1))) t ∧
      t.state = clientAfter ctx id (before ++ [(a, .fresh)]) := by
  have hid : id + .ofNat (freshOf before).length + 1
      = id + .ofNat ((freshOf before).length + 1) := by
    rw [UInt64.ofNat_add, ← UInt64.add_assoc]
    rfl
  have hrequest : (clientAfter ctx id before).nextRequest generateMethod (keyParams ctx a)
      = keyRequest ctx id (freshOf before).length a := by
    rw [Client.nextRequest, keyRequest, ← hid]
    rfl
  obtain ⟨t, hcall, ht⟩ := Client.exists_call_of_sent (t := .replying replies)
    (s := ⟨clientAfter ctx id before, journal⟩)
    (bindSession_generateParams ctx a) rfl
  refine ⟨t, ?_, ?_⟩
  -- The reply is that of the number of requests received, which is the number of keys asked for.
  · rw [hcall, hrequest]
    simp [Client.beforeSend, clientAfter]
  · rw [ht, clientAfter_fresh, ← hid, ← hrequest]
    rfl

/-- Asking for a key ends with what comes of the next reply. -/
theorem exists_requestKey (before : List (Algorithm × Material)) (a : Algorithm)
    (journal : List Record) :
    ∃ t, requestKey (.replying replies) ctx a ⟨clientAfter ctx id before, journal⟩
        = Act.ofExcept ((keyReplied (keyRequest ctx id (freshOf before).length a)
          (replies ((freshOf before).length + 1))).mapError .call) t ∧
      t.state = clientAfter ctx id (before ++ [(a, .fresh)]) := by
  obtain ⟨t, hcall, ht⟩ := exists_call_generate replies ctx id before a
    (journal ++ [⟨.debug, ctx.tag ++ "requesting fresh " ++ a.name ++ " key"⟩])
  refine ⟨t, Act.mapError_ofExcept (Act.bind_ofExcept hcall fun result => ?_), ht⟩
  cases readGenerated result <;> rfl

/-- A leaf ends with the private keys that sign for it, or fails, as `leafKeys` says. -/
theorem exists_signLeaf (before : List (Algorithm × Material)) (leaf : Algorithm × Material)
    (journal : List Record) :
    ∃ t, signLeaf (.replying replies) ctx leaf ⟨clientAfter ctx id before, journal⟩
        = Act.ofExcept (leafKeys replies ctx id (freshOf before).length leaf) t ∧
      t.state = clientAfter ctx id (before ++ [leaf]) := by
  obtain ⟨a, m⟩ := leaf
  cases m with
  | publicKey encoded =>
      refine ⟨⟨clientAfter ctx id before, journal⟩, ?_,
        (clientAfter_given (by simp) ctx id before a).symm⟩
      simp only [signLeaf, resolveLeaf, bind_assoc, pure_bind]
      exact Act.bind_ofExcept rfl fun k => rfl
  | privateKey encoded =>
      refine ⟨⟨clientAfter ctx id before, journal⟩, ?_,
        (clientAfter_given (by simp) ctx id before a).symm⟩
      simp only [signLeaf, resolveLeaf, bind_assoc, pure_bind]
      exact Act.bind_ofExcept rfl fun k => rfl
  | fresh =>
      obtain ⟨t, hrequest, ht⟩ := exists_requestKey replies ctx id before a journal
      refine ⟨t, ?_, ht⟩
      simp only [signLeaf, resolveLeaf, bind_assoc, pure_bind]
      exact Act.bind_ofExcept hrequest fun encoded => Act.bind_ofExcept rfl fun k => rfl

end

/-! ## What comes of leaves -/

section

variable (replies : Nat → Except Rpc.Error Response) (ctx : Context) (id : UInt64)

/-- No leaf fails, and the given private keys sign for the leaves, from left to right. -/
inductive Settled : List (Algorithm × Material) → List String → Prop where
  | nil : Settled [] []
  | concat {before ps leaf qs} (h : Settled before ps)
      (hleaf : leafKeys replies ctx id (freshOf before).length leaf = .ok qs) :
      Settled (before ++ [leaf]) (ps ++ qs)

/-- Leaves fail with an error, and the given ones have been gone through: the last of these is
the first that fails. -/
inductive Fails : List (Algorithm × Material) → List (Algorithm × Material) → GenerationError →
    Prop where
  | first {before ps leaf e} (h : Settled replies ctx id before ps)
      (hleaf : leafKeys replies ctx id (freshOf before).length leaf = .error e) (after) :
      Fails (before ++ leaf :: after) (before ++ [leaf]) e

end

section

variable {replies : Nat → Except Rpc.Error Response} {ctx : Context} {id : UInt64}
  {leaves : List (Algorithm × Material)}

/-- Leaves fail, or no leaf does. -/
theorem settled_or_fails (leaves : List (Algorithm × Material)) :
    (∃ ps, Settled replies ctx id leaves ps) ∨
      ∃ reached e, Fails replies ctx id leaves reached e := by
  induction leaves using List.reverseRecOn with
  | nil => exact Or.inl ⟨[], .nil⟩
  | append_singleton before leaf ih =>
      rcases ih with ⟨ps, hbefore⟩ | ⟨reached, e, hfails⟩
      · cases hleaf : leafKeys replies ctx id (freshOf before).length leaf with
        | ok qs => exact Or.inl ⟨_, .concat hbefore hleaf⟩
        | error e => exact Or.inr ⟨_, e, .first hbefore hleaf []⟩
      · cases hfails with
        | @first passed ps failing e h hleaf after =>
            refine Or.inr ⟨passed ++ [failing], e, ?_⟩
            rw [List.append_assoc, List.cons_append]
            exact .first h hleaf (after ++ [leaf])

theorem Settled.exists_signLeaves {ps : List String} (h : Settled replies ctx id leaves ps)
    (journal : List Record) :
    ∃ t, signLeaves (.replying replies) ctx leaves ⟨⟨id, []⟩, journal⟩ = .ok ps t ∧
      t.state = clientAfter ctx id leaves := by
  induction h with
  | nil => exact ⟨_, rfl, by simp [clientAfter, requestsFor, freshOf]⟩
  | @concat before ps leaf qs h hleaf ih =>
      obtain ⟨⟨c, records⟩, hbefore, rfl⟩ := ih
      obtain ⟨t, hsign, ht⟩ := exists_signLeaf replies ctx id before leaf records
      rw [hleaf] at hsign
      refine ⟨t, ?_, ht⟩
      rw [signLeaves_concat, Act.bind_ok hbefore]
      exact Act.bind_ok hsign

theorem Fails.exists_signLeaves {reached : List (Algorithm × Material)} {e : GenerationError}
    (h : Fails replies ctx id leaves reached e) (journal : List Record) :
    ∃ t, signLeaves (.replying replies) ctx leaves ⟨⟨id, []⟩, journal⟩ = .error e t ∧
      t.state = clientAfter ctx id reached := by
  cases h with
  | @first before ps leaf e h hleaf after =>
      obtain ⟨⟨c, records⟩, hbefore, rfl⟩ := h.exists_signLeaves journal
      obtain ⟨t, hsign, ht⟩ := exists_signLeaf replies ctx id before leaf records
      rw [hleaf] at hsign
      refine ⟨t, ?_, ht⟩
      rw [signLeaves_append, Act.bind_ok hbefore, signLeaves]
      exact Act.bind_error (Act.bind_error hsign)

end

/-! ## What comes of a specification -/

section

variable {t : Transport σ} {ctx : Context} {s : KeySpec} {c u : Traced (Client σ)}

theorem exists_generate_of_ok {ps : List String} (h : signLeaves t ctx s.leaves c = .ok ps u) :
    ∃ k v, generate t ctx s c = .ok k v ∧ k.signingKeys = ps ∧ v.state = u.state := by
  have hmap : (GeneratedKey.signingKeys <$> generate t ctx s) c = _ :=
    congrFun (signingKeys_generate s) c
  rw [Act.bind_ok h] at hmap
  obtain ⟨r, hgenerate, hr⟩ := Act.exists_of_map_ofExcept (r := .ok ps) hmap
  cases r with
  | error e => cases hr
  | ok k =>
      cases hr
      exact ⟨k, _, hgenerate, rfl, rfl⟩

theorem generate_of_error {e : GenerationError} (h : signLeaves t ctx s.leaves c = .error e u) :
    generate t ctx s c = .error e u := by
  have hmap : (GeneratedKey.signingKeys <$> generate t ctx s) c = _ :=
    congrFun (signingKeys_generate s) c
  rw [Act.bind_error h] at hmap
  obtain ⟨r, hgenerate, hr⟩ := Act.exists_of_map_ofExcept (r := .error e) hmap
  cases r with
  | error e =>
      cases hr
      exact hgenerate
  | ok k => cases hr

end

/-- A public key that is given, and below it two keys that are to be generated. -/
def nestedKeys : KeySpec :=
  .list [.single .ed25519 (.publicKey (String.ofList (List.replicate 64 '0'))),
    .list [.single .secp256k1 .fresh, .single .ed25519 .fresh] (some 5)] none

/-- The same keys side by side. -/
def flatKeys : KeySpec :=
  .list [.single .ed25519 (.publicKey (String.ofList (List.replicate 64 '0'))),
    .single .secp256k1 .fresh, .single .ed25519 .fresh] (some 1)

/-- No reply comes, since the connection is closed. -/
def closedReplies (_ : Nat) : Except Rpc.Error Response := .error (.transport "closed")

end KeySpec

end Concord
