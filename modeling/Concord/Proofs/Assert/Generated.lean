import Concord.Proofs.Assert.Key
import Concord.Proofs.Key.Generation

/-!
# Expecting keys that are made

A key that is made of a specification can be expected of an entity if it can be read back.
Making a key has no limit, but reading one has: a message may nest no more than a hundred
messages deep.  So the keys of valid specifications that can be expected are those that do
not nest deeper (`KeySpec.generate_expected`).

Validity does not bound the depth.  A threshold around another takes three of the hundred
messages, so thirty-four of them around any specification are enough
(`KeySpec.generate_tower`).
-/

namespace Concord.KeySpec

variable {σ : Type} {t : Rpc.Transport σ} {ctx : Context}

/-! ## What is made is read -/

/-- A key that is made of any specification, valid or not, is read as the tree that was made
is. -/
theorem generate_reads {s : KeySpec} {c c' : Traced (Rpc.Client σ)} {key : GeneratedKey}
    (h : generate t ctx s c = .ok key c') (hlength : key.encoded.length < UInt64.size) :
    ∃ tree d, Makes t ctx s c d tree key.signingKeys ∧ tree.ReadBackAs key.tree := by
  obtain ⟨r, d, hresolve, hrest⟩ := Act.exists_of_bind_ok h
  cases hrest
  obtain ⟨tree, hmakes, hreads⟩ := resolve_reads hresolve hlength
  exact ⟨tree, d, hmakes, hreads⟩

/-- What is made of a valid specification that nests too deep is refused, for no list with
sound thresholds can be mistaken for a single key. -/
theorem Makes.refused_of_deep {s : KeySpec} {c c' : Traced (Rpc.Client σ)} {tree : KeyTree}
    {ps : List String} {r : Except KeyError KeyTree} (h : Makes t ctx s c c' tree ps)
    (hvalid : s.validate = .ok ()) (hdeep : 100 < s.nest) (hreads : tree.ReadBackAs r) :
    ∃ path, r = .error (.invalidMessage ⟨path, .recursionLimit⟩) := by
  cases hreads with
  | itself hlegible =>
      exact absurd ((h.legible_iff hvalid).1 hlegible) (Nat.not_le.2 hdeep)
  | mistaken hsize =>
      have hsound := KeyTree.listSize_toMessage h.leavesWellFormed (h.thresholdsSound hvalid)
      exact absurd hsize hsound.ne
  | tooDeep _ _ => exact ⟨_, rfl⟩

/-! ## Expecting what is made -/

/-- A key that is made of a valid specification is read back if the specification nests at
most a hundred messages deep, and an assertion that expects it of an entity goes on to the
sources.  If the specification nests deeper the key is refused for its depth, and the
assertion fails with both sources as they were.

This holds for every transport, and so for all replies; `hlength` says no more than that the
text of the key can be held in memory. -/
theorem generate_expected {s : KeySpec} {c c' : Traced (Rpc.Client σ)} {key : GeneratedKey}
    (hvalid : s.validate = .ok ()) (h : generate t ctx s c = .ok key c')
    (hlength : key.encoded.length < UInt64.size) :
    (s.nest ≤ 100 → ∃ tree, key.tree = .ok tree ∧
      ∀ {α β : Type} (consensus : ConsensusReader α) (mirror : MirrorReader β)
        (scenario : Context) (budget : Budget) (e : Entity),
        verifyKey consensus mirror scenario budget e key.encoded
          = expecting (readConsensusTree consensus scenario e) (keyExpected tree)
            (fun observed => .plain (keyMismatchText e observed tree))
            (keyCheck consensus mirror scenario e tree) scenario budget) ∧
    (100 < s.nest → ∃ path,
      key.tree = .error (.invalidMessage ⟨path, .recursionLimit⟩) ∧
      ∀ {α β : Type} (consensus : ConsensusReader α) (mirror : MirrorReader β)
        (scenario : Context) (budget : Budget) (e : Entity)
        (before : Traced ((α × β) × Clock)),
        verifyKey consensus mirror scenario budget e key.encoded before
          = .error (.within "Failed to decode expected key"
            (.key (.invalidMessage ⟨path, .recursionLimit⟩))) before) := by
  obtain ⟨tree, d, hmakes, hreads⟩ := generate_reads h hlength
  constructor
  · intro hnest
    have hread : key.tree = .ok tree :=
      hreads.eq_ok_iff.2 ((hmakes.legible_iff hvalid).2 hnest)
    refine ⟨tree, hread, ?_⟩
    intro α β consensus mirror scenario budget e
    exact verifyKey_of_decode hread
  · intro hdeep
    obtain ⟨path, hrefused⟩ := hmakes.refused_of_deep hvalid hdeep hreads
    refine ⟨path, hrefused, ?_⟩
    intro α β consensus mirror scenario budget e before
    exact verifyKey_of_undecodable hrefused before

/-! ## Towers of thresholds -/

/-- Thresholds of one, each around the next, with a specification in the innermost. -/
def tower (s : KeySpec) : Nat → KeySpec
  | 0 => s
  | n + 1 => .list [tower s n] (some 1)

theorem validate_tower {s : KeySpec} (h : s.validate = .ok ()) :
    ∀ n, (s.tower n).validate = .ok ()
  | 0 => h
  | n + 1 => by
      rw [tower, validate, validateAll, validateAll, validate_tower h n]
      rfl

theorem nest_tower (s : KeySpec) : ∀ n, (s.tower n).nest = s.nest + 3 * n
  | 0 => rfl
  | n + 1 => by
      rw [tower, nest, nestOf, nestOf, nest_tower s n]
      omega

end KeySpec

/-- What a tower around a specification is resolved to. -/
def Resolved.tower (r : Resolved) : Nat → Resolved
  | 0 => r
  | n + 1 => .ofList (some 1) [tower r n]

namespace KeySpec

theorem resolve_tower {s : KeySpec} {c c' : Traced (Rpc.Client σ)} {r : Resolved}
    (h : resolve t ctx s c = .ok r c') :
    ∀ n, resolve t ctx (s.tower n) c = .ok (r.tower n) c'
  | 0 => h
  | n + 1 => by
      have hinside : resolveAll t ctx [s.tower n] c = .ok [r.tower n] c' := by
        rw [resolveAll, resolveAll, Act.bind_ok (resolve_tower h n)]
        rfl
      rw [tower, resolve, Act.bind_ok hinside]
      rfl

theorem generate_of_resolve {s : KeySpec} {c c' : Traced (Rpc.Client σ)} {r : Resolved}
    (h : resolve t ctx s c = .ok r c') :
    ∃ d, generate t ctx s c = .ok ⟨r.encoded, r.signingKeys⟩ d := by
  rw [generate, Act.bind_ok h]
  exact ⟨_, rfl⟩

/-- A key is made of every tower around a valid specification of which one is, and that of a
tower of thirty-four thresholds or more cannot be read. -/
theorem generate_tower {s : KeySpec} {c c' : Traced (Rpc.Client σ)} {r : Resolved} {n : Nat}
    (hvalid : s.validate = .ok ()) (h : resolve t ctx s c = .ok r c') (htall : 33 < n)
    (hlength : (r.tower n).encoded.length < UInt64.size) :
    ∃ key d, generate t ctx (s.tower n) c = .ok key d ∧ ¬ ∃ tree, key.tree = .ok tree := by
  obtain ⟨d, hgenerate⟩ := generate_of_resolve (resolve_tower h n)
  refine ⟨_, d, hgenerate, ?_⟩
  obtain ⟨made, _, hmakes, hreads⟩ := generate_reads hgenerate hlength
  have hdeep : 100 < (s.tower n).nest := by
    rw [nest_tower]
    omega
  obtain ⟨path, hrefused⟩ := hmakes.refused_of_deep (validate_tower hvalid n) hdeep hreads
  rintro ⟨tree, htree⟩
  rw [hrefused] at htree
  cases htree

/-! ## Around a public key -/

/-- A public key that is given raw. -/
def ofRaw (k : RawKey) : KeySpec := .single k.algorithm (.publicKey k.hex)

theorem resolve_ofRaw {k : RawKey} (h : k.WellFormed) (c : Traced (Rpc.Client σ)) :
    resolve t ctx (ofRaw k) c = .ok (.ofPublic k k.hex) c := by
  rw [ofRaw, resolve, resolveLeaf, RawKey.decode_hex h]
  rfl

/-- The key of curve 25519 that has no bit set. -/
def zeroKey : RawKey := ⟨.ed25519, List.replicate 32 0⟩

theorem length_encoded_tower (k : RawKey) (text : String) (n : Nat) :
    ((Resolved.ofPublic k text).tower (n + 1)).encoded.length
      = 2 * ((Resolved.ofPublic k text).tower (n + 1)).message.bytes.length :=
  Text.length_encodeHex _

/-- A tower of thirty-three thresholds can be expected. -/
theorem generate_expected_of_tower :
    ((ofRaw zeroKey).tower 33).validate = .ok () ∧
      ∃ key c', generate (returning "") .blank ((ofRaw zeroKey).tower 33) ⟨.fresh (), []⟩
          = .ok key c' ∧
        ∃ tree, key.tree = .ok tree := by
  have hkey : zeroKey.WellFormed := by decide
  have hvalid : ((ofRaw zeroKey).tower 33).validate = .ok () := validate_tower rfl 33
  have hresolve : resolve (returning "") .blank ((ofRaw zeroKey).tower 33) ⟨.fresh (), []⟩
      = .ok ((Resolved.ofPublic zeroKey zeroKey.hex).tower 33) ⟨.fresh (), []⟩ :=
    resolve_tower (resolve_ofRaw hkey _) 33
  obtain ⟨c', hgenerate⟩ := generate_of_resolve hresolve
  have hlength : ((Resolved.ofPublic zeroKey zeroKey.hex).tower 33).encoded.length
      < UInt64.size := by
    rw [length_encoded_tower]
    decide +kernel
  have hnest : ((ofRaw zeroKey).tower 33).nest ≤ 100 := by
    rw [nest_tower]
    decide
  obtain ⟨tree, htree, -⟩ := (generate_expected hvalid hgenerate hlength).1 hnest
  exact ⟨hvalid, _, c', hgenerate, tree, htree⟩

/-- One more threshold, and the key that is made cannot be read. -/
theorem exists_generate_unreadable :
    ((ofRaw zeroKey).tower 34).validate = .ok () ∧
      ∃ key c', generate (returning "") .blank ((ofRaw zeroKey).tower 34) ⟨.fresh (), []⟩
          = .ok key c' ∧
        ¬ ∃ tree, key.tree = .ok tree := by
  have hkey : zeroKey.WellFormed := by decide
  have hvalid : (ofRaw zeroKey).validate = .ok () := rfl
  refine ⟨validate_tower hvalid 34,
    generate_tower hvalid (resolve_ofRaw hkey _) (by decide) ?_⟩
  rw [length_encoded_tower]
  decide +kernel

end Concord.KeySpec
