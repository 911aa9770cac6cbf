import Concord.Proofs.Key.Framing

/-!
# Framings that do not meet

A public key has one of two lengths under each algorithm, and so has a private key.  The raw
private key apart, which looks like any thirty-two bytes, these lengths are all different
(`Algorithm.not_publicLength_private`, `Algorithm.not_privateLength_private`,
`Algorithm.not_privateLength_public`).  So bytes are read as a key of one algorithm at most, a
framed private key is never read as a public one, nor under the other algorithm, and a framed
public key is never read as a private one (`framings_exact`).

What has the right length is read if it has the header and, for a compressed point, the tag
(`RawKey.stripHeader_eq_ok_iff`).
-/

namespace Concord

open Text

/-! ## Lengths -/

namespace Algorithm

/-- A public key of the algorithm has this length, raw or behind its header. -/
def PublicLength (a : Algorithm) (n : Nat) : Prop :=
  n = a.publicSize ∨ n = a.publicHeader.length + a.publicSize

/-- A private key of the algorithm has this length, raw or behind its header. -/
def PrivateLength (a : Algorithm) (n : Nat) : Prop :=
  n = privateSize ∨ n = a.privateHeader.length + privateSize

instance (a : Algorithm) (n : Nat) : Decidable (a.PublicLength n) :=
  inferInstanceAs (Decidable (_ ∨ _))

instance (a : Algorithm) (n : Nat) : Decidable (a.PrivateLength n) :=
  inferInstanceAs (Decidable (_ ∨ _))

theorem PublicLength.bounds {a : Algorithm} {n : Nat} (h : a.PublicLength n) :
    32 ≤ n ∧ n < 128 := by
  cases a with
  | ed25519 => rcases h with rfl | rfl <;> decide
  | secp256k1 => rcases h with rfl | rfl <;> decide

theorem not_publicLength_private (a b : Algorithm) :
    ¬ a.PublicLength (b.privateHeader.length + privateSize) := by
  cases a <;> cases b <;> decide

theorem not_privateLength_private {a b : Algorithm} (h : a ≠ b) :
    ¬ a.PrivateLength (b.privateHeader.length + privateSize) := by
  cases a <;> cases b <;> first | exact absurd rfl h | decide

theorem not_privateLength_public (a b : Algorithm) :
    ¬ a.PrivateLength (b.publicHeader.length + b.publicSize) := by
  cases a <;> cases b <;> decide

theorem length_privateHeader_pos (a : Algorithm) : 0 < a.privateHeader.length := by
  cases a <;> decide

end Algorithm

theorem unframe_of_length {a : Algorithm} {header bytes : List UInt8} {size : Nat}
    (h : ¬ (bytes.length = size ∨ bytes.length = header.length + size)) :
    unframe a header size bytes = .error (.unrecognizedLength a bytes.length) := by
  obtain ⟨hraw, hframed⟩ := not_or.1 h
  rw [unframe, if_neg hraw, if_neg hframed]

/-! ## Public keys -/

namespace RawKey

variable {a b : Algorithm} {bytes : List UInt8} {k l : RawKey}

/-- A public key is read from its raw bytes and from those behind its header, and from nothing
else. -/
theorem stripHeader_eq_ok_iff : stripHeader a bytes = .ok k ↔
    k.algorithm = a ∧ k.WellFormed ∧ (bytes = k.bytes ∨ bytes = k.framed) := by
  constructor
  · exact stripHeader_eq_ok
  · rintro ⟨rfl, hwf, rfl | rfl⟩
    · exact stripHeader_bytes hwf
    · exact stripHeader_framed hwf

theorem stripHeader_of_length (h : ¬ a.PublicLength bytes.length) :
    stripHeader a bytes = .error (.unrecognizedLength a bytes.length) := by
  rw [stripHeader, unframe_of_length h]

/-- What is found without an algorithm is what is read under the one found. -/
theorem detect_eq_ok_iff : detect bytes = .ok k ↔ stripHeader k.algorithm bytes = .ok k := by
  constructor
  · intro h
    rw [detect] at h
    split at h
    case h_1 a _ =>
        obtain ⟨rfl, -⟩ := stripHeader_eq_ok h
        exact h
    case h_2 => cases h
  · exact detect_of_stripHeader

/-- Bytes are read under one algorithm at most, since what is read is found without one. -/
theorem algorithm_eq_of_stripHeader (ha : stripHeader a bytes = .ok k)
    (hb : stripHeader b bytes = .ok l) : a = b := by
  have hfound := detect_of_stripHeader ha
  rw [detect_of_stripHeader hb] at hfound
  obtain rfl := Except.ok.inj hfound
  exact (stripHeader_eq_ok ha).1.symm.trans (stripHeader_eq_ok hb).1

theorem detect_of_length (h : ∀ a : Algorithm, ¬ a.PublicLength bytes.length) :
    detect bytes = .error (.unknownEncoding bytes.length) := by
  have hnone : (Algorithm.all.find? fun a =>
      bytes.length = a.publicSize ∨ bytes.length = a.publicHeader.length + a.publicSize)
        = none := by
    refine List.find?_eq_none.2 fun a _ => ?_
    simpa [Algorithm.PublicLength] using h a
  rw [detect, hnone]

end RawKey

/-! ## Private keys -/

namespace PrivateKey

variable {a b : Algorithm} {secret : List UInt8}

theorem length_framed (h : secret.length = privateSize) :
    (framed a secret).length = a.privateHeader.length + privateSize := by
  rw [framed, List.length_append, h]

/-- A private key is read from the text that is written of it. -/
theorem parse_encode (h : secret.length = privateSize) :
    parse a (encode a secret) = .ok secret := by
  rw [parse, encode, decodeHex_encodeHex]
  exact unframe_framed h (Algorithm.length_privateHeader_pos a)

theorem parse_of_length {bytes : List UInt8} (h : ¬ a.PrivateLength bytes.length) :
    parse a (encodeHex bytes) = .error (.unrecognizedLength a bytes.length) := by
  rw [parse, decodeHex_encodeHex]
  exact unframe_of_length h

/-- The headers of all keys start alike. -/
theorem looksSingle_framed (a : Algorithm) (secret : List UInt8) :
    KeyMessage.looksSingle (framed a secret) = true := by
  cases a <;> rfl

/-- The text of a private key behind its header is that of a private key of its algorithm and
of nothing else.  What refuses it names its length. -/
structure ReadOnlyAs (a : Algorithm) (secret : List UInt8) : Prop where
  own : parse a (encode a secret) = .ok secret
  other : ∀ b, b ≠ a → parse b (encode a secret)
    = .error (.unrecognizedLength b (framed a secret).length)
  /-- No public key is read from it under either algorithm. -/
  not_public : ∀ b, RawKey.decode b (encode a secret)
    = .error (.unrecognizedLength b (framed a secret).length)
  /-- Nor without one. -/
  not_found : RawKey.detect (framed a secret) = .error (.unknownEncoding (framed a secret).length)
  /-- Nor is a tree. -/
  not_tree : KeyTree.decode (encode a secret)
    = .error (.unknownEncoding (framed a secret).length)

theorem readOnlyAs (h : secret.length = privateSize) : ReadOnlyAs a secret := by
  have hlength := length_framed (a := a) h
  have hpublic : ∀ b : Algorithm, ¬ b.PublicLength (framed a secret).length := by
    intro b
    rw [hlength]
    exact b.not_publicLength_private a
  have hfound := RawKey.detect_of_length hpublic
  refine ⟨parse_encode h, ?_, ?_, hfound, ?_⟩
  · intro b hne
    refine parse_of_length ?_
    rw [hlength]
    exact Algorithm.not_privateLength_private hne
  · intro b
    rw [RawKey.decode, encode, decodeHex_encodeHex]
    exact RawKey.stripHeader_of_length (hpublic b)
  · rw [KeyTree.decode, KeyMessage.ofEncoded, encode, decodeHex_encodeHex]
    simp only [KeyMessage.ofEncodedBytes, looksSingle_framed, if_true, hfound, Except.map]

end PrivateKey

/-! ## All framings -/

/-- A public key is read from its raw bytes and from those behind the header of its algorithm,
and from nothing else, so that bytes are read under one algorithm at most, the one that is found
without being given.  A private key behind its header is read as a private key of its algorithm
only, and no public key behind its header is read as a private one. -/
theorem framings_exact :
    (∀ (a : Algorithm) (bytes : List UInt8) (k : RawKey), RawKey.stripHeader a bytes = .ok k ↔
      k.algorithm = a ∧ k.WellFormed ∧
        (bytes = k.bytes ∨ bytes = a.publicHeader ++ k.bytes)) ∧
    (∀ (a b : Algorithm) (bytes : List UInt8) (k l : RawKey),
      RawKey.stripHeader a bytes = .ok k → RawKey.stripHeader b bytes = .ok l → a = b) ∧
    (∀ (bytes : List UInt8) (k : RawKey),
      RawKey.detect bytes = .ok k ↔ RawKey.stripHeader k.algorithm bytes = .ok k) ∧
    (∀ (a : Algorithm) (secret : List UInt8), secret.length = 32 →
      PrivateKey.ReadOnlyAs a secret) ∧
    ∀ k : RawKey, k.bytes.length = k.algorithm.publicSize → ∀ a : Algorithm,
      PrivateKey.parse a k.encode = .error (.unrecognizedLength a k.framed.length) := by
  refine ⟨fun a bytes k => ?_, fun a b bytes k l => RawKey.algorithm_eq_of_stripHeader,
    fun bytes k => RawKey.detect_eq_ok_iff, fun a secret => PrivateKey.readOnlyAs,
    fun k hk a => ?_⟩
  · rw [RawKey.stripHeader_eq_ok_iff]
    constructor
    · rintro ⟨rfl, h⟩
      exact ⟨rfl, h⟩
    · rintro ⟨rfl, h⟩
      exact ⟨rfl, h⟩
  · refine PrivateKey.parse_of_length ?_
    rw [RawKey.framed, List.length_append, hk]
    exact a.not_privateLength_public k.algorithm

/-- A private key of thirty-two bytes that are the first of a header, and a compressed point that
is no point. -/
theorem framings_exact_of_headerBytes :
    PrivateKey.ReadOnlyAs .secp256k1
        (Algorithm.publicHeader .ed25519 ++ List.replicate 20 0x30) ∧
      PrivateKey.parse .ed25519 (RawKey.encode ⟨.secp256k1, List.replicate 33 0x30⟩)
        = .error (.unrecognizedLength .ed25519 47) := by
  obtain ⟨-, -, -, hprivate, hpublic⟩ := framings_exact
  exact ⟨hprivate .secp256k1 _ (by decide),
    hpublic ⟨.secp256k1, List.replicate 33 0x30⟩ (by decide) .ed25519⟩

end Concord
