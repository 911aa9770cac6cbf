import Concord.Key.Raw

/-!
# Framed keys

A single key is written raw or behind the header of its algorithm, and only its
length tells which.  `stripHeader` reads a public key under a given algorithm,
`detect` finds the algorithm by the length, and `PrivateKey.parse` reads a private
key.  Writing always puts the header in front.
-/

namespace Concord

open Text

/-! ## Headers -/

/-- The last `size` bytes of a string that is raw or stands behind a header. -/
def unframe (algorithm : Algorithm) (header : List UInt8) (size : Nat) (bytes : List UInt8) :
    Except KeyError (List UInt8) :=
  if bytes.length = size then .ok bytes
  else if bytes.length = header.length + size then
    if bytes.take header.length = header then .ok (bytes.drop header.length)
    else .error (.headerMismatch algorithm (bytes.take header.length))
  else .error (.unrecognizedLength algorithm bytes.length)

/-- A compressed point starts with one of two tags. -/
def checkPoint (algorithm : Algorithm) (raw : List UInt8) : Except KeyError Unit :=
  match algorithm, raw with
  | .secp256k1, tag :: _ =>
    if tag = 2 ∨ tag = 3 then .ok () else .error (.invalidMaterial algorithm (.notCompressed tag))
  | _, _ => .ok ()

/-! ## Public keys -/

namespace RawKey

/-- Reads a public key of an algorithm. -/
def stripHeader (algorithm : Algorithm) (bytes : List UInt8) : Except KeyError RawKey :=
  match unframe algorithm algorithm.publicHeader algorithm.publicSize bytes with
  | .error e => .error e
  | .ok raw =>
    match checkPoint algorithm raw with
    | .error e => .error e
    | .ok () => .ok ⟨algorithm, raw⟩

/-- Reads a public key of either algorithm. -/
def detect (bytes : List UInt8) : Except KeyError RawKey :=
  match Algorithm.all.find? fun a =>
      bytes.length = a.publicSize ∨ bytes.length = a.publicHeader.length + a.publicSize with
  | some a => stripHeader a bytes
  | none => .error (.unknownEncoding bytes.length)

/-- Reads the hexadecimal text of a public key of an algorithm. -/
def decode (algorithm : Algorithm) (encoded : String) : Except KeyError RawKey :=
  match decodeHex encoded with
  | .error e => .error (.invalidHex e)
  | .ok bytes => stripHeader algorithm bytes

/-- A key behind the header of its algorithm. -/
def framed (k : RawKey) : List UInt8 :=
  k.algorithm.publicHeader ++ k.bytes

/-- The hexadecimal text of a key behind its header. -/
def encode (k : RawKey) : String :=
  encodeHex k.framed

end RawKey

/-! ## Private keys -/

namespace PrivateKey

/-- A private key behind the header of its algorithm. -/
def framed (algorithm : Algorithm) (secret : List UInt8) : List UInt8 :=
  algorithm.privateHeader ++ secret

/-- The hexadecimal text of a private key behind its header. -/
def encode (algorithm : Algorithm) (secret : List UInt8) : String :=
  encodeHex (framed algorithm secret)

/-- Reads the bytes of a private key of an algorithm. -/
def strip (algorithm : Algorithm) (bytes : List UInt8) : Except KeyError (List UInt8) :=
  unframe algorithm algorithm.privateHeader privateSize bytes

/-- Reads the hexadecimal text of a private key of an algorithm. -/
def parse (algorithm : Algorithm) (encoded : String) : Except KeyError (List UInt8) :=
  match decodeHex encoded with
  | .error e => .error (.invalidHex e)
  | .ok bytes => strip algorithm bytes

end PrivateKey

end Concord
