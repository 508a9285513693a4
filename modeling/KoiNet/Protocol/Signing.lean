import KoiNet.Protocol.Envelope
import Mathlib.Algebra.Group.Nat.Defs
import Mathlib.Data.List.Induction

/-!
# Signing

The private key's side of the signatures: the library signs in DER encoding,
and the two numbers travel as 32 bytes each in base64.
-/

namespace KoiNet

open Foundation

/-- What is used of the cryptographic library to sign as well. -/
structure SigningLibrary extends Cryptography where
  PrivateKey : Type
  publicKey : PrivateKey → Key
  /-- The DER encoding of a public key. -/
  publicBytes : Key → Bytes
  /-- The DER encoded signature of the data. -/
  sign : PrivateKey → Bytes → Bytes
  decodeDssSignature : Bytes → Nat × Nat

/-- The last bytes of a number, the most significant first. -/
def bigEndian : Nat → Nat → Bytes
  | 0, _ => []
  | length + 1, value =>
      bigEndian length (value / 256) ++ [UInt8.ofNat (value % 256)]

/-- `value.to_bytes(length, byteorder="big")`. -/
def intToBytes (value length : Nat) : Except Exc Bytes :=
  if value < 256 ^ length then .ok (bigEndian length value)
  else .error .overflowError

def derToRawSignature (library : SigningLibrary) (derSignature : Bytes) :
    Except Exc Bytes := do
  let (r, s) := library.decodeDssSignature derSignature
  let rBytes ← intToBytes r byteLength
  let sBytes ← intToBytes s byteLength
  return rBytes ++ sBytes

/-- `PublicKey.to_der`. -/
def PublicKey.toDer (library : SigningLibrary) (pubKey : library.Key) :
    String :=
  Base64.encode (library.publicBytes pubKey)

def PrivateKey.sign (library : SigningLibrary) (privKey : library.PrivateKey)
    (message : Bytes) : Except Exc String := do
  let rawSignature ← derToRawSignature library (library.sign privKey message)
  return Base64.encode rawSignature

/-- Sign what `modelDumpJson` makes of the envelope. -/
def UnsignedEnvelope.signWith {T : Type} (library : SigningLibrary)
    (modelDumpJson : UnsignedEnvelope T → String)
    (envelope : UnsignedEnvelope T) (privKey : library.PrivateKey) :
    Except Exc (SignedEnvelope T) := do
  let signature ← PrivateKey.sign library privKey
    (modelDumpJson envelope).toUTF8.data.toList
  return {
    payload := envelope.payload
    sourceNode := envelope.sourceNode
    targetNode := envelope.targetNode
    signature := signature }

theorem length_bigEndian (length value : Nat) :
    (bigEndian length value).length = length := by
  induction length generalizing value with
  | zero => rfl
  | succ length induction => simp [bigEndian, induction]

theorem intFromBytes_append_singleton (bytes : Bytes) (byte : UInt8) :
    intFromBytes (bytes ++ [byte]) = intFromBytes bytes * 256 + byte.toNat := by
  simp [intFromBytes]

theorem intFromBytes_bigEndian {length value : Nat}
    (fits : value < 256 ^ length) :
    intFromBytes (bigEndian length value) = value := by
  induction length generalizing value with
  | zero =>
      have zero : value = 0 := by simpa using fits
      rw [zero]
      rfl
  | succ length induction =>
      have shorter : value / 256 < 256 ^ length := by
        rw [Nat.div_lt_iff_lt_mul (by decide)]
        rwa [← Nat.pow_succ]
      have byte : (UInt8.ofNat (value % 256)).toNat = value % 256 := by
        rw [UInt8.toNat_ofNat']
        omega
      rw [bigEndian, intFromBytes_append_singleton, induction shorter, byte]
      omega

theorem intFromBytes_lt (bytes : Bytes) :
    intFromBytes bytes < 256 ^ bytes.length := by
  induction bytes using List.reverseRecOn with
  | nil => decide
  | append_singleton bytes byte induction =>
      have small := byte.toNat_lt
      rw [intFromBytes_append_singleton, List.length_append,
        List.length_singleton, Nat.pow_succ]
      omega

/-- Leading zero bytes are padded again: no byte string is shortened. -/
theorem bigEndian_intFromBytes (bytes : Bytes) :
    bigEndian bytes.length (intFromBytes bytes) = bytes := by
  induction bytes using List.reverseRecOn with
  | nil => rfl
  | append_singleton bytes byte induction =>
      have small := byte.toNat_lt
      have quotient : (intFromBytes bytes * 256 + byte.toNat) / 256 =
          intFromBytes bytes := by omega
      have remainder : (intFromBytes bytes * 256 + byte.toNat) % 256 =
          byte.toNat := by omega
      rw [intFromBytes_append_singleton, List.length_append,
        List.length_singleton, bigEndian, quotient, remainder, induction,
        UInt8.ofNat_toNat]

theorem rawToDerSignature_bigEndian {crypto : Cryptography} {r s : Nat}
    (rFits : r < 256 ^ byteLength) (sFits : s < 256 ^ byteLength) :
    rawToDerSignature crypto
        (bigEndian byteLength r ++ bigEndian byteLength s) =
      .ok (crypto.encodeDssSignature r s) := by
  have first : (bigEndian byteLength r ++ bigEndian byteLength s).take
      byteLength = bigEndian byteLength r :=
    List.take_left' (length_bigEndian _ _)
  have second : (bigEndian byteLength r ++ bigEndian byteLength s).drop
      byteLength = bigEndian byteLength s :=
    List.drop_left' (length_bigEndian _ _)
  unfold rawToDerSignature
  rw [if_neg, first, second, intFromBytes_bigEndian rFits,
    intFromBytes_bigEndian sFits]
  simp [length_bigEndian, Nat.two_mul]

theorem derToRawSignature_of_fits {library : SigningLibrary}
    {derSignature : Bytes} {r s : Nat}
    (decoded : library.decodeDssSignature derSignature = (r, s))
    (rFits : r < 256 ^ byteLength) (sFits : s < 256 ^ byteLength) :
    derToRawSignature library derSignature =
      .ok (bigEndian byteLength r ++ bigEndian byteLength s) := by
  unfold derToRawSignature intToBytes
  rw [decoded]
  dsimp only
  rw [if_pos rFits, if_pos sFits]
  rfl

theorem rawToDerSignature_derToRawSignature {library : SigningLibrary}
    {derSignature : Bytes}
    (rFits : (library.decodeDssSignature derSignature).1 < 256 ^ byteLength)
    (sFits : (library.decodeDssSignature derSignature).2 < 256 ^ byteLength) :
    ∃ rawSignature, derToRawSignature library derSignature =
        .ok rawSignature ∧
      rawToDerSignature library.toCryptography rawSignature =
        .ok (library.encodeDssSignature
          (library.decodeDssSignature derSignature).1
          (library.decodeDssSignature derSignature).2) :=
  ⟨_, derToRawSignature_of_fits rfl rFits sFits,
    rawToDerSignature_bigEndian rFits sFits⟩

end KoiNet
