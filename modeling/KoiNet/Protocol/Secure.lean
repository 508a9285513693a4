import KoiNet.Foundation.Base64
import KoiNet.Protocol.Exceptions

/-!
# Public keys and signatures

A signature travels as the base64 encoding of its two numbers, 32 bytes each;
the cryptographic library expects the DER encoding of the two.
-/

namespace KoiNet

open Foundation

abbrev Bytes : Type := List UInt8

/-- What is used of the cryptographic library. -/
structure Cryptography where
  Key : Type
  loadDerPublicKey : Bytes → Except Exc Key
  encodeDssSignature : Nat → Nat → Bytes
  /-- Raises an exception unless the DER encoded signature fits the data. -/
  verify : Key → Bytes → Bytes → Except Exc Unit

def b64decode (text : String) : Except Exc Bytes :=
  match Base64.decode text with
  | some bytes => .ok bytes
  | none => .error .valueError

/-- `int.from_bytes(bytes, byteorder="big")`. -/
def intFromBytes (bytes : Bytes) : Nat :=
  bytes.foldl (fun value byte => value * 256 + byte.toNat) 0

/-- `(curve.key_size + 7) // 8` for the curve SECP256R1. -/
def byteLength : Nat :=
  (256 + 7) / 8

def rawToDerSignature (crypto : Cryptography) (rawSignature : Bytes) :
    Except Exc Bytes :=
  if rawSignature.length ≠ 2 * byteLength then
    .error .valueError
  else
    .ok (crypto.encodeDssSignature
      (intFromBytes (rawSignature.take byteLength))
      (intFromBytes (rawSignature.drop byteLength)))

namespace PublicKey

def fromDer (crypto : Cryptography) (pubKeyDer : String) :
    Except Exc crypto.Key := do
  let data ← b64decode pubKeyDer
  crypto.loadDerPublicKey data

def verify (crypto : Cryptography) (pubKey : crypto.Key) (signature : String)
    (message : Bytes) : Except Exc Unit := do
  let rawSignature ← b64decode signature
  let derSignature ← rawToDerSignature crypto rawSignature
  crypto.verify pubKey derSignature message

end PublicKey

end KoiNet
