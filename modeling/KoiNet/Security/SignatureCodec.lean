import KoiNet.Protocol.Signing
import Mathlib.Data.Nat.Size

/-!
# The signature codec

A signature is two numbers below `2 ^ 256`.  Between its DER encoding and its
64 bytes nothing is lost in either direction, leading zero bytes included.
-/

namespace KoiNet

theorem two_pow_256 : 2 ^ 256 = 256 ^ byteLength := by
  decide

theorem derToRawSignature_rawToDerSignature {library : SigningLibrary}
    (inverse : ∀ r s, r < 2 ^ 256 → s < 2 ^ 256 →
      library.decodeDssSignature (library.encodeDssSignature r s) = (r, s))
    {rawSignature : Bytes} (width : rawSignature.length = 64) :
    ∃ derSignature, rawToDerSignature library.toCryptography rawSignature =
        .ok derSignature ∧
      derToRawSignature library derSignature = .ok rawSignature := by
  have rWidth : (rawSignature.take byteLength).length = byteLength := by
    rw [List.length_take, width]
    rfl
  have sWidth : (rawSignature.drop byteLength).length = byteLength := by
    rw [List.length_drop, width]
    rfl
  have rFits := intFromBytes_lt (rawSignature.take byteLength)
  have sFits := intFromBytes_lt (rawSignature.drop byteLength)
  have rPadded := bigEndian_intFromBytes (rawSignature.take byteLength)
  have sPadded := bigEndian_intFromBytes (rawSignature.drop byteLength)
  rw [rWidth] at rFits rPadded
  rw [sWidth] at sFits sPadded
  refine ⟨library.encodeDssSignature
    (intFromBytes (rawSignature.take byteLength))
    (intFromBytes (rawSignature.drop byteLength)), ?_, ?_⟩
  · unfold rawToDerSignature
    rw [if_neg]
    rw [width]
    decide
  · have decoded := inverse _ _ (two_pow_256 ▸ rFits) (two_pow_256 ▸ sFits)
    rw [derToRawSignature_of_fits decoded rFits sFits, rPadded, sPadded,
      List.take_append_drop]

/-- The two conversions are inverse to each other on numbers of 256 bits and on
64 bytes, and other lengths are refused. -/
theorem signatureCodec (library : SigningLibrary)
    (inverse : ∀ r s, r < 2 ^ 256 → s < 2 ^ 256 →
      library.decodeDssSignature (library.encodeDssSignature r s) = (r, s)) :
    (∀ r s, r < 2 ^ 256 → s < 2 ^ 256 →
      ∃ rawSignature,
        derToRawSignature library (library.encodeDssSignature r s) =
          .ok rawSignature ∧
        rawSignature.length = 64 ∧
        rawToDerSignature library.toCryptography rawSignature =
          .ok (library.encodeDssSignature r s)) ∧
    (∀ rawSignature : Bytes, rawSignature.length = 64 →
      ∃ derSignature,
        rawToDerSignature library.toCryptography rawSignature =
          .ok derSignature ∧
        derToRawSignature library derSignature = .ok rawSignature) ∧
    ∀ rawSignature : Bytes, rawSignature.length ≠ 64 →
      rawToDerSignature library.toCryptography rawSignature =
        .error .valueError := by
  refine ⟨?_, ?_, ?_⟩
  · intro r s rSmall sSmall
    have decoded := inverse r s rSmall sSmall
    rw [two_pow_256] at rSmall sSmall
    refine ⟨_, derToRawSignature_of_fits decoded rSmall sSmall, ?_,
      rawToDerSignature_bigEndian rSmall sSmall⟩
    rw [List.length_append, length_bigEndian, length_bigEndian]
    rfl
  · intro rawSignature width
    exact derToRawSignature_rawToDerSignature inverse width
  · intro rawSignature width
    unfold rawToDerSignature
    rw [if_pos]
    exact width

namespace Der

/-- The content of an INTEGER: as few bytes as leave the sign bit clear. -/
def contentLength (value : Nat) : Nat :=
  value.size / 8 + 1

/-- An INTEGER whose length has the short form. -/
def encodeInteger (value : Nat) : Bytes :=
  2 :: UInt8.ofNat (contentLength value) ::
    bigEndian (contentLength value) value

/-- A SEQUENCE of two INTEGERs whose length has the short form. -/
def encodeDssSignature (r s : Nat) : Bytes :=
  let body := encodeInteger r ++ encodeInteger s
  48 :: UInt8.ofNat body.length :: body

/-- The first INTEGER and what follows it. -/
def decodeInteger : Bytes → Option (Nat × Bytes)
  | 2 :: length :: bytes =>
      some (intFromBytes (bytes.take length.toNat), bytes.drop length.toNat)
  | _ => none

def decodeDssSignature : Bytes → Option (Nat × Nat)
  | 48 :: _ :: body => do
      let (r, rest) ← decodeInteger body
      let (s, _) ← decodeInteger rest
      return (r, s)
  | _ => none

theorem contentLength_le {value : Nat} (small : value < 2 ^ 256) :
    contentLength value ≤ 33 := by
  have size : value.size ≤ 256 := Nat.size_le.mpr small
  unfold contentLength
  omega

theorem lt_contentLength (value : Nat) :
    value < 256 ^ contentLength value := by
  have size : value.size ≤ 8 * contentLength value := by
    unfold contentLength
    omega
  have bits : (256 : Nat) = 2 ^ 8 := rfl
  rw [bits, ← Nat.pow_mul]
  exact Nat.size_le.mp size

theorem decodeInteger_encodeInteger {value : Nat} (small : value < 2 ^ 256)
    (rest : Bytes) :
    decodeInteger (encodeInteger value ++ rest) = some (value, rest) := by
  have short := contentLength_le small
  have length : (UInt8.ofNat (contentLength value)).toNat =
      contentLength value := by
    rw [UInt8.toNat_ofNat']
    omega
  have width := length_bigEndian (contentLength value) value
  change some (intFromBytes (List.take _ _), List.drop _ _) = _
  rw [length, List.append_eq, List.take_left' width, List.drop_left' width,
    intFromBytes_bigEndian (lt_contentLength value)]

theorem decodeDssSignature_encodeDssSignature {r s : Nat}
    (rSmall : r < 2 ^ 256) (sSmall : s < 2 ^ 256) :
    decodeDssSignature (encodeDssSignature r s) = some (r, s) := by
  change (do
    let (r, rest) ← decodeInteger (encodeInteger r ++ encodeInteger s)
    let (s, _) ← decodeInteger rest
    return (r, s)) = some (r, s)
  have last := decodeInteger_encodeInteger sSmall []
  rw [List.append_nil] at last
  rw [decodeInteger_encodeInteger rSmall]
  change (do
    let (s, _) ← decodeInteger (encodeInteger s)
    return (r, s)) = some (r, s)
  rw [last]
  rfl

/-- A library that writes DER; it signs every message alike. -/
def library : SigningLibrary where
  Key := Unit
  loadDerPublicKey _ := .ok ()
  encodeDssSignature := encodeDssSignature
  verify _ _ _ := .ok ()
  PrivateKey := Unit
  publicKey := id
  publicBytes _ := []
  sign _ _ := encodeDssSignature 1 1
  decodeDssSignature derSignature :=
    (decodeDssSignature derSignature).getD (0, 0)

example : encodeDssSignature 127 128 = [48, 7, 2, 1, 127, 2, 2, 0, 128] := by
  decide

end Der

theorem signatureCodec_der :
    (∀ r s, r < 2 ^ 256 → s < 2 ^ 256 →
      ∃ rawSignature,
        derToRawSignature Der.library (Der.encodeDssSignature r s) =
          .ok rawSignature ∧
        rawSignature.length = 64 ∧
        rawToDerSignature Der.library.toCryptography rawSignature =
          .ok (Der.encodeDssSignature r s)) ∧
    (∀ rawSignature : Bytes, rawSignature.length = 64 →
      ∃ derSignature,
        rawToDerSignature Der.library.toCryptography rawSignature =
          .ok derSignature ∧
        derToRawSignature Der.library derSignature = .ok rawSignature) ∧
    ∀ rawSignature : Bytes, rawSignature.length ≠ 64 →
      rawToDerSignature Der.library.toCryptography rawSignature =
        .error .valueError := by
  apply signatureCodec Der.library
  intro r s rSmall sSmall
  change (Der.decodeDssSignature (Der.encodeDssSignature r s)).getD (0, 0) = _
  rw [Der.decodeDssSignature_encodeDssSignature rSmall sSmall]
  rfl

end KoiNet
