import Mathlib.Logic.Basic

/-!
# Base64

Decoding is lenient: characters outside the alphabet are skipped, and a
padding that completes a group of four ends the input.  Only an incomplete
last group is an error.  What was encoded decodes to itself.
-/

namespace Foundation

namespace Base64

/-- The six bits a character stands for. -/
def sextet (char : Char) : Option Nat :=
  if 'A' ≤ char ∧ char ≤ 'Z' then some (char.toNat - 65)
  else if 'a' ≤ char ∧ char ≤ 'z' then some (char.toNat - 71)
  else if '0' ≤ char ∧ char ≤ '9' then some (char.toNat + 4)
  else if char = '+' then some 62
  else if char = '/' then some 63
  else none

/-- Decode the rest of the input, `position` characters into a group whose
last bits are `left`, after `pads` padding characters. -/
def decodeFrom (position left pads : Nat) : List Char → Option (List UInt8)
  | [] => if position = 0 then some [] else none
  | char :: rest =>
      if char = '=' then
        if position < 2 then decodeFrom position left pads rest
        else if 4 ≤ position + (pads + 1) then some []
        else decodeFrom position left (pads + 1) rest
      else
        match sextet char with
        | none => decodeFrom position left pads rest
        | some bits =>
            match position with
            | 0 => decodeFrom 1 bits 0 rest
            | 1 => do
                let bytes ← decodeFrom 2 (bits % 16) 0 rest
                return UInt8.ofNat (left * 4 + bits / 16) :: bytes
            | 2 => do
                let bytes ← decodeFrom 3 (bits % 4) 0 rest
                return UInt8.ofNat (left * 16 + bits / 4) :: bytes
            | _ => do
                let bytes ← decodeFrom 0 0 0 rest
                return UInt8.ofNat (left * 64 + bits) :: bytes

/-- Decode a text of ASCII characters. -/
def decode (text : String) : Option (List UInt8) :=
  if text.toList.all fun char => char.toNat < 128 then
    decodeFrom 0 0 0 text.toList
  else
    none

example : decode "a29p" = some [107, 111, 105] := by decide

example : decode "a2 8=" = some [107, 111] := by decide

/-- The character for six bits. -/
def digit (bits : Nat) : Char :=
  if bits < 26 then Char.ofNat (bits + 65)
  else if bits < 52 then Char.ofNat (bits + 71)
  else if bits < 62 then Char.ofNat (bits - 4)
  else if bits = 62 then '+'
  else '/'

def encodeChars : List UInt8 → List Char
  | [] => []
  | [first] =>
      [digit (first.toNat / 4), digit (first.toNat % 4 * 16), '=', '=']
  | [first, second] =>
      [digit (first.toNat / 4),
        digit (first.toNat % 4 * 16 + second.toNat / 16),
        digit (second.toNat % 16 * 4), '=']
  | first :: second :: third :: rest =>
      digit (first.toNat / 4) ::
        digit (first.toNat % 4 * 16 + second.toNat / 16) ::
        digit (second.toNat % 16 * 4 + third.toNat / 64) ::
        digit (third.toNat % 64) :: encodeChars rest

def encode (bytes : List UInt8) : String :=
  String.ofList (encodeChars bytes)

theorem sextet_digit {bits : Nat} (small : bits < 64) :
    sextet (digit bits) = some bits := by
  revert bits
  decide

theorem digit_ne_pad {bits : Nat} (small : bits < 64) : digit bits ≠ '=' := by
  revert bits
  decide

theorem digit_ascii {bits : Nat} (small : bits < 64) :
    (digit bits).toNat < 128 := by
  revert bits
  decide

section Digits

variable {bits : Nat} (small : bits < 64) (left pads : Nat) (rest : List Char)

include small

theorem decodeFrom_zero_digit :
    decodeFrom 0 left pads (digit bits :: rest) = decodeFrom 1 bits 0 rest := by
  conv => lhs; unfold decodeFrom
  rw [if_neg (digit_ne_pad small), sextet_digit small]
  rfl

theorem decodeFrom_one_digit :
    decodeFrom 1 left pads (digit bits :: rest) =
      (decodeFrom 2 (bits % 16) 0 rest).map
        (UInt8.ofNat (left * 4 + bits / 16) :: ·) := by
  conv => lhs; unfold decodeFrom
  rw [if_neg (digit_ne_pad small), sextet_digit small]
  dsimp only
  cases decodeFrom 2 (bits % 16) 0 rest <;> rfl

theorem decodeFrom_two_digit :
    decodeFrom 2 left pads (digit bits :: rest) =
      (decodeFrom 3 (bits % 4) 0 rest).map
        (UInt8.ofNat (left * 16 + bits / 4) :: ·) := by
  conv => lhs; unfold decodeFrom
  rw [if_neg (digit_ne_pad small), sextet_digit small]
  dsimp only
  cases decodeFrom 3 (bits % 4) 0 rest <;> rfl

theorem decodeFrom_three_digit :
    decodeFrom 3 left pads (digit bits :: rest) =
      (decodeFrom 0 0 0 rest).map (UInt8.ofNat (left * 64 + bits) :: ·) := by
  conv => lhs; unfold decodeFrom
  rw [if_neg (digit_ne_pad small), sextet_digit small]
  dsimp only
  cases decodeFrom 0 0 0 rest <;> rfl

end Digits

private theorem ofNat_of_toNat (byte : UInt8) {value : Nat}
    (same : value = byte.toNat) : UInt8.ofNat value = byte := by
  rw [same]
  exact UInt8.ofNat_toNat

theorem decodeFrom_encodeChars (bytes : List UInt8) :
    decodeFrom 0 0 0 (encodeChars bytes) = some bytes := by
  induction bytes using encodeChars.induct with
  | case1 => rfl
  | case2 first =>
      have bound := first.toNat_lt
      have padded (left : Nat) : decodeFrom 2 left 0 ['=', '='] = some [] :=
        rfl
      unfold encodeChars
      rw [decodeFrom_zero_digit (by omega), decodeFrom_one_digit (by omega),
        padded, Option.map_some, ofNat_of_toNat first (by omega)]
  | case3 first second =>
      have bound := first.toNat_lt
      have secondBound := second.toNat_lt
      have padded (left : Nat) : decodeFrom 3 left 0 ['='] = some [] := rfl
      unfold encodeChars
      rw [decodeFrom_zero_digit (by omega), decodeFrom_one_digit (by omega),
        decodeFrom_two_digit (by omega), padded, Option.map_some,
        Option.map_some, ofNat_of_toNat first (by omega),
        ofNat_of_toNat second (by omega)]
  | case4 first second third rest induction =>
      have bound := first.toNat_lt
      have secondBound := second.toNat_lt
      have thirdBound := third.toNat_lt
      unfold encodeChars
      rw [decodeFrom_zero_digit (by omega), decodeFrom_one_digit (by omega),
        decodeFrom_two_digit (by omega), decodeFrom_three_digit (by omega),
        induction, Option.map_some, Option.map_some, Option.map_some,
        ofNat_of_toNat first (by omega), ofNat_of_toNat second (by omega),
        ofNat_of_toNat third (by omega)]

theorem encodeChars_ascii (bytes : List UInt8) :
    ∀ char ∈ encodeChars bytes, char.toNat < 128 := by
  induction bytes using encodeChars.induct with
  | case1 =>
      intro char member
      cases member
  | case2 first =>
      have bound := first.toNat_lt
      unfold encodeChars
      simp only [List.forall_mem_cons]
      exact ⟨digit_ascii (by omega), digit_ascii (by omega), by decide,
        by decide, fun _ member => absurd member List.not_mem_nil⟩
  | case3 first second =>
      have bound := first.toNat_lt
      have secondBound := second.toNat_lt
      unfold encodeChars
      simp only [List.forall_mem_cons]
      exact ⟨digit_ascii (by omega), digit_ascii (by omega),
        digit_ascii (by omega), by decide,
        fun _ member => absurd member List.not_mem_nil⟩
  | case4 first second third rest induction =>
      have bound := first.toNat_lt
      have secondBound := second.toNat_lt
      have thirdBound := third.toNat_lt
      unfold encodeChars
      simp only [List.forall_mem_cons]
      exact ⟨digit_ascii (by omega), digit_ascii (by omega),
        digit_ascii (by omega), digit_ascii (by omega), induction⟩

theorem decode_encode (bytes : List UInt8) :
    decode (encode bytes) = some bytes := by
  unfold decode encode
  rw [String.toList_ofList, if_pos, decodeFrom_encodeChars]
  simpa using encodeChars_ascii bytes

end Base64

end Foundation
