import Mathlib.Data.List.Basic

/-!
# Codecs

A codec encodes values and decodes what it may have encoded.  Which values
survive the round trip is a property of the single value, so that a codec may
be partial in either direction.
-/

namespace Foundation

/-- Values of `α` written as `β`. -/
structure Codec (α β : Type) where
  encode : α → β
  decode : β → Option α

namespace Codec

variable {α β γ : Type}

/-- The value decodes from its encoding. -/
def Faithful (codec : Codec α β) (value : α) : Prop :=
  codec.decode (codec.encode value) = some value

/-- Write with `first`, and what it wrote with `second`. -/
def comp (first : Codec α β) (second : Codec β γ) : Codec α γ :=
  { encode := fun value => second.encode (first.encode value)
    decode := fun encoded => second.decode encoded >>= first.decode }

theorem Faithful.comp {first : Codec α β} {second : Codec β γ} {value : α}
    (outer : second.Faithful (first.encode value))
    (inner : first.Faithful value) :
    (first.comp second).Faithful value := by
  change (second.decode (second.encode (first.encode value))).bind
    first.decode = some value
  rw [outer]
  exact inner

/-- A list is written item by item. -/
def list (codec : Codec α β) : Codec (List α) (List β) :=
  { encode := List.map codec.encode
    decode := List.mapM codec.decode }

theorem Faithful.list {codec : Codec α β} {values : List α}
    (items : ∀ value ∈ values, codec.Faithful value) :
    codec.list.Faithful values := by
  induction values with
  | nil => rfl
  | cons value values induction =>
      have rest := induction fun other member =>
        items other (List.mem_cons_of_mem value member)
      have head := items value List.mem_cons_self
      change List.mapM codec.decode (values.map codec.encode) =
        some values at rest
      change List.mapM codec.decode
        (codec.encode value :: values.map codec.encode) = some (value :: values)
      rw [List.mapM_cons, rest, head]
      rfl

end Codec

end Foundation
