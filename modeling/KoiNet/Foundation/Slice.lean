import Mathlib.Data.List.TakeDrop

/-!
# Slices with integer bounds

A negative bound counts from the end of the list.  Whatever the bound, the two
slices it separates make up the list.
-/

namespace Foundation

namespace Slice

variable {α : Type}

/-- The position a bound stands for. -/
def position (items : List α) (bound : Int) : Nat :=
  if 0 ≤ bound then bound.toNat else items.length - (-bound).toNat

/-- `items[:bound]`. -/
def upTo (items : List α) (bound : Int) : List α :=
  items.take (position items bound)

/-- `items[bound:]`. -/
def beyond (items : List α) (bound : Int) : List α :=
  items.drop (position items bound)

theorem upTo_append_beyond (items : List α) (bound : Int) :
    upTo items bound ++ beyond items bound = items :=
  List.take_append_drop _ items

end Slice

end Foundation
