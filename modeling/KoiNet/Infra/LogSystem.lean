import KoiNet.Foundation.Effect
import KoiNet.Protocol.Exceptions

/-!
# Logging

The log processors format the event with its positional arguments, by the `%`
operator, before anything is written.  An event without arguments is not
formatted.
-/

namespace KoiNet

open Foundation

/-- The `%` operator on a format and a tuple of strings.  Only `%s` and `%%`
are conversions here; the events of this repository contain no others. -/
def percentFormat : List Char → List String → Except Exc (List Char)
  | [], [] => .ok []
  -- not all arguments converted during string formatting
  | [], _ :: _ => .error .typeError
  | '%' :: '%' :: rest, args =>
      (percentFormat rest args).map fun text => '%' :: text
  | '%' :: 's' :: rest, arg :: args =>
      (percentFormat rest args).map fun text => arg.toList ++ text
  -- not enough arguments for format string
  | '%' :: 's' :: _, [] => .error .typeError
  | '%' :: _, _ => .error .valueError
  | char :: rest, args =>
      (percentFormat rest args).map fun text => char :: text

/-- `PositionalArgumentsFormatter` on the event and its arguments. -/
def positionalArgumentsFormatter (event : String) (args : List String) :
    Except Exc String :=
  if args.isEmpty then
    .ok event
  else
    (percentFormat event.toList args).map String.ofList

theorem percentFormat_of_not_mem {format : List Char} {args : List String}
    (plain : '%' ∉ format) (given : args ≠ []) :
    percentFormat format args = .error .typeError := by
  induction format with
  | nil =>
      cases args with
      | nil => exact absurd rfl given
      | cons arg args => rfl
  | cons char rest induction =>
      have different : char ≠ '%' := fun same => plain (by simp [same])
      have plainRest : '%' ∉ rest := fun member => plain (by simp [member])
      have step : percentFormat (char :: rest) args =
          (percentFormat rest args).map fun text => char :: text := by
        rw [percentFormat] <;> simp [different]
      rw [step, induction plainRest]
      rfl

/-- A call of the logger, whose text is written or dropped. -/
def logCall {σ : Type} (event : String) (args : List String) :
    Effect Exc σ Unit :=
  Effect.ofExcept
    ((positionalArgumentsFormatter event args).map fun _ => ())

@[simp] theorem logCall_run_nil {σ : Type} (event : String) (state : σ) :
    (logCall event []).run state = (.ok (), state) :=
  rfl

theorem logCall_run_of_not_mem {σ : Type} {event : String}
    {args : List String} (plain : '%' ∉ event.toList) (given : args ≠ [])
    (state : σ) :
    (logCall event args).run state = (.error .typeError, state) := by
  have notEmpty : args.isEmpty = false := by
    cases args with
    | nil => exact absurd rfl given
    | cons arg args => rfl
  unfold logCall positionalArgumentsFormatter
  rw [notEmpty, percentFormat_of_not_mem plain given]
  rfl

end KoiNet
