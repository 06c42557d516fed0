import TypedManifest.Scalar.Error
import TypedManifest.Text.Blank
import TypedManifest.Text.Digits

/-!
# Integers with a least value

The text, trimmed, is an integer literal of any length. What it denotes must be at least the least
value allowed and must fit a 64-bit integer. A literal too long for a 64-bit integer is still a
number, so it is refused for the end of the range that it passes, never for its form.
-/

namespace TypedManifest.Scalar

/-- The cause for a trimmed text that is no 64-bit integer literal. -/
def integerFault (min : Int) (text : List Char) : Cause :=
  match text with
  | '-' :: digits => if (Text.natural? digits).isSome then .belowMinimum min else .notAnInteger
  | '+' :: digits =>
    if (Text.natural? digits).isSome then .aboveMaximum Text.maxInt else .notAnInteger
  | digits => if (Text.natural? digits).isSome then .aboveMaximum Text.maxInt else .notAnInteger

/-- Read an integer of at least `min`. -/
def readInteger (min : Int) (raw : String) : Except Error Int :=
  let text := Text.trim raw.toList
  match Text.integerWithin? Text.minInt Text.maxInt text with
  | none => .error ⟨raw, integerFault min text⟩
  | some n => if n < min then .error ⟨raw, .belowMinimum min⟩ else .ok n

end TypedManifest.Scalar
