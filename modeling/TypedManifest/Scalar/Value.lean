import TypedManifest.Scalar.Memory
import TypedManifest.Scalar.Route

/-!
# What a scalar says

A parser that accepts a text turns it into a value of one of four kinds. Each value has a canonical
text, which a rule that is built in reads back to the same value.
-/

namespace TypedManifest.Scalar

/-- The value of an accepted text. -/
inductive Value where
  /-- The text itself. -/
  | text (s : String)
  /-- A whole number. -/
  | integer (n : Int)
  /-- An amount of memory. -/
  | memory (m : Memory)
  /-- A route. -/
  | route (r : Route)
  deriving DecidableEq, Repr

/-- The canonical text of a value. -/
def Value.render : Value → String
  | .text s => s
  | .integer n => toString n
  | .memory m => m.text
  | .route r => r.text

end TypedManifest.Scalar
