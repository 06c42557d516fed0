import TypedManifest.Text.Cut

/-!
# Why a text is refused

A parser of scalars that refuses a text says why. The causes tell a text that is no number from a
number that is out of range, and a text that is missing from one that is unknown; each carries what
its wording needs. The refused text is kept exactly as it was given.
-/

namespace TypedManifest.Scalar

/-- The cause of a refusal. -/
inductive Cause where
  /-- Nothing, or nothing but blanks. -/
  | empty
  /-- No integer literal. -/
  | notAnInteger
  /-- A number below the least one allowed. -/
  | belowMinimum (min : Int)
  /-- A number above the greatest one allowed. -/
  | aboveMaximum (max : Int)
  /-- No number before the unit. -/
  | notANumber
  /-- A number without a unit, and the units that there are. -/
  | missingUnit (valid : String)
  /-- A number with a unit that does not exist, and the units that there are. -/
  | unknownUnit (unit valid : String)
  /-- A value outside the set of a type. -/
  | unknownValue (typeName : String) (known : List String)
  /-- A scalar where a type wants something else. -/
  | notAScalar (typeName : String)
  /-- A route that cannot be taken apart. -/
  | malformedRoute (reason : String)
  deriving DecidableEq, Repr

/-- A refusal: the text as it was given, and the cause. -/
structure Error where
  /-- The text as it was given. -/
  raw : String
  /-- Why it is refused. -/
  cause : Cause
  deriving DecidableEq, Repr

/-- The cause in words. -/
def Cause.phrase : Cause → String
  | .empty => "value must not be empty"
  | .notAnInteger => "not an integer"
  | .belowMinimum min => s!"must be at least {min}"
  | .aboveMaximum max => s!"must be at most {max}"
  | .notANumber => "not a number"
  | .missingUnit valid => s!"missing unit; valid units are {valid}"
  | .unknownUnit unit valid => s!"'{unit}' is not a recognized unit; valid units are {valid}"
  | .unknownValue typeName known =>
    s!"unknown {typeName}; valid values are: {Text.commaSeparated known}"
  | .notAScalar typeName => s!"expected {typeName}, found a scalar"
  | .malformedRoute reason => s!"malformed route: {reason}"

/-- What is said of a refusal: the cause, and the text it is about. -/
def Error.message (e : Error) : String := s!"{e.cause.phrase} (value: '{e.raw}')"

end TypedManifest.Scalar
