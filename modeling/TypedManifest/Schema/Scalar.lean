import TypedManifest.Schema.Type

/-!
# Checking a scalar against a type

A scalar fits an atomic type when the parser of the type accepts its text; a type without a parser
accepts every text. A text that fits may still be deprecated, which is reported with the text to use
instead. No scalar fits a bean, a sequence or a map.
-/

namespace TypedManifest

/-- A deprecated value, and the value to use instead. -/
structure Deprecation where
  /-- The deprecated value. -/
  value : String
  /-- The value to use instead. -/
  replacement : String
  deriving DecidableEq, Repr

/-- What is said of a deprecated value. -/
def Deprecation.message (d : Deprecation) : String :=
  s!"'{d.value}' is deprecated; use '{d.replacement}' instead"

/-- A scalar that fits. -/
structure AcceptedScalar where
  /-- What it says. -/
  value : Scalar.Value
  /-- Whether it is deprecated, and by what. -/
  deprecation : Option Deprecation
  deriving DecidableEq, Repr

namespace SchemaType

/-- Whether a value of an enum type is deprecated, and by what. -/
def deprecation? (t : SchemaType) (value : String) : Option Deprecation :=
  (t.replacement? value).map (⟨value, ·⟩)

/-- Check the text of a scalar against a type. -/
def checkScalar (σ : Store) (t : SchemaType) (raw : String) : Except Scalar.Error AcceptedScalar :=
  match t with
  | .atomic _ a =>
    match a.parser with
    | some p => (p.parse σ raw).map (⟨·, t.deprecation? raw⟩)
    | none => .ok ⟨.text raw, t.deprecation? raw⟩
  | _ => .error ⟨raw, .notAScalar t.name⟩

end SchemaType

end TypedManifest
