/-!
# Definitions that are refused

A type that contradicts itself cannot be built: a bean with two properties of one name, an enum
without members, or an enum with a deprecation that leads nowhere.
-/

namespace TypedManifest

/-- Why a type cannot be built. -/
inductive DefinitionError where
  /-- The bean has a property of this name already. -/
  | duplicateProperty (bean property : String)
  /-- The enum has no members. -/
  | emptyEnum (typeName : String)
  /-- A value is to be deprecated that is no member. -/
  | deprecatedNotMember (typeName value : String)
  /-- A value is to be replaced by one that is no member, or is deprecated itself. -/
  | invalidReplacement (typeName value replacement : String)
  deriving DecidableEq, Repr

/-- What is said of a definition that is refused. -/
def DefinitionError.message : DefinitionError → String
  | .duplicateProperty bean property =>
    s!"bean '{bean}' already has a property named '{property}'"
  | .emptyEnum typeName => s!"enum '{typeName}' has no members"
  | .deprecatedNotMember typeName value =>
    s!"enum '{typeName}' cannot deprecate '{value}': not a member"
  | .invalidReplacement typeName value replacement =>
    s!"enum '{typeName}' cannot replace '{value}' with '{replacement}': " ++
      "replacement must be a non-deprecated member"

end TypedManifest
