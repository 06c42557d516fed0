import TypedManifest.Schema.Type

/-!
# Building types

Types are built from the leaves up. An atomic type is *refined* step by step: hints and sources are
added after those it has, and a parser takes the place of the one before. A bean is *extended* by
one property at a time, which is refused when the name is taken and leaves the bean as it was.
-/

namespace TypedManifest

/-- Add hints and sources to an atomic type, and replace its parser if one is given. -/
def Atomic.refine (a : Atomic) (hints : List Hint) (sources : List Source)
    (parser : Option Scalar.Parser) : Atomic :=
  { a with
    hints := a.hints ++ hints
    sources := a.sources ++ sources
    parser := parser <|> a.parser }

/-- An enum type, which accepts exactly its members. -/
def Atomic.ofEnumeration (name : String) (e : Enumeration) : Atomic where
  name := name
  parser := some (.oneOf name e.members)
  enumeration := some e

/-- An enum type with the given members and deprecations. -/
def Atomic.enum (name : String) (members : List String) (deprecations : List (String × String)) :
    Except DefinitionError Atomic :=
  (Enumeration.build name members deprecations).map (Atomic.ofEnumeration name)

/-- A bean under construction. -/
structure Bean where
  /-- The name that is shown. -/
  name : String
  /-- The properties so far, each in a row under its name, in the order in which they were added. -/
  rows : List (String × Property) := []

namespace Bean

/-- The properties, in the order in which they were added. -/
def properties (b : Bean) : List Property := b.rows.map Prod.snd

/-- The property under a given name. -/
def property? (b : Bean) (name : String) : Option Property := b.rows.lookup name

/-- The properties that a mapping must hold. -/
def requiredProperties (b : Bean) : List Property := b.properties.filter (·.required)

/-- How many properties there are. -/
def size (b : Bean) : Nat := b.rows.length

/-- Add a property after those already there, unless its name is taken; and the bean after that. -/
def extend (b : Bean) (p : Property) : Except DefinitionError Unit × Bean :=
  if (b.property? p.name).isSome then (.error (.duplicateProperty b.name p.name), b)
  else (.ok (), { b with rows := b.rows ++ [(p.name, p)] })

/-- The type that the bean is. -/
def freeze (b : Bean) (node : Nat) : SchemaType := .bean node b.name b.properties

end Bean

end TypedManifest
