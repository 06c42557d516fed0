import TypedManifest.Schema.Type
import TypedManifest.Text.Cut

/-!
# The outline of a schema

The outline lists the properties of a schema, one to a line. The properties of the top come first; a
property whose type is a bean, or a sequence or map with a bean directly below it, is followed by
the properties of that bean, one level deeper. For an enum type a second line lists the members.
-/

namespace TypedManifest

/-- A property in an outline. -/
structure OutlineEntry where
  /-- How many beans there are around the property. -/
  depth : Nat
  /-- The name of the property. -/
  name : String
  /-- The name of its type. -/
  typeName : String
  /-- Whether it is required. -/
  required : Bool
  /-- The members of an enum type, each with the value to use instead if it is deprecated. -/
  members : List (String × Option String)
  deriving DecidableEq, Repr

mutual

/-- The entries for the bean that is the type, or that is directly below it. -/
def SchemaType.outline (depth : Nat) : SchemaType → List OutlineEntry
  | .bean _ _ ps => outlineOf depth ps
  | .sequence _ (.bean _ _ ps) => outlineOf depth ps
  | .map _ _ (.bean _ _ ps) => outlineOf depth ps
  | _ => []

/-- The entries for properties, each followed by those below it. -/
def outlineOf (depth : Nat) : List Property → List OutlineEntry
  | [] => []
  | .mk name type required _ :: rest =>
    ⟨depth, name, type.name, required, type.enumEntries⟩ ::
      (type.outline (depth + 1) ++ outlineOf depth rest)

end

namespace OutlineEntry

/-- A member of an enum type in words. -/
def memberText : String × Option String → String
  | (value, some replacement) => s!"{value} (deprecated, use {replacement})"
  | (value, none) => value

/-- The lines that show an entry. -/
def lines (e : OutlineEntry) : List String :=
  let indent := String.ofList (List.replicate (2 * e.depth) ' ')
  let mark := if e.required then " (required)" else ""
  s!"{indent}{e.name}: {e.typeName}{mark}" ::
    if e.members = [] then []
    else [s!"{indent}  values: {Text.commaSeparated (e.members.map memberText)}"]

end OutlineEntry

/-- The entries of the outline of a schema. Only a bean at the top has any. -/
def Schema.outline (S : Schema) : List OutlineEntry := outlineOf 1 S.root.properties

/-- The lines of the outline: the name of the type of documents, and then the entries. -/
def Schema.outlineLines (S : Schema) : List String :=
  S.root.name :: S.outline.flatMap OutlineEntry.lines

/-- The text of the outline. Every line ends in a line feed. -/
def Schema.outlineText (S : Schema) : String := String.join (S.outlineLines.map (· ++ "\n"))

end TypedManifest
