import TypedManifest.Json.Value
import TypedManifest.Schema.Type

/-!
# A schema as JSON

The whole tree of types is written out: every node with its name and its kind, and with its members,
its properties or the types below it. A node that is reached in several ways is written each time.
The description of a property is looked up, and written if there is one; a failure to look it up is
put on record. The members of every object are in alphabetical order.
-/

namespace TypedManifest

/-- A member of an enum type as JSON. -/
def memberJson : String × Option String → Json
  | (value, replacement) => .object (
    Json.optional "replacement" (replacement.map .string) ++ [("value", .string value)])

mutual

/-- A type as JSON. -/
def SchemaType.json (folders : Folders) : SchemaType → Json
  | .atomic n a =>
    let t := SchemaType.atomic n a
    .object (
      [("kind", .string t.kind.name)]
        ++ (if t.enumEntries = [] then [] else [("members", .array (t.enumEntries.map memberJson))])
        ++ [("name", .string a.name)])
  | .bean _ name ps => .object [
    ("kind", .string TypeKind.bean.name),
    ("name", .string name),
    ("properties", .array (propertiesJson folders ps))]
  | .sequence n e => .object [
    ("element", e.json folders),
    ("kind", .string TypeKind.sequence.name),
    ("name", .string (SchemaType.sequence n e).name)]
  | .map n k v => .object [
    ("key", k.json folders),
    ("kind", .string TypeKind.map.name),
    ("name", .string (SchemaType.map n k v).name),
    ("value", v.json folders)]

/-- Properties as JSON. -/
def propertiesJson (folders : Folders) : List Property → List Json
  | [] => []
  | .mk name type required described :: rest =>
    let text := ((Property.mk name type required described).description folders).1.text?
    .object (
      Json.optional "description" (text.map .string) ++ [
        ("name", .string name),
        ("required", .bool required),
        ("type", type.json folders)])
      :: propertiesJson folders rest

end

mutual

/-- What is put on record while a type is written as JSON. -/
def SchemaType.jsonLog (folders : Folders) : SchemaType → List LogEntry
  | .atomic .. => []
  | .bean _ _ ps => propertiesLog folders ps
  | .sequence _ e => e.jsonLog folders
  | .map _ k v => k.jsonLog folders ++ v.jsonLog folders

/-- What is put on record while properties are written as JSON: for each what lies below it, and
then its own description. -/
def propertiesLog (folders : Folders) : List Property → List LogEntry
  | [] => []
  | .mk name type required described :: rest =>
    type.jsonLog folders ++ ((Property.mk name type required described).description folders).2
      ++ propertiesLog folders rest

end

/-- A schema as JSON. -/
def Schema.json (folders : Folders) (S : Schema) : Json :=
  .object [("documents", .string S.documents.phrase), ("root", S.root.json folders)]

/-- What is put on record while a schema is written as JSON. -/
def Schema.jsonLog (folders : Folders) (S : Schema) : List LogEntry := S.root.jsonLog folders

end TypedManifest
