import TypedManifest.Description
import TypedManifest.DocumentRange
import TypedManifest.Scalar.Parser
import TypedManifest.Schema.Enumeration

/-!
# Types of documents

A type is a node of a graph without cycles: an *atomic* type for scalars, a *bean* with named
properties, a *sequence* of elements of one type, or a *map* from keys of one type to values of
another. A node may be reached in several ways, since a property or a node can be used in several
places. The graph is written as the tree it unfolds to, and each node carries a number that tells it
from all others: two places hold the same node exactly when they carry the same number.

The number has no bearing on what the node means. It is looked at only by a search that wants to
visit each node once.
-/

namespace TypedManifest

/-- What an atomic type says of its scalars. -/
structure Atomic where
  /-- The name that is shown. -/
  name : String
  /-- The rule for the texts of the type; without one, every text is accepted. -/
  parser : Option Scalar.Parser := none
  /-- Sources of hints. -/
  sources : List Source := []
  /-- Hints that are always offered. -/
  hints : List Hint := []
  /-- The values of an enum type. -/
  enumeration : Option Enumeration := none

mutual

/-- A type of documents. -/
inductive SchemaType where
  /-- Scalars. -/
  | atomic (node : Nat) (a : Atomic)
  /-- Mappings with the given properties, whose names differ. -/
  | bean (node : Nat) (name : String) (properties : List Property)
  /-- Sequences of the given element. -/
  | sequence (node : Nat) (element : SchemaType)
  /-- Mappings from the given key to the given value. -/
  | map (node : Nat) (key value : SchemaType)

/-- A property of a bean: its name, the type of its value, whether it is required, and where its
description is found. -/
inductive Property where
  /-- A property. -/
  | mk (name : String) (type : SchemaType) (required : Bool) (described : Option DescriptionRef)

end

instance : Inhabited SchemaType := ⟨.atomic 0 { name := "" }⟩

namespace Property

/-- The name. -/
def name : Property → String
  | mk n _ _ _ => n

/-- The type of the value. -/
def type : Property → SchemaType
  | mk _ t _ _ => t

/-- Whether a mapping must hold the property. -/
def required : Property → Bool
  | mk _ _ r _ => r

/-- Where the description is found. -/
def described : Property → Option DescriptionRef
  | mk _ _ _ d => d

/-- The description. -/
def description (folders : Folders) (p : Property) : Description × List LogEntry :=
  match p.described with
  | some d => d.resolve folders
  | none => (.none, [])

end Property

/-- The kind of a type, as it is reported. -/
inductive TypeKind where
  /-- A scalar type without an enumeration. -/
  | atomic
  /-- A scalar type with an enumeration. -/
  | enum
  /-- A bean. -/
  | bean
  /-- A sequence. -/
  | sequence
  /-- A map. -/
  | map
  deriving DecidableEq, Repr

/-- The name of a kind. -/
def TypeKind.name : TypeKind → String
  | atomic => "atomic"
  | enum => "enum"
  | bean => "bean"
  | sequence => "sequence"
  | map => "map"

namespace SchemaType

/-- The number of the node. -/
def node : SchemaType → Nat
  | atomic n _ => n
  | bean n _ _ => n
  | sequence n _ => n
  | map n _ _ => n

/-- The name that is shown. The name of a sequence or a map is made of the names of its parts. -/
def name : SchemaType → String
  | atomic _ a => a.name
  | bean _ n _ => n
  | sequence _ e => e.name ++ "[]"
  | map _ k v => "Map<" ++ k.name ++ ", " ++ v.name ++ ">"

/-- The kind. -/
def kind : SchemaType → TypeKind
  | atomic _ a => if a.enumeration.isSome then .enum else .atomic
  | bean .. => .bean
  | sequence .. => .sequence
  | map .. => .map

/-- The properties of a bean, in the order in which they were declared; no other type has any. -/
def properties : SchemaType → List Property
  | bean _ _ ps => ps
  | _ => []

/-- The property of a given name. -/
def property? (t : SchemaType) (name : String) : Option Property :=
  t.properties.find? (·.name = name)

/-- The properties that a mapping must hold. -/
def requiredProperties (t : SchemaType) : List Property := t.properties.filter (·.required)

/-- The description of a property; there is none for a property that does not exist. -/
def describe (folders : Folders) (t : SchemaType) (property : String) :
    Description × List LogEntry :=
  match t.property? property with
  | some p => p.description folders
  | none => (.none, [])

/-- The type of the items of a sequence or of the values of a map. -/
def domain? : SchemaType → Option SchemaType
  | sequence _ e => some e
  | map _ _ v => some v
  | _ => none

/-- The type of the keys of a map. -/
def key? : SchemaType → Option SchemaType
  | map _ k _ => some k
  | _ => none

/-- The enumeration of an enum type. -/
def enumeration? : SchemaType → Option Enumeration
  | atomic _ a => a.enumeration
  | _ => none

/-- The members of an enum type, each with the value to use instead if it is deprecated. -/
def enumEntries (t : SchemaType) : List (String × Option String) :=
  (t.enumeration?.map Enumeration.entries).getD []

/-- A member of an enum type. -/
def isMember (t : SchemaType) (value : String) : Bool :=
  t.enumeration?.any (·.members.contains value)

/-- The value to use instead of a deprecated member of an enum type. -/
def replacement? (t : SchemaType) (value : String) : Option String :=
  t.enumeration?.bind (·.replacement? value)

/-- The types directly below a type, in the order in which they were declared. -/
def children : SchemaType → List SchemaType
  | atomic .. => []
  | bean _ _ ps => ps.map Property.type
  | sequence _ e => [e]
  | map _ k v => [k, v]

end SchemaType

/-- A schema: the type of each document of a stream, and how many documents there may be. -/
structure Schema where
  /-- The type of each document. -/
  root : SchemaType
  /-- How many documents there may be. -/
  documents : DocumentRange

end TypedManifest
