import TypedManifest.Schema.Error

/-!
# Enumerations

An enumeration lists the values of a type, and may deprecate some of them in favour of others. The
replacements form a table with one row per deprecated value: a value that is deprecated twice keeps
the place of the first time and the replacement of the last. An enumeration is *sound* when it has a
member, when every deprecated value is a member, and when every replacement is a member that is not
deprecated itself; only sound enumerations are built.
-/

namespace TypedManifest

/-- The values of an enum type. -/
structure Enumeration where
  /-- The values, in the order in which they were declared. -/
  members : List String
  /-- The deprecated values, each with the value to use instead. -/
  replacements : List (String × String)
  deriving DecidableEq, Repr

namespace Enumeration

/-- Set the replacement of a value in a table: in the row of that value if there is one, and in a
new last row otherwise. -/
def setReplacement (value replacement : String) : List (String × String) → List (String × String)
  | [] => [(value, replacement)]
  | (v, r) :: rows =>
    if v = value then (value, replacement) :: rows
    else (v, r) :: setReplacement value replacement rows

/-- The table that a sequence of deprecations leads to. -/
def table (deprecations : List (String × String)) : List (String × String) :=
  deprecations.foldl (fun rows (value, replacement) => setReplacement value replacement rows) []

/-- What is wrong with a row of a table, if anything. -/
def rowFault? (typeName : String) (members : List String) (rows : List (String × String))
    (row : String × String) : Option DefinitionError :=
  if row.1 ∉ members then some (.deprecatedNotMember typeName row.1)
  else if row.2 ∉ members ∨ row.2 ∈ rows.map Prod.fst then
    some (.invalidReplacement typeName row.1 row.2)
  else none

/-- Build the enumeration of a type from its members and its table of replacements. The first fault
of the table is reported. -/
def ofTable (typeName : String) (members : List String) (rows : List (String × String)) :
    Except DefinitionError Enumeration :=
  if members = [] then .error (.emptyEnum typeName)
  else match rows.findSome? (rowFault? typeName members rows) with
    | some e => .error e
    | none => .ok ⟨members, rows⟩

/-- Build the enumeration of a type from its members and a sequence of deprecations. -/
def build (typeName : String) (members : List String) (deprecations : List (String × String)) :
    Except DefinitionError Enumeration :=
  ofTable typeName members (table deprecations)

/-- The value to use instead of a deprecated one. -/
def replacement? (e : Enumeration) (value : String) : Option String := e.replacements.lookup value

/-- The members, each with the value to use instead if it is deprecated. -/
def entries (e : Enumeration) : List (String × Option String) :=
  e.members.map fun m => (m, e.replacement? m)

/-- The members that are not deprecated. -/
def live (e : Enumeration) : List String := e.members.filter fun m => (e.replacement? m).isNone

end Enumeration

end TypedManifest
