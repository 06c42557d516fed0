import TypedManifest.Schema.Search

/-!
# Hints for a type

What is offered for an atomic type is merged from three origins, in this order: the members of its
enumeration that are not deprecated, its own hints, and the hints of its sources in the order in
which they were attached. A source that fails contributes nothing. Of several hints for one value
the first is kept. Nothing is offered for any other type.
-/

namespace TypedManifest

namespace SchemaType

/-- The hints of a type that are there without asking a source. -/
def ownHints (a : Atomic) : List Hint :=
  ((a.enumeration.map Enumeration.live).getD []).map ({ value := · }) ++ a.hints

/-- The hints for a type. Its sources are asked, so the store changes. -/
def hintsFor (σ : Store) (t : SchemaType) : (List Hint × List LogEntry) × Store :=
  match t with
  | .atomic _ a =>
    let ((hints, log), σ') := σ.hintsOfAll a.sources
    ((Hint.firsts (ownHints a ++ hints), log), σ')
  | _ => (([], []), σ)

end SchemaType

/-- The hints for the type of a given name, if the schema has one. -/
def Schema.hintsFor? (S : Schema) (σ : Store) (name : String) :
    Option ((List Hint × List LogEntry) × Store) :=
  (S.root.find? name).map (·.hintsFor σ)

end TypedManifest
