import TypedManifest.Check.Diagnostic

/-!
# Checking a value against a type

Null suits every type. Any other value must have the form that the type wants: a scalar for an
atomic type, a mapping for a bean or a map, a sequence for a sequence. Only a scalar may stand under
a tag. The parts of a value are checked against the parts of the type, and what is found in a part
is reported under the step that leads to it.

In a mapping that is checked against a bean the entries come first, in their order, and then the
required properties that no key names, in the order in which the bean declares them. A key under a
tag leads to a property but does not name it.
-/

namespace TypedManifest.SchemaType

open Check Yaml

/-- Check the text of a scalar. -/
def checkText (σ : Store) (t : SchemaType) (text : String) : List Diagnostic :=
  match t.checkScalar σ text with
  | .ok accepted => (accepted.deprecation.map fun d => .here (.deprecated d)).toList
  | .error e => [.here (.refused e)]

/-- Report that a value does not have the form that a type wants. -/
def wrongShape (t : SchemaType) (v : Value) : List Diagnostic :=
  [.here (.wrongShape t.name v.shape)]

/-- Check a value that is neither a sequence nor a mapping. -/
def checkLeaf (σ : Store) (t : SchemaType) (v : Value) : List Diagnostic :=
  if v.isNull then []
  else match t, v.scalarText? with
    | .atomic .., some text => t.checkText σ text
    | _, _ => t.wrongShape v

/-- Report the required properties that no key names. -/
def checkPresence (bean : SchemaType) (entries : List (Value × Value)) : List Diagnostic :=
  (bean.requiredProperties.filter fun p => !Value.hasKey p.name entries).map fun p =>
    .here (.missingProperty p.name)

/-- The text of the key of a map, as a step; a key that is no scalar has the empty text. -/
def keyStep (key : Value) : Step := .key (key.scalarText?.getD "")

mutual

/-- Check a value. -/
def check (σ : Store) (t : SchemaType) : Value → List Diagnostic
  | .sequence items =>
    match t with
    | .sequence _ element => checkItems σ element 0 items
    | t => t.wrongShape (.sequence items)
  | .mapping entries =>
    match t with
    | .bean .. => checkProperties σ t entries ++ checkPresence t entries
    | .map _ key value => checkEntries σ key value entries
    | t => t.wrongShape (.mapping entries)
  | v => checkLeaf σ t v

/-- Check the items of a sequence, the first of which has number `i`. -/
def checkItems (σ : Store) (element : SchemaType) (i : Nat) : List Value → List Diagnostic
  | [] => []
  | v :: vs => (check σ element v).map (.under (.item i)) ++ checkItems σ element (i + 1) vs

/-- Check the entries of a mapping that is to be a bean. -/
def checkProperties (σ : Store) (bean : SchemaType) : List (Value × Value) → List Diagnostic
  | [] => []
  | (key, value) :: entries =>
    (match key.string? with
      | none => [Diagnostic.here .namelessProperty]
      | some name => List.map (Diagnostic.under (.key name)) (
          match bean.property? name with
          | none => [.here (.unknownProperty bean.name)]
          | some p =>
            if p.required && value.isNull then [.here (.noValue name)]
            else check σ p.type value))
      ++ checkProperties σ bean entries

/-- Check the entries of a mapping that is to be a map. The key is looked at before the value. -/
def checkEntries (σ : Store) (keyType valueType : SchemaType) :
    List (Value × Value) → List Diagnostic
  | [] => []
  | (key, value) :: entries =>
    (check σ keyType key ++ check σ valueType value).map (.under (keyStep key))
      ++ checkEntries σ keyType valueType entries

end

end TypedManifest.SchemaType
