import TypedManifest.Yaml.Anchor
import TypedManifest.Yaml.Document
import TypedManifest.Yaml.Equality
import TypedManifest.Yaml.Scalar

/-!
# Reading the values of a stream

A document is read into a value by giving every node its meaning and following the aliases. Three
things make a document invalid at this stage: collections nested more than 128 deep, more aliases
followed than the size of the document allows, and a mapping with two equal keys.

`Value.readStream` reads all documents of a text. A text that holds no document is read as one null.
-/

namespace TypedManifest.Yaml

/-- How deep collections may be nested. -/
def maxDepth : Nat := 128

/-- A value under the tag of a collection, if it is the author's own. -/
def underTag (tag : Option Tag) (v : Value) : Value :=
  match tag.bind Tag.own? with
  | some own => .tagged own v
  | none => v

/-- A fault if one of the keys of a list occurs again. -/
def refuseEqualKeys : List (Value × Value) → Except Fault Unit
  | [] => .ok ()
  | (key, _) :: entries =>
    if entries.any fun (k, _) => key.sameKey k then .error .duplicateKey
    else refuseEqualKeys entries

/-- The value of a node, in which collections may be nested to a given depth. -/
def Node.value (d : Node.Linked) : Nat → Node Nat → StateT Nat (Except Fault) Value
  | depth, node => do
    match ← d.meant node, depth with
    | .alias _, _ => throw .unknownAnchor
    | .scalar _ tag text style, _ => scalarValue tag text style
    | .sequence .., 0 => throw .tooDeep
    | .mapping .., 0 => throw .tooDeep
    | .sequence _ tag items, depth + 1 => do
      let values ← items.mapM (Node.value d depth)
      return underTag tag (.sequence values)
    | .mapping _ tag entries, depth + 1 => do
      let values ← entries.mapM fun (key, value) => do
        return (← Node.value d depth key, ← Node.value d depth value)
      refuseEqualKeys values
      return underTag tag (.mapping values)

/-- The value of a document. -/
def Value.ofNode (root : Node String) : Except Fault Value := do
  let d ← Node.Linked.of root
  (Node.value d maxDepth d.root).run' d.maxAliases

/-- The values of all documents of a text. -/
def Value.readStream (text : String) : Except Fault (List Value) := do
  match ← Node.ofString text with
  | [] => return [.null]
  | documents => documents.mapM Value.ofNode

end TypedManifest.Yaml
