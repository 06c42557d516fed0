import TypedManifest.Yaml.Node

/-!
# Anchors and aliases

Within a document every anchor takes a slot, and every alias refers to the slot of its name. A new
name takes the next free slot. A name that is used again takes the slot whose number is the count of
names so far, which is free at that moment; the next new name takes it over. When the document is
complete each slot belongs to the node that took it last, and that is where its aliases lead,
wherever they stand.

`link` replaces names by slots, and `anchored` lists the nodes by slot.
-/

namespace TypedManifest.Yaml.Node

/-- The names in use, each with its slot. -/
abbrev Slots := List (String × Nat)

/-- Give a name a slot, in place of the one that it has. -/
def setSlot (name : String) (slot : Nat) : Slots → Slots
  | [] => [(name, slot)]
  | (n, s) :: rest => if n = name then (name, slot) :: rest else (n, s) :: setSlot name slot rest

/-- Take a slot for the name of an anchor, if there is one. -/
def takeSlot (anchor : Option String) (slots : Slots) : Option Nat × Slots :=
  match anchor with
  | none => (none, slots)
  | some name => (some slots.length, setSlot name slots.length slots)

mutual

/-- Replace names by slots. The slots in use are handed on in the order of writing. -/
def link (slots : Slots) : Node String → Except Fault (Node Nat × Slots)
  | .alias name =>
    match slots.lookup name with
    | some slot => .ok (.alias slot, slots)
    | none => .error .unknownAnchor
  | .scalar anchor tag text style =>
    let (slot, slots) := takeSlot anchor slots
    .ok (.scalar slot tag text style, slots)
  | .sequence anchor tag items => do
    let (slot, slots) := takeSlot anchor slots
    let (items, slots) ← linkItems slots items
    return (.sequence slot tag items, slots)
  | .mapping anchor tag entries => do
    let (slot, slots) := takeSlot anchor slots
    let (entries, slots) ← linkEntries slots entries
    return (.mapping slot tag entries, slots)

/-- Replace names by slots in the items of a sequence. -/
def linkItems (slots : Slots) : List (Node String) → Except Fault (List (Node Nat) × Slots)
  | [] => .ok ([], slots)
  | item :: items => do
    let (item, slots) ← link slots item
    let (items, slots) ← linkItems slots items
    return (item :: items, slots)

/-- Replace names by slots in the entries of a mapping. -/
def linkEntries (slots : Slots) :
    List (Node String × Node String) → Except Fault (List (Node Nat × Node Nat) × Slots)
  | [] => .ok ([], slots)
  | (key, value) :: entries => do
    let (key, slots) ← link slots key
    let (value, slots) ← link slots value
    let (entries, slots) ← linkEntries slots entries
    return ((key, value) :: entries, slots)

end

/-- A node under its slot, if it has one. -/
def inSlot (slot : Option Nat) (node : Node Nat) : List (Nat × Node Nat) :=
  (slot.map (·, node)).toList

mutual

/-- The nodes with slots, in the order in which they begin. -/
def anchored : Node Nat → List (Nat × Node Nat)
  | .alias _ => []
  | .scalar slot tag text style => inSlot slot (.scalar slot tag text style)
  | .sequence slot tag items => inSlot slot (.sequence slot tag items) ++ anchoredItems items
  | .mapping slot tag entries => inSlot slot (.mapping slot tag entries) ++ anchoredEntries entries

/-- The nodes with slots among items. -/
def anchoredItems : List (Node Nat) → List (Nat × Node Nat)
  | [] => []
  | item :: items => anchored item ++ anchoredItems items

/-- The nodes with slots among entries. -/
def anchoredEntries : List (Node Nat × Node Nat) → List (Nat × Node Nat)
  | [] => []
  | (key, value) :: entries => anchored key ++ anchored value ++ anchoredEntries entries

end

mutual

/-- How many things a node is written with: one for an alias or a scalar, two for the ends of a
collection. -/
def weight : Node Nat → Nat
  | .alias _ => 1
  | .scalar .. => 1
  | .sequence _ _ items => weightOfItems items + 2
  | .mapping _ _ entries => weightOfEntries entries + 2

/-- The weight of items. -/
def weightOfItems : List (Node Nat) → Nat
  | [] => 0
  | item :: items => weight item + weightOfItems items

/-- The weight of entries. -/
def weightOfEntries : List (Node Nat × Node Nat) → Nat
  | [] => 0
  | (key, value) :: entries => weight key + weight value + weightOfEntries entries

end

/-- A document with its aliases resolved to slots. -/
structure Linked where
  /-- The whole document. -/
  root : Node Nat
  /-- The node of each slot; the last one for a slot counts. -/
  slots : List (Nat × Node Nat)

/-- Resolve the aliases of a document. -/
def Linked.of (root : Node String) : Except Fault Linked := do
  let (root, _) ← link [] root
  return ⟨root, root.anchored⟩

/-- The node that a slot belongs to. -/
def Linked.node? (d : Linked) (slot : Nat) : Option (Node Nat) := d.slots.reverse.lookup slot

/-- How many aliases may be followed for each thing that a document is written with. -/
def aliasesPerThing : Nat := 100

/-- How many aliases may be followed in a document. -/
def Linked.maxAliases (d : Linked) : Nat := d.root.weight * aliasesPerThing

/-- The node that is meant by a node: for an alias, the node that its slot belongs to. The number of
aliases that may still be followed is counted down. -/
def Linked.meant (d : Linked) : Node Nat → StateT Nat (Except Fault) (Node Nat)
  | .alias slot => do
    match ← get, d.node? slot with
    | left + 1, some node => do
      set left
      return node
    | _, _ => throw .tooMany
  | node => return node

end TypedManifest.Yaml.Node
