import TypedManifest.Yaml.Token

/-!
# Nodes of YAML

The tokens of a document form a tree of nodes: scalars, sequences and mappings, each perhaps with an
anchor and a tag, and aliases. Where a node may be left out and is, an empty plain scalar stands for
it.

The tree is read by recursive descent, one function for each kind of collection. Every function
takes tokens off the front of the list and says so in its type, which is why the descent ends.
-/

namespace TypedManifest.Yaml

/-- A node. Anchors go by names of type `ρ`. -/
inductive Node (ρ : Type) where
  /-- A reference to the node with an anchor. -/
  | alias (target : ρ)
  /-- A scalar. -/
  | scalar (anchor : Option ρ) (tag : Option Tag) (text : String) (style : ScalarStyle)
  /-- A sequence. -/
  | sequence (anchor : Option ρ) (tag : Option Tag) (items : List (Node ρ))
  /-- A mapping. -/
  | mapping (anchor : Option ρ) (tag : Option Tag) (entries : List (Node ρ × Node ρ))

namespace Node

/-- The node that stands where none is written. -/
def absent : Node String := .scalar none none "" .plain

/-- What may stand before a node. -/
structure Properties where
  /-- The anchor. -/
  anchor : Option String := none
  /-- The tag, its handle resolved. -/
  tag : Option Tag := none

/-- The meanings of the handles of tags. -/
abbrev Handles := List (String × Tag)

/-- The handles that always have a meaning. -/
def defaultHandles : Handles := [("!", .lone), ("!!", .coreBeginning)]

/-- The tag that a handle and a suffix make up. -/
def resolveTag (handles : Handles) (handle : String) (suffix : Tag) : Except Fault (Option Tag) :=
  if handle = "" then .ok (some suffix)
  else match handles.lookup handle with
    | some meaning => .ok (some (meaning ++ suffix))
    | none => .error (.structure "a tag with an undefined handle")

/-- The tokens left after some have been taken off. -/
abbrev Fewer (ts : List Token) := { rest : List Token // rest.length < ts.length }

/-- The tokens left after some, or none, have been taken off. -/
abbrev AtMost (ts : List Token) := { rest : List Token // rest.length ≤ ts.length }

/-- What a token has to be for a collection to go on without a node: the beginning of the next item,
key or value, or the end. -/
def endsEntry : Token → Bool
  | .blockEntry | .blockEnd => true
  | _ => false

/-- As `endsEntry`, for a sequence that is not indented. -/
def endsLooseEntry : Token → Bool
  | .blockEntry | .key | .value | .blockEnd => true
  | _ => false

/-- As `endsEntry`, for a mapping. -/
def endsMember : Token → Bool
  | .key | .value | .blockEnd => true
  | _ => false

/-- As `endsEntry`, for a sequence in brackets. -/
def endsFlowItem : Token → Bool
  | .flowEntry | .flowSequenceEnd => true
  | _ => false

/-- As `endsEntry`, for a key in braces. -/
def endsFlowKey : Token → Bool
  | .value | .flowEntry | .flowMappingEnd => true
  | _ => false

/-- As `endsEntry`, for a value in braces. -/
def endsFlowValue : Token → Bool
  | .flowEntry | .flowMappingEnd => true
  | _ => false

/-- As `endsEntry`, for the key of a single pair in brackets. -/
def endsPairKey : Token → Bool
  | .value | .flowEntry | .flowSequenceEnd => true
  | _ => false

mutual

/-- Read a node. An indented collection is a node only if `block` holds; a sequence that is not
indented is one only as the key or the value of an indented mapping, where `loose` holds. -/
def read (handles : Handles) (block loose : Bool) (ts : List Token) :
    Except Fault (Node String × Fewer ts) :=
  match ts with
  | .alias name :: r => .ok (.alias name, ⟨r, by simp⟩)
  | .anchor a :: .tag h s :: r => do
    readTagged handles block loose { anchor := some a, tag := ← resolveTag handles h s } _ r
      (by simp only [List.length_cons]; omega)
  | .anchor a :: r => readTagged handles block loose { anchor := some a } _ r (by simp)
  | .tag h s :: .anchor a :: r => do
    readTagged handles block loose { anchor := some a, tag := ← resolveTag handles h s } _ r
      (by simp only [List.length_cons]; omega)
  | .tag h s :: r => do
    readTagged handles block loose { tag := ← resolveTag handles h s } _ r
      (by simp)
  | r => do
    match ← readContent handles block loose {} r with
    | some (node, rest) => return (node, rest)
    | none => throw (.structure "a node was expected")
termination_by 5 * ts.length + 2

/-- Read the content of a node whose properties, in `ts`, have been read, or leave it out. -/
def readTagged (handles : Handles) (block loose : Bool) (p : Properties) (ts r : List Token)
    (h : r.length < ts.length) : Except Fault (Node String × Fewer ts) := do
  match ← readContent handles block loose p r with
  | some (node, ⟨rest, h'⟩) => return (node, ⟨rest, by omega⟩)
  | none => return (.scalar p.anchor p.tag "" .plain, ⟨r, h⟩)
termination_by 5 * r.length + 1

/-- Read the content of a node, if there is any. -/
def readContent (handles : Handles) (block loose : Bool) (p : Properties) (ts : List Token) :
    Except Fault (Option (Node String × Fewer ts)) :=
  match ts with
  | .scalar text style :: r => do
    return some (.scalar p.anchor p.tag text style, ⟨r, by simp⟩)
  | .blockEntry :: r => do
    if loose then
      let (items, ⟨rest, h⟩) ← readLooseItems handles r
      return some (.sequence p.anchor p.tag items, ⟨rest, by simp; omega⟩)
    else return none
  | .blockSequence :: r => do
    if block then
      let (items, ⟨rest, h⟩) ← readItems handles r
      return some (.sequence p.anchor p.tag items, ⟨rest, by simp; omega⟩)
    else return none
  | .blockMapping :: r => do
    if block then
      let (entries, ⟨rest, h⟩) ← readEntries handles r
      return some (.mapping p.anchor p.tag entries, ⟨rest, by simp; omega⟩)
    else return none
  | .flowSequence :: r => do
    let (items, ⟨rest, h⟩) ← readFlowItems handles true r
    return some (.sequence p.anchor p.tag items, ⟨rest, by simp; omega⟩)
  | .flowMapping :: r => do
    let (entries, ⟨rest, h⟩) ← readFlowEntries handles true r
    return some (.mapping p.anchor p.tag entries, ⟨rest, by simp; omega⟩)
  | _ => .ok none
termination_by 5 * ts.length

/-- Read a node, unless the next token shows that it is left out. -/
def readUnless (handles : Handles) (block loose : Bool) (ends : Token → Bool) (ts : List Token) :
    Except Fault (Node String × AtMost ts) := do
  if ts.head?.any ends then return (absent, ⟨ts, Nat.le_refl _⟩)
  else
    let (node, ⟨rest, h⟩) ← read handles block loose ts
    return (node, ⟨rest, by omega⟩)
termination_by 5 * ts.length + 3

/-- Read the items of an indented sequence. -/
def readItems (handles : Handles) (ts : List Token) :
    Except Fault (List (Node String) × Fewer ts) :=
  match ts with
  | .blockEntry :: r => do
    let (item, ⟨r', h⟩) ← readUnless handles true false endsEntry r
    let (items, ⟨rest, h'⟩) ← readItems handles r'
    return (item :: items, ⟨rest, by simp; omega⟩)
  | .blockEnd :: r => .ok ([], ⟨r, by simp⟩)
  | _ => .error (.structure "an item was expected")
termination_by 5 * ts.length

/-- Read the items of a sequence that is not indented, from after its first dash. -/
def readLooseItems (handles : Handles) (ts : List Token) :
    Except Fault (List (Node String) × AtMost ts) := do
  let (item, ⟨r, h⟩) ← readUnless handles true false endsLooseEntry ts
  match r, h with
  | .blockEntry :: r', h => do
    let (items, ⟨rest, h'⟩) ← readLooseItems handles r'
    return (item :: items, ⟨rest, by simp only [List.length_cons] at h; omega⟩)
  | r, h => return ([item], ⟨r, h⟩)
termination_by 5 * ts.length + 4
decreasing_by
  · omega
  · simp only [List.length_cons] at h
    omega

/-- Read the value of an entry, if a value begins here. -/
def readValue (handles : Handles) (block loose : Bool) (ends : Token → Bool) (ts : List Token) :
    Except Fault (Node String × AtMost ts) :=
  match ts with
  | .value :: r => do
    let (node, ⟨rest, h⟩) ← readUnless handles block loose ends r
    return (node, ⟨rest, by simp; omega⟩)
  | r => .ok (absent, ⟨r, Nat.le_refl _⟩)
termination_by 5 * ts.length

/-- Read the entries of an indented mapping. -/
def readEntries (handles : Handles) (ts : List Token) :
    Except Fault (List (Node String × Node String) × Fewer ts) :=
  match ts with
  | .key :: r => do
    let (key, ⟨r', h⟩) ← readUnless handles true true endsMember r
    let (value, ⟨r'', h'⟩) ← readValue handles true true endsMember r'
    let (entries, ⟨rest, h''⟩) ← readEntries handles r''
    return ((key, value) :: entries, ⟨rest, by simp; omega⟩)
  | .blockEnd :: r => .ok ([], ⟨r, by simp⟩)
  | _ => .error (.structure "a key was expected")
termination_by 5 * ts.length

/-- Read the key of a single pair in brackets, from after its sign. A key that is left out takes the
token in its place with it. -/
def readPairKey (handles : Handles) (ts : List Token) :
    Except Fault (Node String × AtMost ts) :=
  match ts with
  | [] => .error (.structure "a key was expected")
  | t :: r => do
    if endsPairKey t then return (absent, ⟨r, by simp⟩)
    else
      let (node, ⟨rest, h⟩) ← read handles false false (t :: r)
      return (node, ⟨rest, by omega⟩)
termination_by 5 * ts.length + 3

/-- Read a single pair in brackets, from after the sign of its key. -/
def readPair (handles : Handles) (ts : List Token) :
    Except Fault (Node String × AtMost ts) := do
  let (key, ⟨r, h⟩) ← readPairKey handles ts
  let (value, ⟨rest, h'⟩) ← readValue handles false false endsFlowItem r
  return (.mapping none none [(key, value)], ⟨rest, by omega⟩)
termination_by 5 * ts.length + 4

/-- Read the items of a sequence in brackets. Before each but the `first` stands a comma; the last
may be followed by one. -/
def readFlowItems (handles : Handles) (first : Bool) (ts : List Token) :
    Except Fault (List (Node String) × Fewer ts) :=
  match ts with
  | .flowSequenceEnd :: r => .ok ([], ⟨r, by simp⟩)
  | t :: r => do
    if first then readFlowItem handles (t :: r)
    else if t = .flowEntry then
      if r.head? = some .flowSequenceEnd then
        return ([], ⟨r.tail, by simp only [List.length_tail, List.length_cons]; omega⟩)
      else
        let (items, ⟨rest, h⟩) ← readFlowItem handles r
        return (items, ⟨rest, by simp; omega⟩)
    else throw (.structure "a comma or a closing bracket was expected")
  | [] => .error (.structure "a closing bracket was expected")
termination_by 5 * ts.length + 4

/-- Read an item of a sequence in brackets, and the items after it. -/
def readFlowItem (handles : Handles) (ts : List Token) :
    Except Fault (List (Node String) × Fewer ts) :=
  match ts with
  | .key :: r => do
    let (item, ⟨r', h⟩) ← readPair handles r
    let (items, ⟨rest, h'⟩) ← readFlowItems handles false r'
    return (item :: items, ⟨rest, by simp; omega⟩)
  | r => do
    let (item, ⟨r', h⟩) ← read handles false false r
    let (items, ⟨rest, h'⟩) ← readFlowItems handles false r'
    return (item :: items, ⟨rest, by omega⟩)
termination_by 5 * ts.length + 3

/-- Read the entries of a mapping in braces, with commas as in `readFlowItems`. -/
def readFlowEntries (handles : Handles) (first : Bool) (ts : List Token) :
    Except Fault (List (Node String × Node String) × Fewer ts) :=
  match ts with
  | .flowMappingEnd :: r => .ok ([], ⟨r, by simp⟩)
  | t :: r => do
    if first then readFlowEntry handles (t :: r)
    else if t = .flowEntry then
      if r.head? = some .flowMappingEnd then
        return ([], ⟨r.tail, by simp only [List.length_tail, List.length_cons]; omega⟩)
      else
        let (entries, ⟨rest, h⟩) ← readFlowEntry handles r
        return (entries, ⟨rest, by simp; omega⟩)
    else throw (.structure "a comma or a closing brace was expected")
  | [] => .error (.structure "a closing brace was expected")
termination_by 5 * ts.length + 4

/-- Read an entry of a mapping in braces, and the entries after it. An entry without the sign of a
key has no value. -/
def readFlowEntry (handles : Handles) (ts : List Token) :
    Except Fault (List (Node String × Node String) × Fewer ts) :=
  match ts with
  | .key :: r => do
    let (key, ⟨r', h⟩) ← readUnless handles false false endsFlowKey r
    let (value, ⟨r'', h'⟩) ← readValue handles false false endsFlowValue r'
    let (entries, ⟨rest, h''⟩) ← readFlowEntries handles false r''
    return ((key, value) :: entries, ⟨rest, by simp; omega⟩)
  | r => do
    let (key, ⟨r', h⟩) ← read handles false false r
    let (entries, ⟨rest, h'⟩) ← readFlowEntries handles false r'
    return ((key, absent) :: entries, ⟨rest, by omega⟩)
termination_by 5 * ts.length + 3

end

end Node

end TypedManifest.Yaml
