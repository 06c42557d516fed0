import TypedManifest.Yaml.Lexer
import TypedManifest.Yaml.Node

/-!
# Documents of a stream

A stream holds documents one after the other. The first may begin without a marker; every other one
begins with a marker, before which directives may stand. Directives apply to one document. A
document with a marker and no content is an empty scalar.
-/

namespace TypedManifest.Yaml.Node

/-- The beginning of a document after its directives: the handles, and the tokens left. -/
structure Prologue (ts : List Token) where
  /-- The handles that have a meaning. -/
  handles : Handles
  /-- The tokens left. -/
  rest : AtMost ts

/-- Read the directives before a document. -/
def readDirectives (versioned : Bool) (handles : Handles) (ts : List Token) :
    Except Fault (Prologue ts) :=
  match ts with
  | .version major minor :: r => do
    if versioned then throw (.structure "two versions")
    if major ≠ 1 || !(minor = 1 || minor = 2) then throw (.structure "an unknown version")
    let ⟨handles, ⟨rest, h⟩⟩ ← readDirectives true handles r
    return ⟨handles, ⟨rest, by simp; omega⟩⟩
  | .tagHandle handle meaning :: r => do
    if (handles.lookup handle).isSome then throw (.structure "a handle with two meanings")
    let ⟨handles, ⟨rest, h⟩⟩ ← readDirectives versioned (handles ++ [(handle, meaning)]) r
    return ⟨handles, ⟨rest, by simp; omega⟩⟩
  | r => .ok ⟨handles ++ defaultHandles, ⟨r, Nat.le_refl _⟩⟩

/-- A token that shows that a document has no content. -/
def endsDocument : Token → Bool
  | .version .. | .tagHandle .. | .documentStart | .documentEnd | .streamEnd => true
  | _ => false

/-- Read the documents that begin with a marker. -/
def readMarked (ts : List Token) : Except Fault (List (Node String)) :=
  match ts with
  | .documentEnd :: r => readMarked r
  | .streamEnd :: _ => .ok []
  | r => do
    let ⟨handles, ⟨r', h⟩⟩ ← readDirectives false [] r
    match r', h with
    | .documentStart :: r'', _h => do
      let (node, ⟨rest, _h'⟩) ← readUnless handles true false endsDocument r''
      return node :: (← readMarked rest)
    | _, _ => throw (.structure "the beginning of a document was expected")
termination_by ts.length
decreasing_by all_goals (simp at *; try omega)

/-- Read the documents of a stream. -/
def readStream (ts : List Token) : Except Fault (List (Node String)) := do
  if ts.head?.any fun t => endsDocument t && t ≠ .documentEnd then readMarked ts
  else
    let (node, ⟨rest, _⟩) ← read defaultHandles true false ts
    return node :: (← readMarked rest)

/-- The documents of a text, of which there may be none. -/
def ofString (text : String) : Except Fault (List (Node String)) := do
  readStream (← Token.ofString text)

end TypedManifest.Yaml.Node
