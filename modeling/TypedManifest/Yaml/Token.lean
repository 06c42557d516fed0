import TypedManifest.Yaml.Tag

/-!
# Tokens of YAML

A stream is a sequence of tokens: directives and markers of documents, the beginnings and ends of
collections, the indicators within collections, and what makes up a node (an alias, an anchor, a
tag, a scalar). Where a collection is laid out by indentation, its beginning and its end are tokens
without characters of their own.
-/

namespace TypedManifest.Yaml

/-- How a scalar is written. -/
inductive ScalarStyle where
  /-- Without quotes. -/
  | plain
  /-- Within single or double quotes. -/
  | quoted
  /-- As a block whose lines are kept. -/
  | literal
  /-- As a block whose lines are folded. -/
  | folded
  deriving DecidableEq, Repr

/-- A token. -/
inductive Token where
  /-- The version that a document is written for. -/
  | version (major minor : Nat)
  /-- A handle for tags and what it stands for. -/
  | tagHandle (handle : String) (meaning : Tag)
  /-- The marker of the beginning of a document. -/
  | documentStart
  /-- The marker of the end of a document. -/
  | documentEnd
  /-- The beginning of an indented sequence. -/
  | blockSequence
  /-- The beginning of an indented mapping. -/
  | blockMapping
  /-- The end of an indented collection. -/
  | blockEnd
  /-- An opening square bracket. -/
  | flowSequence
  /-- A closing square bracket. -/
  | flowSequenceEnd
  /-- An opening brace. -/
  | flowMapping
  /-- A closing brace. -/
  | flowMappingEnd
  /-- The dash before an item. -/
  | blockEntry
  /-- The comma between items or entries. -/
  | flowEntry
  /-- The beginning of a key. -/
  | key
  /-- The beginning of a value. -/
  | value
  /-- A reference to an anchor. -/
  | alias (name : String)
  /-- The name that a node goes by. -/
  | anchor (name : String)
  /-- A tag: its handle, and what follows the handle. -/
  | tag (handle : String) (suffix : Tag)
  /-- A scalar. -/
  | scalar (text : String) (style : ScalarStyle)
  /-- The end of the stream. -/
  | streamEnd
  deriving DecidableEq, Repr

/-- Why a stream cannot be read. -/
inductive Fault where
  /-- A character that no stream may hold. -/
  | character
  /-- Characters that form no token. -/
  | token (reason : String)
  /-- Tokens that form no document. -/
  | structure (reason : String)
  /-- A reference to an anchor that there is none of. -/
  | unknownAnchor
  /-- Collections within collections to too great a depth. -/
  | tooDeep
  /-- References to anchors that lead to too many nodes. -/
  | tooMany
  /-- A scalar that does not fit its tag, or that stands for a number that is too large. -/
  | scalar (text : String)
  /-- A mapping with two equal keys. -/
  | duplicateKey
  deriving DecidableEq, Repr

end TypedManifest.Yaml
