/-!
# Tags

A tag says what kind of value a node holds. It is a run of bytes without a NUL, which need not be a
text: percent signs may write bytes that form no characters. The tags of the language itself begin
alike. A tag that begins with an exclamation mark is the author's own, if it is a text.
-/

namespace TypedManifest.Yaml

/-- A tag, or a part of one. -/
structure Tag where
  /-- The bytes. -/
  bytes : List UInt8
  deriving DecidableEq, Repr

namespace Tag

/-- The first part of a tag and the second one make up the tag. -/
instance : Append Tag := ⟨fun s t => ⟨s.bytes ++ t.bytes⟩⟩

/-- Nothing. -/
def empty : Tag := ⟨[]⟩

/-- A text as a tag. -/
def ofString (s : String) : Tag := ⟨s.toList.flatMap String.utf8EncodeChar⟩

/-- What comes before the first NUL. -/
def beforeNul (t : Tag) : Tag := ⟨t.bytes.takeWhile (· ≠ 0)⟩

/-- The tag as a text, if it is one. -/
def text? (t : Tag) : Option String := String.fromUTF8? ⟨t.bytes.toArray⟩

/-- The tag that is an exclamation mark and nothing else. -/
def lone : Tag := ofString "!"

/-- What the tags of the language begin with. -/
def coreBeginning : Tag := ofString "tag:yaml.org,2002:"

/-- A tag of the language. -/
def core (name : String) : Tag := coreBeginning ++ ofString name

/-- The tag begins with an exclamation mark. -/
def isMarked (t : Tag) : Bool := t.bytes.head? = some 0x21

/-- The name in a text that begins with an exclamation mark. A second one in front does not count
either; a lone one is a name. -/
def nameIn? : List Char → Option String
  | ['!'] => some "!"
  | '!' :: '!' :: c :: r => some (String.ofList (c :: r))
  | '!' :: r => some (String.ofList r)
  | _ => none

/-- The name of a tag of the author's own. -/
def own? (t : Tag) : Option String := t.text?.bind fun s => nameIn? s.toList

end Tag

end TypedManifest.Yaml
