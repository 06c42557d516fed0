/-!
# Places in a document

A place in a document is reached from the top by steps, each into the value under a key or into an
item of a sequence. It is shown as the texts of the keys with points between them and the numbers of
the items in brackets, as in `applications[0].memory`. The top itself is shown as the empty text.
-/

namespace TypedManifest.Check

/-- A step into a value. -/
inductive Step where
  /-- To what stands under a key with this text. -/
  | key (text : String)
  /-- To the item of this number, counted from zero. -/
  | item (index : Nat)
  deriving DecidableEq, Repr

/-- The steps from the top of a document to a place, the first one first. -/
abbrev Path := List Step

/-- The text of a place, given the text of the place that the last step starts from. No point is
written after an empty text. -/
def Step.after (text : String) : Step → String
  | key k => if text = "" then k else s!"{text}.{k}"
  | item i => s!"{text}[{i}]"

/-- The text of a place. -/
def Path.text (p : Path) : String := p.foldl Step.after ""

end TypedManifest.Check
