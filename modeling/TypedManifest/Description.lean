import TypedManifest.FileTree
import TypedManifest.Log
import TypedManifest.Text.Blank

/-!
# Descriptions of properties

A property may be described by a text, which is looked up by a key when it is wanted and not before.
Texts come from a table in memory, or from a folder that holds one Markdown file per key. Looking a
text up never fails: what is missing, blank or unreadable is no description, and an unreadable file
is put on record.
-/

namespace TypedManifest

/-- Documentation, ready to be shown. -/
inductive Description where
  /-- Plain text. -/
  | text (s : String)
  /-- Markdown. -/
  | markdown (s : String)
  /-- There is none. -/
  | none
  deriving DecidableEq, Repr

/-- The text of a description. -/
def Description.text? : Description → Option String
  | .text s => some s
  | .markdown s => some s
  | .none => Option.none

/-- A folder, as far as it is known: where it is, and what reading a file in it gives. -/
structure Folder where
  /-- The path of the folder, as it is shown. -/
  path : String
  /-- The outcome of reading the file of a given name. -/
  read : String → Except FileError String

namespace Folder

/-- The path of a file in the folder. -/
def pathOf (f : Folder) (file : String) : String :=
  if f.path = "" then file
  else if f.path.toList.getLast? = some '/' then f.path ++ file
  else f.path ++ "/" ++ file

/-- A folder without files. -/
def nowhere : Folder where
  path := ""
  read := fun _ => .error .notFound

/-- A folder whose files are in memory. -/
def ofTree (path : String) (t : FileTree) : Folder where
  path := path
  read := t.read

end Folder

/-- Where descriptions come from. -/
inductive DescriptionSource where
  /-- Nowhere. -/
  | nowhere
  /-- A table; the first row for a key counts. -/
  | table (rows : List (String × Description))
  /-- The folder of this number. -/
  | folder (number : Nat)
  deriving DecidableEq, Repr

/-- A description that is looked up when it is wanted. -/
structure DescriptionRef where
  /-- Where to look. -/
  source : DescriptionSource
  /-- What to look for. -/
  key : String
  deriving DecidableEq, Repr

/-- All folders of descriptions, by number. -/
abbrev Folders := Nat → Folder

namespace DescriptionRef

/-- A key that is the name of a file in the folder itself: not empty, without a separator, and not
hidden. -/
def isFileKey (key : String) : Bool :=
  key ≠ "" && !key.toList.any (fun c => c == '/' || c == '\\') && key.toList.head? != some '.'

/-- The name of the file for a key. -/
def fileName (key : String) : String := key ++ ".md"

/-- Look a key up in a folder. -/
def resolveIn (f : Folder) (key : String) : Description × List LogEntry :=
  if !isFileKey key then (.none, [])
  else match f.read (fileName key) with
    | .ok text => (if Text.isBlankString text then .none else .markdown text, [])
    | .error .notFound => (.none, [])
    | .error e =>
      (.none, [⟨.warn, "cannot read description",
        [("path", f.pathOf (fileName key)), ("error", e.message)]⟩])

/-- Look a description up. -/
def resolve (folders : Folders) (d : DescriptionRef) : Description × List LogEntry :=
  match d.source with
  | .nowhere => (.none, [])
  | .table rows => ((rows.lookup d.key).getD .none, [])
  | .folder number => resolveIn (folders number) d.key

end DescriptionRef

end TypedManifest
