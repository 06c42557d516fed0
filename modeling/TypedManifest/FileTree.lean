/-!
# Files

Reading a file gives its text, or one of a few reasons why there is none. A file tree holds files in
memory and reads them the way a system reads its own: a path leads from folder to folder, `.` stays
where it is, `..` leads back, and each step is taken only if there is something to step to. There
are no files outside the tree.
-/

namespace TypedManifest

/-- Why a file cannot be read. -/
inductive FileError where
  /-- There is no such file. -/
  | notFound
  /-- A folder stands in its place. -/
  | isFolder
  /-- A file stands in the place of a folder on the way. -/
  | notFolder
  /-- The path, or a part of it, is too long. -/
  | nameTooLong
  /-- The path holds a NUL. -/
  | nulInName
  /-- The content is not UTF-8. -/
  | notText
  /-- Something else, in the words of the system. -/
  | other (message : String)
  deriving DecidableEq, Repr

/-- What the system says of a file that cannot be read. -/
def FileError.message : FileError → String
  | notFound => "No such file or directory (os error 2)"
  | isFolder => "Is a directory (os error 21)"
  | notFolder => "Not a directory (os error 20)"
  | nameTooLong => "File name too long (os error 36)"
  | nulInName => "file name contained an unexpected NUL byte"
  | notText => "stream did not contain valid UTF-8"
  | other message => message

/-- What stands at a place in a tree. -/
inductive FileEntry where
  /-- A file with this text. -/
  | text (content : String)
  /-- A file that is not UTF-8. -/
  | bytes
  /-- A folder. -/
  | folder
  deriving DecidableEq, Repr

/-- Files and folders, each under the names that lead to it. A folder that holds something need not
be listed. -/
structure FileTree where
  /-- What there is; the first entry for a place counts. -/
  entries : List (List String × FileEntry)

namespace FileTree

/-- The names that a path consists of. -/
def names (path : String) : List String := path.splitOn "/"

/-- The tree of the given files; the first one of a path counts. -/
def ofTexts (files : List (String × String)) : FileTree :=
  ⟨files.map fun (path, content) => (names path, .text content)⟩

/-- Put an entry at a path. -/
def put (t : FileTree) (path : String) (entry : FileEntry) : FileTree :=
  ⟨(names path, entry) :: t.entries⟩

/-- Remove the entry at a path. -/
def remove (t : FileTree) (path : String) : FileTree :=
  ⟨t.entries.filter (·.1 ≠ names path)⟩

/-- What stands at a place. -/
def entry? (t : FileTree) (place : List String) : Option FileEntry :=
  t.entries.lookup place <|>
    if place = [] || t.entries.any (fun e => place.isPrefixOf e.1) then some .folder else none

/-- The greatest number of bytes in a name. -/
def maxNameBytes : Nat := 255

/-- The greatest number of bytes in a path. -/
def maxPathBytes : Nat := 4095

/-- The tree of what is known outside a tree: there is nothing in it. -/
def outside : FileTree := ⟨[]⟩

/-- Follow names from a place. A step back from the root leads out of the tree. -/
def follow (t : FileTree) (place : List String) : List String → Except FileError (List String)
  | [] => .ok place
  | name :: rest =>
    if t.entry? place ≠ some .folder then .error .notFolder
    else if name = "" || name = "." then t.follow place rest
    else if name = ".." then
      if place = [] then outside.follow [] rest else t.follow place.dropLast rest
    else if maxNameBytes < name.utf8ByteSize then .error .nameTooLong
    else if (t.entry? (place ++ [name])).isNone then .error .notFound
    else t.follow (place ++ [name]) rest

/-- The place that a path leads to. A path from the root of the system leads out of the tree. -/
def locate (t : FileTree) (path : String) : Except FileError (List String) :=
  if path.toList.contains '\x00' then .error .nulInName
  else if maxPathBytes < path.utf8ByteSize then .error .nameTooLong
  else if path = "" then .error .notFound
  else if path.toList.head? = some '/' then outside.follow [] (names path)
  else t.follow [] (names path)

/-- Read the file at a path. -/
def read (t : FileTree) (path : String) : Except FileError String := do
  match t.entry? (← t.locate path) with
  | some (.text content) => return content
  | some .bytes => throw .notText
  | some .folder => throw .isFolder
  | none => throw .notFound

end FileTree

end TypedManifest
