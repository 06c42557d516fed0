import TypedManifest.Check.Value
import TypedManifest.Yaml.Reader

/-!
# Checking a stream of documents

A text is read into documents, their number is compared with what the schema allows, and each is
checked against the type of documents. A text that cannot be read, or one with a number of documents
that is not allowed, has that as its only finding. A text of blank lines and comments holds no
document.
-/

namespace TypedManifest

open Check Yaml

/-- A line that is blank or a comment. -/
def Text.isIdleLine (line : List Char) : Bool :=
  match Text.trimStart line with
  | [] => true
  | c :: _ => c == '#'

/-- A text of blank lines and comments. -/
def Text.isIdle (text : String) : Bool := (text.toList.splitOn '\n').all Text.isIdleLine

namespace Schema

/-- Check documents that have been read. -/
def checkDocuments (S : Schema) (σ : Store) (documents : List Value) : List Diagnostic :=
  match S.documents.check documents.length with
  | .error e => [.here (.documentCount e)]
  | .ok () => documents.flatMap (S.root.check σ)

/-- Check a text. -/
def checkText (S : Schema) (σ : Store) (text : String) : List Diagnostic :=
  if Text.isIdle text then S.checkDocuments σ []
  else match Value.readStream text with
    | .ok documents => S.checkDocuments σ documents
    | .error _ => [.here .invalidYaml]

end Schema

/-- How many of the findings are errors. -/
def Check.errorCount (found : List Diagnostic) : Nat := found.countP Diagnostic.isError

end TypedManifest
