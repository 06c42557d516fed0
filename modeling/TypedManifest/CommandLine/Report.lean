import TypedManifest.Check.Diagnostic
import TypedManifest.Hint.Basic
import TypedManifest.Json.Text

/-!
# Results as text

What a command finds is written for a person, line by line, or as JSON.
-/

namespace TypedManifest

/-- A hint as JSON. -/
def Hint.json (h : Hint) : Json :=
  .object (("value", .string h.value) :: Json.optional "label" (h.label.map .string))

/-- A finding as JSON. -/
def Check.Diagnostic.json (d : Check.Diagnostic) : Json :=
  .object [
    ("severity", .string d.severity.name),
    ("path", .string d.path.text),
    ("message", .string d.message)]

namespace CommandLine

/-- Lines of text. -/
def unlines (lines : List String) : String := String.join (lines.map (· ++ "\n"))

/-- A JSON value as the whole output. -/
def jsonOutput (v : Json) : String := unlines [v.text]

/-- The line that shows a hint. -/
def hintLine (h : Hint) : String :=
  match h.label with
  | some label => s!"{h.value}\t{label}"
  | none => h.value

/-- Hints as the output of a command. -/
def hintsOutput (json : Bool) (hints : List Hint) : String :=
  if json then jsonOutput (.array (hints.map Hint.json)) else unlines (hints.map hintLine)

/-- The findings in a file as the output of a command. -/
def findingsOutput (json : Bool) (file : String) (found : List Check.Diagnostic) : String :=
  if json then jsonOutput (.array (found.map Check.Diagnostic.json))
  else if found = [] then unlines [s!"OK: {file}"]
  else unlines (found.map Check.Diagnostic.line)

end CommandLine

end TypedManifest
