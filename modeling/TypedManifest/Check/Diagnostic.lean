import TypedManifest.Check.Path
import TypedManifest.DocumentRange
import TypedManifest.Schema.Scalar
import TypedManifest.Yaml.Value

/-!
# What a check finds

A check reports each thing that it finds at the place where it finds it. Most findings are errors; a
deprecated value and an unknown property are warnings.
-/

namespace TypedManifest.Check

/-- Something that is not as the schema wants it. -/
inductive Finding where
  /-- A value whose form does not suit the type. -/
  | wrongShape (typeName : String) (found : Yaml.Shape)
  /-- A scalar whose text the type refuses. -/
  | refused (e : Scalar.Error)
  /-- A scalar that is deprecated. -/
  | deprecated (d : Deprecation)
  /-- An entry for a property whose key is no text. -/
  | namelessProperty
  /-- A required property without a value. -/
  | noValue (property : String)
  /-- A required property that is not there. -/
  | missingProperty (property : String)
  /-- A property that the type does not have. -/
  | unknownProperty (typeName : String)
  /-- Too many documents, or too few. -/
  | documentCount (e : DocumentCountError)
  /-- A text that is no stream of documents. -/
  | invalidYaml
  deriving DecidableEq, Repr

/-- How grave a finding is. -/
inductive Severity where
  /-- The document cannot be used. -/
  | error
  /-- The document can be used. -/
  | warning
  deriving DecidableEq, Repr

/-- The name of a severity. -/
def Severity.name : Severity → String
  | error => "error"
  | warning => "warning"

/-- How grave a finding is. -/
def Finding.severity : Finding → Severity
  | deprecated _ | unknownProperty _ => .warning
  | _ => .error

/-- A finding in words. -/
def Finding.message : Finding → String
  | wrongShape typeName found => s!"expected {typeName}, found a {found.name}"
  | refused e => e.message
  | deprecated d => d.message
  | namelessProperty => "property names must be strings"
  | noValue property => s!"required property '{property}' has no value"
  | missingProperty property => s!"missing required property '{property}'"
  | unknownProperty typeName => s!"unknown property for {typeName}"
  | documentCount e => e.message
  | invalidYaml => "invalid YAML"

/-- A finding and its place. -/
structure Diagnostic where
  /-- Where it is. -/
  path : Path
  /-- What it is. -/
  finding : Finding
  deriving DecidableEq, Repr

namespace Diagnostic

/-- A finding at the place that is looked at. -/
def here (finding : Finding) : Diagnostic := ⟨[], finding⟩

/-- A finding in a part of a value, seen from the value. -/
def under (step : Step) (d : Diagnostic) : Diagnostic := { d with path := step :: d.path }

/-- How grave it is. -/
def severity (d : Diagnostic) : Severity := d.finding.severity

/-- It is an error. -/
def isError (d : Diagnostic) : Bool := d.severity = .error

/-- It in words, without its place. -/
def message (d : Diagnostic) : String := d.finding.message

/-- The line that shows it. The place is left out when its text is empty. -/
def line (d : Diagnostic) : String :=
  let place := d.path.text
  if place = "" then s!"{d.severity.name}: {d.message}"
  else s!"{d.severity.name}: {place}: {d.message}"

end Diagnostic

end TypedManifest.Check
