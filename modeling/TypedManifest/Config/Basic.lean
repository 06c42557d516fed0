import TypedManifest.FileTree
import TypedManifest.Manifest
import TypedManifest.Text.Cut

/-!
# The configuration

Without a connection to a platform, the lists of buildpacks, services and domains are given by hand:
in a configuration file, in variables of the environment, or in both. A variable that is set
replaces the setting of the file. The other settings are the timeout of the sources and the folder
with the descriptions of properties.

A list that is given becomes a source of hints that knows its values. A list that is not given is no
source at all, which is not the same as an empty list.
-/

namespace TypedManifest

/-- The settings. -/
structure Config where
  /-- The buildpacks. -/
  buildpacks : Option (List String) := none
  /-- The services. -/
  services : Option (List String) := none
  /-- The domains. -/
  domains : Option (List String) := none
  /-- How many milliseconds a request for hints may take. -/
  hintTimeout : Option Nat := none
  /-- The folder with the descriptions. -/
  descriptionsFolder : Option String := none
  deriving DecidableEq, Repr, Inhabited

/-- A configuration that cannot be had. -/
inductive ConfigError where
  /-- The file cannot be read. -/
  | unreadable (path : String) (e : FileError)
  /-- The file does not hold a configuration. -/
  | invalid (path : String)
  /-- The value of a variable does not suit it. -/
  | invalidValue (name value : String)
  deriving DecidableEq, Repr

/-- What is said of a configuration that cannot be had. -/
def ConfigError.message : ConfigError → String
  | unreadable path e => s!"cannot read config file '{path}': {e.message}"
  | invalid path => s!"invalid config file '{path}'"
  | invalidValue name value => s!"invalid value for {name}: '{value}'"

namespace Config

/-! ### Variables of the environment -/

/-- The variable with the buildpacks. -/
def buildpacksVariable : String := "MFST_BUILDPACKS"

/-- The variable with the services. -/
def servicesVariable : String := "MFST_SERVICES"

/-- The variable with the domains. -/
def domainsVariable : String := "MFST_DOMAINS"

/-- The variable with the timeout. -/
def timeoutVariable : String := "MFST_HINT_TIMEOUT_MS"

/-- The variable with the folder of descriptions. -/
def descriptionsVariable : String := "MFST_DESCRIPTIONS_DIR"

/-- All variables that are looked at. -/
def variableNames : List String :=
  [buildpacksVariable, servicesVariable, domainsVariable, timeoutVariable, descriptionsVariable]

/-- The items of a list with commas between them, trimmed. What is blank is no item. -/
def splitList (s : String) : List String :=
  (((s.toList.splitOn ',').map Text.trim).filter (· ≠ [])).map String.ofList

/-- Read a timeout. -/
def readTimeout (value : String) : Except ConfigError Nat :=
  match Text.naturalUpTo? Text.maxWord (Text.trim value.toList) with
  | some n => .ok n
  | none => .error (.invalidValue timeoutVariable value)

/-- Replace settings by the variables that are set. -/
def override (c : Config) (lookup : String → Option String) : Except ConfigError Config := do
  let timeout ← (lookup timeoutVariable).mapM readTimeout
  return {
    buildpacks := (lookup buildpacksVariable).map splitList <|> c.buildpacks
    services := (lookup servicesVariable).map splitList <|> c.services
    domains := (lookup domainsVariable).map splitList <|> c.domains
    hintTimeout := timeout <|> c.hintTimeout
    descriptionsFolder := lookup descriptionsVariable <|> c.descriptionsFolder }

/-! ### Sources -/

/-- How many milliseconds a request for hints may take. -/
def timeout (c : Config) : Nat := c.hintTimeout.getD Source.defaultTimeout

/-- Add a source for a list, if the list is given. -/
def addSource (timeout : Nat) (name : String) (values : Option (List String)) (σ : Store) :
    Option Source × Store :=
  match values with
  | some values =>
    let (s, σ') := σ.add (.fixed name (values.map ({ value := · }))) timeout
    (some s, σ')
  | none => (none, σ)

/-- The settings for the schema of manifests, with a source for each list that is given. The
descriptions, if there are any, are in the folder of the given number. -/
def settings (c : Config) (folder : Nat) (σ : Store) : Manifest.Settings × Store :=
  let (buildpacks, σ) := addSource c.timeout "buildpacks" c.buildpacks σ
  let (services, σ) := addSource c.timeout "services" c.services σ
  let (domains, σ) := addSource c.timeout "domains" c.domains σ
  ({ buildpacks, services, domains,
     descriptions := if c.descriptionsFolder.isSome then .folder folder else .nowhere }, σ)

end Config

end TypedManifest
