import TypedManifest.Check.Stream
import TypedManifest.CommandLine.Arguments
import TypedManifest.CommandLine.Report
import TypedManifest.Config.Reader
import TypedManifest.Schema.Completion
import TypedManifest.Schema.Outline
import TypedManifest.Schema.Tree

/-!
# Running a command

A command reads its configuration, then what it is about, and gives an exit status, an output and a
record of its steps. The exit status is 0 when all is well, 1 when a manifest has errors or
something cannot be read, and 2 when the command line has a fault or names a type that there is none
of.

Files are read by a function that is given, in any monad; nothing else that a command does depends
on the world outside.
-/

namespace TypedManifest.CommandLine

/-- What a command leaves behind. -/
structure Outcome where
  /-- The exit status. -/
  status : Nat
  /-- The output. -/
  output : String := ""
  /-- What is put on record. -/
  log : List LogEntry := []
  /-- What is said to the user beside the output. -/
  remarks : List String := []
  deriving DecidableEq, Repr

/-- The lines beside the output: the entries of the log that a verbosity shows, then the remarks. -/
def Outcome.messages (verbosity : Nat) (o : Outcome) : List String :=
  (o.log.filter (·.level.verbosity ≤ verbosity)).map LogEntry.line ++ o.remarks

/-- The version of the program. -/
def version : String := "0.1.0"

/-! ### Steps that are put on record -/

/-- A command is run. -/
def starting : LogEntry := ⟨.debug, "mfst starting", [("version", s!"\"{version}\"")]⟩

/-- How many items a list has that may not be given. -/
def itemCount (values : Option (List String)) : String := toString ((values.map List.length).getD 0)

/-- The configuration is known. -/
def configLoaded (c : Config) : LogEntry :=
  ⟨.debug, "loaded hint configuration",
    [("buildpacks", itemCount c.buildpacks), ("services", itemCount c.services),
      ("domains", itemCount c.domains)]⟩

/-- The schema is known. -/
def schemaBuilt (s : Manifest.Settings) : LogEntry :=
  ⟨.debug, "manifest schema built",
    [("toplevel_properties", toString s.toplevel.properties.length),
      ("application_properties", toString s.application.properties.length)]⟩

/-- Hints have been found. -/
def hintsCollected (typeName : String) (hints : List Hint) : LogEntry :=
  ⟨.debug, "collected hints",
    [("type_name", s!"\"{typeName}\""), ("count", toString hints.length)]⟩

/-- A manifest has been checked. -/
def manifestChecked (file : String) (found : List Check.Diagnostic) : LogEntry :=
  let errors := Check.errorCount found
  ⟨.info, "manifest checked",
    [("file", file), ("errors", toString errors), ("warnings", toString (found.length - errors))]⟩

/-- A failure that ends the command. -/
def failed (message : String) : LogEntry := ⟨.error, message, []⟩

/-- A configuration that cannot be had, with the cause repeated where there is one. -/
def configFailure (e : ConfigError) : String :=
  match e with
  | .unreadable _ cause => s!"{e.message}: {cause.message}"
  | e => e.message

/-! ### Commands -/

/-- What a command works with. -/
structure Session where
  /-- The settings of the schema. -/
  settings : Manifest.Settings
  /-- The sources of hints. -/
  store : Store
  /-- The folder with the descriptions. -/
  folders : Folders

/-- Show the schema. -/
def runSchema (json : Bool) (s : Session) : Outcome :=
  if json then {
    status := 0
    output := jsonOutput (s.settings.schema.json s.folders)
    log := schemaBuilt s.settings :: s.settings.schema.jsonLog s.folders }
  else {
    status := 0
    output := s.settings.schema.outlineText
    log := [schemaBuilt s.settings] }

/-- List the hints for a type. -/
def runHints (json : Bool) (typeName : String) (s : Session) : Outcome :=
  match s.settings.schema.hintsFor? s.store typeName with
  | some ((hints, log), _) => {
    status := 0
    output := hintsOutput json hints
    log := schemaBuilt s.settings :: log ++ [hintsCollected typeName hints] }
  | none => {
    status := 2
    log := [schemaBuilt s.settings]
    remarks := [s!"unknown type: {typeName}"] }

/-- Check the text of a manifest. -/
def runCheck (json : Bool) (file text : String) (s : Session) : Outcome :=
  let found := s.settings.schema.checkText s.store text
  { status := if Check.errorCount found = 0 then 0 else 1
    output := findingsOutput json file found
    log := [schemaBuilt s.settings, manifestChecked file found] }

/-- The folder of descriptions, with the files read that the schema may ask for. -/
def readFolder {m : Type → Type} [Monad m] (read : String → m (Except FileError String))
    (s : Manifest.Settings) (path : String) : m Folder := do
  let bare : Folder := { path, read := fun _ => .error .notFound }
  let names := s.describedNames.map DescriptionRef.fileName
  let contents ← names.mapM fun name => read (bare.pathOf name)
  return { path, read := fun name => ((names.zip contents).lookup name).getD (.error .notFound) }

/-- Run a command with a configuration. -/
def runWith {m : Type → Type} [Monad m] (read : String → m (Except FileError String))
    (i : Invocation) (c : Config) : m Outcome := do
  let (settings, store) := c.settings 0 .empty
  let session : Session := { settings, store, folders := fun _ => .nowhere }
  match i.command with
  | .schema =>
    match c.descriptionsFolder with
    | some path =>
      let folder ← readFolder read settings path
      return runSchema i.json { session with folders := fun _ => folder }
    | none => return runSchema i.json session
  | .hints typeName => return runHints i.json typeName session
  | .check file =>
    match ← read file with
    | .ok text => return runCheck i.json file text session
    | .error e =>
      return { status := 1, log := [failed s!"failed to read manifest: {file}: {e.message}"] }

/-- The configuration for a command: the file, if one is named, and the variables. -/
def loadConfig {m : Type → Type} [Monad m] (read : String → m (Except FileError String))
    (lookup : String → Option String) (path : Option String) : m (Except ConfigError Config) := do
  match path with
  | some path => return (Config.ofFile path (← read path)).bind (·.override lookup)
  | none => return Config.override {} lookup

/-- Run a command. -/
def runInvocation {m : Type → Type} [Monad m] (read : String → m (Except FileError String))
    (lookup : String → Option String) (i : Invocation) : m Outcome := do
  match ← loadConfig read lookup i.config with
  | .error e => return { status := 1, log := [starting, failed (configFailure e)] }
  | .ok c =>
    let o ← runWith read i c
    return { o with log := starting :: configLoaded c :: o.log }

/-- What a finished command line leaves: the exit status, the output and the lines beside it. -/
structure Result where
  /-- The exit status. -/
  status : Nat
  /-- The output. -/
  output : String := ""
  /-- The lines beside the output. -/
  messages : List String := []
  deriving DecidableEq, Repr

/-- Run a command line. -/
def run {m : Type → Type} [Monad m] (read : String → m (Except FileError String))
    (lookup : String → Option String) (args : List String) : m Result := do
  match Invocation.ofArguments args with
  | .error .fault => return { status := 2 }
  | .error .help => return { status := 0 }
  | .error .version => return { status := 0, output := unlines [s!"mfst {version}"] }
  | .ok i =>
    let o ← runInvocation read lookup i
    return { status := o.status, output := o.output, messages := o.messages i.verbosity }

end TypedManifest.CommandLine
