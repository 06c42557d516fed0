/-!
# The command line

A command line names one of three commands. Options may stand before the name of the command or
after it: `-v` or `--verbose` any number of times, and `--config` with the path of a configuration
file. What is said after the name replaces what is said before it. A command takes `--json`, and
some commands take one operand.

The arguments are read from left to right, and the first thing that settles the outcome counts: a
fault, or a request for help or for the version. The value of an option, and an operand, are judged
when the next option or operand of the same part comes, or at the end. So a fault in the last one
before the name of the command is found only after the rest of the line has been read.
-/

namespace TypedManifest.CommandLine

/-- A command. -/
inductive Command where
  /-- Show the schema of manifests. -/
  | schema
  /-- List the hints for a type. -/
  | hints (typeName : String)
  /-- Check a manifest. -/
  | check (file : String)
  deriving DecidableEq, Repr

/-- What a command line asks for. -/
structure Invocation where
  /-- How much is to be put on record. -/
  verbosity : Nat
  /-- The path of the configuration file. -/
  config : Option String
  /-- The command. -/
  command : Command
  /-- Whether the result is to be JSON. -/
  json : Bool
  deriving DecidableEq, Repr

/-- Why there is no command to be run. -/
inductive Stop where
  /-- The command line has a fault. -/
  | fault
  /-- It asks for help. -/
  | help
  /-- It asks for the version. -/
  | version
  deriving DecidableEq, Repr

/-- The parts of a command line: what stands before the name of a command, and what comes after it.
-/
inductive Part where
  /-- Before the name. -/
  | top
  /-- After the name `schema`. -/
  | schema
  /-- After the name `hints`. -/
  | hints
  /-- After the name `check`. -/
  | check
  deriving DecidableEq, Repr

/-- The part that comes after a name. -/
def Part.named? : String → Option Part
  | "schema" => some schema
  | "hints" => some hints
  | "check" => some check
  | _ => none

/-- An operand may stand in the part. -/
def Part.takesOperand : Part → Bool
  | hints | check => true
  | top | schema => false

/-- What has been read and not yet judged. -/
inductive Pending where
  /-- Nothing. -/
  | nothing
  /-- A `--config` whose value has not come. -/
  | configWithout
  /-- A `--config` and its value. -/
  | config (value : String)
  /-- An operand. -/
  | operand (value : String)
  deriving DecidableEq, Repr

/-- What has been said in a part. -/
structure Said where
  /-- How many times `-v`. -/
  verbosity : Nat := 0
  /-- The value of `--config`. -/
  config : Option String := none
  /-- `--json`. -/
  json : Bool := false
  /-- The operand. -/
  operand : Option String := none
  /-- What has not been judged. -/
  pending : Pending := .nothing
  deriving DecidableEq, Repr

namespace Said

/-- Take the value of `--config`: a path, which is not empty, and not twice. -/
def takeConfig (s : Said) (value : String) : Except Stop Said :=
  if value = "" || s.config.isSome then .error .fault else .ok { s with config := some value }

/-- Judge what is pending. The operand of `check` is a path, which is not empty. -/
def settle (part : Part) (s : Said) : Except Stop Said :=
  let s' := { s with pending := .nothing }
  match s.pending with
  | .nothing => .ok s'
  | .configWithout => .error .fault
  | .config value => s'.takeConfig value
  | .operand value =>
    if part = .check && value = "" then .error .fault else .ok { s' with operand := some value }

/-- There is an operand already. -/
def hasOperand (s : Said) : Bool :=
  s.operand.isSome || match s.pending with
    | .operand _ => true
    | _ => false

/-- Read the letters of a short option. -/
def readLetters (part : Part) (s : Said) : List Char → Except Stop Said
  | [] => .ok s
  | 'v' :: rest => do
    let s ← s.settle part
    readLetters part { s with verbosity := s.verbosity + 1 } rest
  | 'h' :: _ => do
    let _ ← s.settle part
    throw .help
  | 'V' :: _ => do
    let _ ← s.settle part
    throw (if part = .top then .version else .fault)
  | _ => .error .fault

/-- Read a long option, given its name and what follows an equals sign. -/
def readLong (part : Part) (s : Said) (name : String) (value : Option String) :
    Except Stop Said := do
  let s ← s.settle part
  match name, value with
  | "config", some value => s.takeConfig value
  | "config", none => return { s with pending := .configWithout }
  | "verbose", none => return { s with verbosity := s.verbosity + 1 }
  | "help", none => throw .help
  | "version", none => throw (if part = .top then .version else .fault)
  | "json", none =>
    if part = .top || s.json then throw .fault
    return { s with json := true }
  | _, _ => throw .fault

/-- Read an operand. -/
def readOperand (part : Part) (s : Said) (value : String) : Except Stop Said := do
  let taken := s.hasOperand
  let s ← s.settle part
  if !part.takesOperand || taken then throw .fault
  return { s with pending := .operand value }

/-- Read operands to the end. -/
def readOperands (part : Part) (s : Said) (args : List String) : Except Stop Said :=
  args.foldlM (readOperand part) s

/-- The name of a long option, and what follows an equals sign. -/
def splitLong (cs : List Char) : String × Option String :=
  match cs.dropWhile (· != '=') with
  | [] => (String.ofList cs, none)
  | _ :: value => (String.ofList (cs.takeWhile (· != '=')), some (String.ofList value))

/-- Read an argument that begins with a dash and has more to it. `none` if it is not of that kind.
-/
def readOption? (part : Part) (s : Said) (arg : String) : Option (Except Stop Said) :=
  match arg.toList with
  | '-' :: '-' :: c :: cs =>
    let (name, value) := splitLong (c :: cs)
    some (readLong part s name value)
  | '-' :: c :: cs => some (readLetters part s (c :: cs))
  | _ => none

end Said

/-- An argument that ends the options. -/
def endsOptions (arg : String) : Bool := arg = "--"

/-- Read what comes after the name of a command. -/
def readPart (part : Part) (s : Said) : List String → Except Stop Said
  | [] => s.settle part
  | arg :: rest => do
    if endsOptions arg then (← Said.readOperands part s rest).settle part
    else match Said.readOption? part s arg, s.pending with
      | some read, _ => readPart part (← read) rest
      | none, .configWithout => readPart part { s with pending := .config arg } rest
      | none, _ => readPart part (← s.readOperand part arg) rest

/-- The command that a part asks for. -/
def commandOf (part : Part) (operand : Option String) : Except Stop Command :=
  match part, operand with
  | .schema, _ => .ok .schema
  | .hints, some typeName => .ok (.hints typeName)
  | .check, some file => .ok (.check file)
  | _, _ => .error .fault

/-- Read the names of commands for which help is asked. -/
def readHelp : List String → Stop
  | [] => .help
  | [name] => if (Part.named? name).isSome || name = "help" then .help else .fault
  | _ => .fault

/-- Read a command line from its first argument, given what has been said before a command. -/
def readFrom (s : Said) : List String → Except Stop Invocation
  | [] => .error .fault
  | arg :: rest =>
    if endsOptions arg then .error .fault
    else match Said.readOption? .top s arg, s.pending, Part.named? arg with
      | some read, _, _ => do readFrom (← read) rest
      | none, .configWithout, _ => readFrom { s with pending := .config arg } rest
      | none, _, some part => do
        let t ← readPart part {} rest
        let command ← commandOf part t.operand
        let s ← s.settle .top
        return {
          verbosity := if t.verbosity = 0 then s.verbosity else t.verbosity
          config := t.config <|> s.config
          command
          json := t.json }
      | none, _, none => .error (if arg = "help" then readHelp rest else .fault)

/-- Read a command line. -/
def Invocation.ofArguments (args : List String) : Except Stop Invocation := readFrom {} args

end TypedManifest.CommandLine
