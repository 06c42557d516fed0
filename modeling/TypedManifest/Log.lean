import TypedManifest.Hint.Basic

/-!
# What is put on record

A failure that is survived (hints that cannot be had, a description that cannot be read) and the
steps of a command are put on record as entries of a log: a level, a message, and fields with their
values as text.
-/

namespace TypedManifest

/-- How grave an entry is. -/
inductive LogLevel where
  /-- A step of the program. -/
  | debug
  /-- A result. -/
  | info
  /-- A failure that was survived. -/
  | warn
  /-- A failure that ended the command. -/
  | error
  deriving DecidableEq, Repr

/-- An entry of the log. -/
structure LogEntry where
  /-- The level. -/
  level : LogLevel
  /-- What happened. -/
  message : String
  /-- What it happened to: names and texts, in order. -/
  fields : List (String × String) := []
  deriving DecidableEq, Repr

namespace LogLevel

/-- The name of the level. -/
def name : LogLevel → String
  | debug => "DEBUG"
  | info => "INFO"
  | warn => "WARN"
  | error => "ERROR"

/-- How many times more must be asked for before the level is shown. -/
def verbosity : LogLevel → Nat
  | debug => 2
  | info => 1
  | warn => 0
  | error => 0

end LogLevel

/-! ### Lines -/

/-- A character with which a terminal may be given a command: a few of the ASCII controls, and all
of the C1 controls. -/
def isTerminalControl (c : Char) : Bool :=
  ['\x07', '\x08', '\x0c', '\x1b', '\x7f'].contains c || ('\x80' ≤ c && c ≤ '\x9f')

/-- A number below 256 as two hexadecimal digits. -/
def twoDigits (n : Nat) : String := String.ofList [Nat.digitChar (n / 16), Nat.digitChar (n % 16)]

/-- A character in a message, as it is shown. One that could be part of a command to a terminal is
written with its number. -/
def shownChar (c : Char) : String :=
  if !isTerminalControl c then c.toString
  else if c < '\x80' then "\\x" ++ twoDigits c.toNat
  else "\\u\x7b" ++ twoDigits c.toNat ++ "\x7d"

/-- A message, as it is shown. -/
def shownMessage (message : String) : String := String.join (message.toList.map shownChar)

namespace LogEntry

/-- The line that shows the entry. The values of the fields stand as they are. -/
def line (e : LogEntry) : String :=
  e.fields.foldl (fun text (field, value) => s!"{text} {field}={value}")
    s!"{e.level.name} {shownMessage e.message}"

/-- Hints that could not be had, and that are taken to be none. -/
def sourceFailed (source : String) (error : HintError) : LogEntry :=
  ⟨.warn, "hint source failed; offering no suggestions",
    [("source", source), ("error", error.message)]⟩

end LogEntry

end TypedManifest
