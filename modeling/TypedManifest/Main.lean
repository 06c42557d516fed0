import TypedManifest.CommandLine.Run

/-!
# The program

The program runs its command line with the files and the environment of the system. The output goes
to the standard output, and the lines beside it to the standard error.
-/

namespace TypedManifest.CommandLine

/-- The number of an error of the system, which may be given with a minus. -/
def errorNumber (code : UInt32) : Nat := min code.toNat (0 - code).toNat

/-- What a failure to read a file means. -/
def fileErrorOf (e : IO.Error) : FileError :=
  match e with
  | .noFileOrDirectory .. => .notFound
  | .inappropriateType _ code _ => if errorNumber code = 20 then .notFolder else .isFolder
  | .invalidArgument _ code _ =>
    if errorNumber code = 36 then .nameTooLong else .other (toString e)
  | e => .other (toString e)

/-- Read a file of the system. -/
def readFile (path : String) : IO (Except FileError String) := do
  if path.toList.contains '\x00' then return .error .nulInName
  match ← (IO.FS.readBinFile path).toBaseIO with
  | .error e => return .error (fileErrorOf e)
  | .ok bytes => return (String.fromUTF8? bytes).elim (.error .notText) .ok

/-- The variables of the environment that are looked at, with their values. -/
def readVariables : IO (List (String × String)) := do
  let values ← Config.variableNames.mapM fun name => return (name, ← IO.getEnv name)
  return values.filterMap fun (name, value) => value.map (name, ·)

end TypedManifest.CommandLine

open TypedManifest.CommandLine in
/-- Run the command line that the program is given. -/
def main (args : List String) : IO UInt32 := do
  let values ← readVariables
  let result ← run readFile (fun name => values.lookup name) args
  IO.print result.output
  result.messages.forM IO.eprintln
  return result.status.toUInt32
