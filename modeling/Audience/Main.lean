import Audience.Program

/-!
# `Audience.Main` — the command line

The outer layer: it takes down the environment and the files that a request can reach, runs the program
on them, and prints how it ends.

## Contents
- **Environment.** `environment`.
- **Files.** `snapshot`.
- **The program.** `main`.
-/

namespace Audience.Main

open CommandLine

/-! ## Environment -/

/-- The variables of this process, as the system keeps them. -/
def environment : IO (List (String × String)) := do
  let bytes ← IO.FS.readBinFile "/proc/self/environ"
  let text := (String.fromUTF8? bytes).getD ""
  return (Text.split '\x00' text).filterMap fun entry =>
    match entry.toList.dropWhile (· ≠ '=') with
    | [] => none
    | _ :: value => some (String.ofList (entry.toList.takeWhile (· ≠ '=')), String.ofList value)

/-! ## Files -/

/-- The bytes of a file, if it can be read. -/
def readFile? (path : String) : IO (Option ByteArray) := do
  try
    return some (← IO.FS.readBinFile path)
  catch _ => return none

/-- The names in a folder, if it can be listed. -/
def listFolder? (path : String) : IO (Option (List String)) := do
  try
    let folder ← IO.FS.realPath path
    return some ((← folder.readDir).toList.map (·.fileName))
  catch _ => return none

/-- The files that a request can reach, taken down at one time. -/
def snapshot (file? dataPath? : Option String) : IO FileSystem := do
  let folder? := dataPath?.map Library.definitionFolder
  let names? ←
    match file?, folder? with
    | none, some folder => listFolder? folder
    | _, _ => pure none
  let listed : FileSystem := ⟨fun _ => none, fun _ => names?⟩
  match Library.sources listed file? dataPath? with
  | .error _ => return listed
  | .ok paths =>
      let contents ← paths.mapM fun path => return (path, ← readFile? path)
      return { listed with read := fun path => (Keyed.lookup? path contents).join }

/-! ## The program -/

/-- The data path of a request in an environment, if its configuration can be loaded. -/
def dataPathOf (env : List (String × String)) (request : Invocation) : Option String :=
  match Environment.load env with
  | .error _ => none
  | .ok c => (Program.effective env request.options c).dataPath

/-- The files that a command line can reach. -/
def filesOf (env : List (String × String)) (args : List String) : IO FileSystem :=
  match parse args with
  | .error _ => return ⟨fun _ => none, fun _ => none⟩
  | .ok request => snapshot request.file (dataPathOf env request)

end Audience.Main

/-- Compiles the definitions that the command line names. -/
def main (args : List String) : IO UInt32 := do
  let env ← Audience.Main.environment
  let files ← Audience.Main.filesOf env args
  let outcome := Audience.Program.run env files args
  IO.print outcome.stdout
  IO.eprint outcome.stderr
  return outcome.exitCode
