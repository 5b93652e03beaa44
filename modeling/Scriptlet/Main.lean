/-
# The program

Reads the arguments, the files and standard input, lets `Command` decide what
comes of them, and writes that out.  Evaluation is a function of the files that
are known; when it has asked for files that are not known yet, they are read
and the command is run again from where it began.
-/
import Scriptlet.Runner.Command

namespace Scriptlet.Main

/-- The files read so far, and the paths that were tried. -/
structure Known where
  files : File.Tree := .empty
  tried : List String := []

/-- The components of an absolute path. -/
def partsOf (path : String) : List String :=
  (File.Path.components path).filter fun part => part != "" && part != "."

/-- Tries to read a file; a directory in its place is noted as one. -/
def Known.fetch (known : Known) (path : String) : IO Known := do
  let tried := path :: known.tried
  try
    let bytes ← IO.FS.readBinFile path
    return ⟨known.files.insert (partsOf path) (.file bytes), tried⟩
  catch e =>
    match e with
    | .inappropriateType .. =>
      return ⟨known.files.insert (partsOf path) .empty, tried⟩
    | _ => return { known with tried := tried }

/-- The paths that a run asked for and that were not tried yet. -/
def Known.missing (known : Known) (s : Store) : List String :=
  (s.requested.filter fun path => !known.tried.contains path).eraseDups

/-- Runs a computation, reading the files that it asks for. -/
partial def settle {α : Type} (place : File.Place) (known : Known) (m : Run α)
    (s : Store) : IO (EStateM.Result Fault Store α × Known) := do
  let result := m { s with world := { place := place, files := known.files } }
  let after := match result with
    | .ok _ s' => s'
    | .error _ s' => s'
  match known.missing after with
  | [] => return (result, known)
  | paths => settle place (← paths.foldlM Known.fetch known) m s

/-- The home directory of every user in a list of accounts.  An account is a
line of seven fields with colons between them: the name is the first field and
the home directory the sixth. -/
def homesOf (accounts : String) : List (String × String) :=
  (accounts.splitOn "\n").filterMap fun line =>
    match line.splitOn ":" with
    | [name, _, _, _, _, home, _] => some (name, home)
    | _ => none

/-- The list of accounts, empty where there is none. -/
def accounts : IO String := do
  try
    IO.FS.readFile "/etc/passwd"
  catch _ =>
    return ""

/-- Writes lines, given the latest first. -/
def writeLines (stream : IO.FS.Stream) (lines : List String) : IO Unit := do
  stream.putStr (Command.Written.text lines)
  stream.flush

/-- Writes what a command wrote. -/
def write (w : Command.Written) : IO Unit := do
  writeLines (← IO.getStdout) w.stdout
  writeLines (← IO.getStderr) w.stderr

/-- Reports a fault that is not a diagnostic. -/
def complain (fault : Fault) : IO UInt32 := do
  let line := match fault with
    | .script d => d.format
    | .raised mishap => mishap.category ++ ": " ++ mishap.reason
    | .interrupted kind => kind
    | .exhausted | .wordlessFailure _ | .wordlessError _ => Cause.recursionTooDeep.message
  writeLines (← IO.getStderr) [line]
  return 1

/-- A command that is given all its input at once. -/
def runAtOnce (place : File.Place) (known : Known) (request : Command.Request) : IO UInt32 := do
  match ← settle place known (Command.run request) {} with
  | (.ok (status, written) _, _) =>
    write written
    return UInt32.ofNat status
  | (.error fault _, _) => complain fault

/-- Takes typed lines, one by one. -/
partial def converse (place : File.Place) (known : Known) (runner : Runner) (s : Store) :
    IO UInt32 := do
  (← IO.getStdout).putStr ">> "
  (← IO.getStdout).flush
  let typed ← (← IO.getStdin).getLine
  if typed.isEmpty then
    writeLines (← IO.getStdout) [Command.farewell]
    return 0
  match ← settle place known (Command.takeLine runner .none {} typed) s with
  | (.ok (written, goesOn) s', known') =>
    write written
    if goesOn then converse place known' runner s' else return 0
  | (.error fault _, _) => complain fault

end Scriptlet.Main

open Scriptlet in
/-- Runs a script file, the script on standard input, or a session. -/
def main (args : List String) : IO UInt32 := do
  let here := toString (← IO.currentDir)
  let place : File.Place :=
    ⟨here, (← IO.getEnv "HOME").getD "/", Main.homesOf (← Main.accounts)⟩
  let debug := (← IO.getEnv "TINYFN_DEBUG").getD ""
  match Command.fileArgument? args with
  | some path =>
    let known ← Main.Known.fetch {} (File.Path.join here (Command.tidyPath path))
    Main.runAtOnce place known { args := args, debug := debug }
  | none =>
    let input ← IO.getStdin
    if ← input.isTty then
      Main.write Command.greeting
      match Command.createRunner debug { world := { place := place } } with
      | .ok runner s => Main.converse place {} runner s
      | .error fault _ => Main.complain fault
    else
      let text ← input.readToEnd
      Main.runAtOnce place {} { args := args, input := .piped text, debug := debug }
