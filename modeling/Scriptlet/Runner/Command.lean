/-
# The command line

A command runs the script in a file, or the script on standard input, or, at a
terminal, the lines that are typed, one by one, until `exit`, the end of input
or an interrupt.  What it writes is collected here; writing it out is left to
the program around it.

A file that is not there is reported and ends with status 1.  Every other fault
that is not a diagnostic escapes.
-/
import Scriptlet.Runner.Basic

namespace Scriptlet.Command

inductive Input where
  /-- A text that is not typed. -/
  | piped (text : String)
  /-- Typed lines, ended by an interrupt or by the end of input. -/
  | typed (lines : List String)

/-- What is asked of a command. -/
structure Request where
  args : List String := []
  input : Input := .typed []
  /-- The setting that asks for dumps. -/
  debug : String := ""

/-- What a command wrote, line by line, the latest first. -/
structure Written where
  stdout : List String := []
  stderr : List String := []
  deriving Inhabited

namespace Written

/-- Writes a line to standard output. -/
def out (w : Written) (line : String) : Written := { w with stdout := line :: w.stdout }

/-- Writes a line to standard error. -/
def err (w : Written) (line : String) : Written := { w with stderr := line :: w.stderr }

/-- Lines as one text, given the latest first. -/
def text (lines : List String) : String := String.join (lines.reverse.map (· ++ "\n"))

/-- Writes one effect to the stream that it belongs to. -/
def effect (w : Written) (e : Effect) : Written :=
  if e.topics == ["stdout"] then w.out e.message
  else if e.topics == ["debug"] then w.err e.message
  else w

/-- Writes the effects of a run, and its error. -/
def execution (s : Store) (w : Written) (e : Execution) : Written :=
  let written := (e.effects.read s).foldl effect w
  match e.status with
  | .success => written
  | .error => written.err e.formatError

end Written

/-- Whether the setting asks for dumps: anything but nothing and `0` does. -/
def debugEnabled (value : String) : Bool := value != "" && value != "0"

/-- The status that a run ends with. -/
def exitStatus (e : Execution) : Nat :=
  match e.status with
  | .success => 0
  | .error => 1

/-- Runs a whole program. -/
def runSource (runner : Runner) (host : Host) (text name : String) (path : Option String) :
    Run (Nat × Written) := do
  let execution ← runner.handleText host text name path
  let written ← Library.ask fun s => .ok (({} : Written).execution s execution)
  return (exitStatus execution, written)

/-- A path without `.` components and doubled slashes, as commands name files. -/
def tidyPath (path : String) : String :=
  let parts := (File.Path.components path).filter fun part => part != "" && part != "."
  let slashes := File.Path.leadingSlashes path
  let text := String.ofList (List.replicate slashes '/') ++ File.Path.ofComponents parts
  if text == "" then "." else text

def runFile (runner : Runner) (host : Host) (path : String) : Run (Nat × Written) := do
  let name := tidyPath path
  match ← Run.textAt name with
  | .error (.notFound _) => return (1, ({} : Written).err ("Error: file not found: " ++ path))
  | .error fault => Run.raise (.file fault)
  | .ok text => runSource runner host text name (some name)

/-- What a session says when it ends by itself. -/
def farewell : String := "\nExiting."

/-- The line that ends a session. -/
def exitWord : String := "exit"

/-- Runs one typed line and writes what comes of it. -/
def runLine (runner : Runner) (host : Host) (w : Written) (line : String) :
    Run Written := do
  let execution ← runner.handleText host line "<repl>" none
  let written ← Library.ask fun s => .ok (w.execution s execution)
  match execution.status, execution.value with
  | .error, _ | .success, .nothing => return written
  | .success, value =>
    return written.out (← Library.ask fun s => (s.render value).mapError Obstacle.fault)

/-- Takes one typed line, and says whether the session goes on. -/
def takeLine (runner : Runner) (host : Host) (w : Written) (typed : String) :
    Run (Written × Bool) := do
  let line := String.ofList (Text.trimBlanks typed.toList)
  if line == "" then return (w, true)
  else if line == exitWord then return (w, false)
  else
    let written ← runLine runner host w line
    return (written, true)

/-- Takes typed lines until one of them ends the session. -/
def runLines (runner : Runner) (host : Host) (w : Written) : List String → Run Written
  | [] => return w.out farewell
  | typed :: rest => do
    let (written, goesOn) ← takeLine runner host w typed
    if goesOn then runLines runner host written rest else return written

/-- What a session says when it begins. -/
def greeting : Written :=
  (({} : Written).out "tinyfn REPL").out "Type 'exit' or press Ctrl+D to quit."

/-- A session at a terminal. -/
def interact (runner : Runner) (host : Host) (lines : List String) :
    Run (Nat × Written) := do
  let written ← runLines runner host greeting lines
  return (0, written)

/-- The file that the arguments name, if they do: options are passed over. -/
def fileArgument? : List String → Option String
  | [] => none
  | first :: _ => if first.toList.head? == some '-' then none else some first

/-- The runner of a command; its includes start in the working directory. -/
def createRunner (debug : String) : Run Runner := do
  let runner ← Runner.create { debug := debugEnabled debug }
  return { runner with sourceDir := some (← Run.world).place.workingDir }

/-- Does what is asked.  No functions of a host take part. -/
def run (request : Request) : Run (Nat × Written) := do
  let runner ← createRunner request.debug
  match fileArgument? request.args, request.input with
  | some path, _ => runFile runner .none path
  | none, .piped text => runSource runner .none text "<stdin>" none
  | none, .typed lines => interact runner .none lines

end Scriptlet.Command
