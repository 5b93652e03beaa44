/-
# Running scripts

A runner runs scripts one after another against one root frame.  The frame
binds the library first, then the methods of the host's object, then what the
embedding program gives; later bindings shadow earlier ones.

A run has four stages, each of which may be the last.

    reset       what was heard before is forgotten, and where includes start is noted
    load        the source is scanned and parsed
    dump        tokens and tree are recorded, if the runner is one that dumps
    start       the program is evaluated in the root frame

Running a script never stops for a diagnostic: that becomes part of the
execution, and is recorded as one last effect.  A mishap outside every call, as
an integer literal with too many digits is, escapes, and so does what keeps a
diagnostic from being put into words.

All scripts of a runner write to one list of effects, which each of them finds
empty; the execution of a script holds a copy.
-/
import Scriptlet.Eval.Evaluator
import Scriptlet.Runner.Execution
import Scriptlet.Dump.Format

namespace Scriptlet

/-- Runs scripts against a root frame. -/
structure Runner where
  recorder : RecorderRef
  root : FrameRef
  /-- Whether tokens and trees are dumped before evaluation. -/
  debug : Bool := false
  /-- Where includes start in sources that have no file. -/
  sourceDir : Option String := none
  deriving Inhabited

/-- What a new runner is made with. -/
structure Runner.Options where
  library : Bool := true
  /-- What the object of the host has, in the order of the names. -/
  members : List Host.Member := []
  debug : Bool := false
  bindings : List (String × Value) := []

namespace Runner

/-- A new runner. -/
def create (options : Options) : Run Runner := do
  let recorder ← Run.newRecorder
  let given :=
    (if options.library then Library.bindings recorder else []) ++
      Host.bindings options.members ++ options.bindings
  let root ← Run.newFrame (.ofBindings given)
  return { recorder := recorder, root := root, debug := options.debug }

/-- Where the includes of a run start. -/
def startDir (runner : Runner) (world : World) : String :=
  match runner.sourceDir with
  | none => world.place.workingDir
  | some dir => if dir == "" then world.place.workingDir else dir

/-- Forgets what earlier scripts printed, and notes where includes start now. -/
def reset (runner : Runner) : Run Unit := fun s =>
  .ok () (s.setRecorder runner.recorder ⟨#[], some (runner.startDir s.world)⟩)

/-- Records the dumps of tokens and tree. -/
def dump (runner : Runner) (tokens : List Token) (program : Node) : Run Unit := do
  modify fun s =>
    s.record runner.recorder (.debug ("tokens:\n" ++ (Document.ofTokens tokens).write .yaml))
  modify fun s =>
    s.record runner.recorder (.debug ("ast:\n" ++ (Document.ofNode program).write .yaml))

/-- Evaluates a program in the root frame, as deep as the platform goes. -/
def start (runner : Runner) (host : Host) (source : Source) (program : Node) : Run Value :=
  fun s =>
    Evaluator.runProgram host s.world.limits.tasks ⟨runner.root, source, runner.recorder⟩ program s

/-- Reads and evaluates a source. -/
def evaluate (runner : Runner) (host : Host) (source : Source) : Run Value := do
  let (tokens, program) ← Evaluator.load source
  if runner.debug then runner.dump tokens program
  runner.start host source program

/-- The list that all scripts of a runner write to, one after the other. -/
def heard (runner : Runner) : EffectList := .live runner.recorder

/-- Runs a script. -/
def handle (runner : Runner) (host : Host) (source : Source) : Run Execution := fun s =>
  let run : Run Value := do
    runner.reset
    runner.evaluate host source
  match run s with
  | .ok value s' => .ok { status := .success, value := value, effects := runner.heard.copy s' } s'
  | .error (.script d) s' =>
    let message := d.format
    let s'' := s'.record runner.recorder (.stderr message)
    .ok
      { status := .error, error := some d, errorMessage := some message
        effects := runner.heard.copy s'' } s''
  | .error (.wordlessError why) s' => .error why.lateFault s'
  | .error fault s' => .error fault s'

/-- Runs a script given as text. -/
def handleText (runner : Runner) (host : Host) (text : String)
    (name : String) (path : Option String) : Run Execution :=
  runner.handle host { text := text, name := name, path := path }

/-- Runs the script in a file. -/
def handleFile (runner : Runner) (host : Host) (path : String) : Run Execution := do
  match ← Run.textAt path with
  | .error fault => Run.raise (.file fault)
  | .ok text => runner.handleText host text path (some path)

end Runner

/-- The value of a script run by a new runner. -/
def runText (host : Host) (text : String) (bindings : List (String × Value)) :
    Run Value := do
  let runner ← Runner.create { bindings := bindings }
  let execution ← runner.handleText host text "<script>" none
  match execution.error with
  | some d => throw (.script d)
  | none => return execution.value

end Scriptlet
