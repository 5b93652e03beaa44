/-
# The evaluator

Evaluation walks the tree.  There are two tasks: evaluating a node in a scope,
and applying a value to arguments.  `step` does one task and hands every task
inside it to its argument `next`; `perform` ties the knot, at most `depth`
tasks deep.  What the functions of the host do is a parameter of it all.

## Calls

A call works on a copy of the frame that its closure was made in, and commits
the copy only when the body completes.  Frames are not chained: the copy has all that the
frame binds, and the parameters on top.  When the call ends the copy is given up, unless a
closure was made in it, which may be called later.

## Faults

A mishap inside a call becomes a diagnostic at that call; a diagnostic passes through calls
as it is, and each `include` that it passes through puts one layer around it.  A mishap that
is in no call of the included file passes through the `include`, which is not a call.  Where
the words for a diagnostic cannot be found, the call or the `include` stops with the
obstacle, which is a matter for the call around it.

## Includes

An included file is scanned, parsed and evaluated in the scope of the `include`, in the same
frame, but with itself as the source: places in it, and the includes that start at it, are
its own.  Its path is taken from the directory of the source in which the `include` stands,
or from where the includes of the run start if that source has no file.
-/
import Scriptlet.Eval.Host
import Scriptlet.Source.Read
import Scriptlet.Syntax.Grammar

namespace Scriptlet

/-- Where a node is evaluated: its frame, the source that it comes from and the
runner that evaluates it. -/
structure Scope where
  frame : FrameRef
  source : Source
  recorder : RecorderRef
  deriving Inhabited

/-- Something to evaluate. -/
inductive Task where
  | eval (scope : Scope) (node : Node)
  | apply (f : Value) (args : List Value)

namespace Evaluator

def evalAll (next : Task → Run Value) (scope : Scope) : List Node → Run (List Value)
  | [] => return []
  | node :: rest => do
    let v ← next (.eval scope node)
    let vs ← evalAll next scope rest
    return v :: vs

/-- Evaluates statements in order; the value is that of the last, or `last`. -/
def evalStatements (next : Task → Run Value) (scope : Scope) (last : Value) :
    List Node → Run Value
  | [] => return last
  | node :: rest => do
    let v ← next (.eval scope node)
    evalStatements next scope v rest

/-- Turns what goes wrong in a call into a diagnostic at the call. -/
def blameCall {α : Type} (callee : String) (location : Location) : Fault → Run α
  | .script d => throw (.script d)
  | .raised mishap =>
    Run.report (.callFailed callee mishap.category mishap.reason) location
  | .exhausted => Run.report .recursionTooDeep location
  | .interrupted kind => throw (.interrupted kind)
  | .wordlessFailure why => throw why.fault
  | .wordlessError why => throw (.wordlessError why)

def evalCall (next : Task → Run Value) (scope : Scope) (callee : String) (args : List Node)
    (location : Location) : Run Value := do
  let f ← Run.lookup scope.frame callee
  match f.callable? with
  | none => Run.report (.notCallable callee f.kindWord) location
  | some _ =>
    let values ← evalAll next scope args
    (next (.apply f values)).onFault (blameCall callee location)

/-- Evaluates a body in a working copy of the frame that a closure was made in,
and commits the copy when the body completes.  The copy is given up unless a
closure was made in it. -/
def invoke (next : Task → Run Value) (c : Closure) (args : List Value) : Run Value := do
  let captured ← Run.frame c.frame
  let working ← Run.newFrame (captured.bindParams c.params args)
  let result ← (next (.eval ⟨working, c.source, c.recorder⟩ c.body)).onFault fun fault => do
    modify (·.release working)
    throw fault
  let committed ← Run.frame working
  modify fun s => (s.release working).modifyFrame c.frame (·.commit committed)
  return result

def makeClosure (scope : Scope) (params : List String) (body : Node) : Run Value := do
  let id ← Run.freshMark
  modify (·.capture scope.frame)
  return .function (.closure ⟨id, params, body, scope.source, scope.frame, scope.recorder⟩)

/-! ## Including files -/

/-- An error inside an included file, with its place. -/
def includeDetail (d : Diagnostic) : String :=
  match d.location with
  | none => d.message
  | some loc =>
    d.stage.label ++ " at " ++ loc.source.name ++ ":" ++ toString loc.line ++ ":" ++
      toString loc.column ++ ": " ++ d.message

/-- Puts the layer of one `include` around a fault. -/
def blameInclude {α : Type} (path : String) (location : Location) : Fault → Run α
  | .script d => Run.report (.includeFailed path (includeDetail d)) location
  | .raised mishap => Run.raise mishap
  | .exhausted => Run.report (.includeFailed path "maximum recursion depth exceeded") location
  | .interrupted kind => throw (.interrupted kind)
  | .wordlessFailure why => throw (.wordlessFailure why)
  | .wordlessError why => throw why.fault

/-- Reads tokens and tree of a source. -/
def load (source : Source) : Run (List Token × Node) :=
  match tokenize source with
  | .error (.refused d) => throw (.script d)
  | .error (.tooManyDigits fault) => Run.raise (.literalTooLong fault)
  | .ok tokens =>
    match parseProgram source tokens with
    | .error d => throw (.script d)
    | .ok program => return (tokens, program)

/-- The path that the arguments of an `include` give. -/
def includePath? : List Value → Option String
  | [.text path] => some path
  | _ => none

/-- The directory from which an `include` in a scope resolves relative paths. -/
def includeBase (s : Store) (scope : Scope) : Option String :=
  (scope.source.directory s.world.place).or (s.recorder scope.recorder).sourceDir

/-- Reads the file that an `include` in a scope means by `path`, and notes that it was
asked for. -/
def fetch (scope : Scope) (path : String) : Run (Except File.Fault Source) := fun s =>
  let base := includeBase s scope
  let asked :=
    match File.Path.resolve s.world.place path base with
    | .ok full => { s with requested := full :: s.requested }
    | .error _ => s
  .ok (Source.read s.world .utf8 path base) asked

def evalInclude (next : Task → Run Value) (scope : Scope) (args : List Node)
    (location : Location) : Run Value := do
  let values ← evalAll next scope args
  match includePath? values with
  | none => Run.report .includeArguments location
  | some path =>
    match ← fetch scope path with
    | .error fault => Run.report (.includeFailed path fault.reason) location
    | .ok source =>
      let body : Run Value := do
        let (_, program) ← load source
        next (.eval { scope with source := source } program)
      body.onFault (blameInclude path location)

/-! ## Tasks -/

/-- The word that calls for another file. -/
def includeWord : String := "include"

def evalNode (next : Task → Run Value) (scope : Scope) : Node → Run Value
  | .literal value _ => return .ofLiteral value
  | .comment _ _ => return .nothing
  | .identifier name _ => Run.lookup scope.frame name
  | .assignment name value _ => do
    let v ← next (.eval scope value)
    Run.bindName scope.frame name v
    return v
  | .statements items _ => evalStatements next scope .nothing items
  | .block items _ _ => evalStatements next scope .nothing items
  | .list items _ => do
    let values ← evalAll next scope items
    Run.newList values.toArray
  | .call callee args span =>
    let location := Location.ofSpan scope.source span
    if callee == includeWord then evalInclude next scope args location
    else evalCall next scope callee args location
  | .function params body _ => makeClosure scope params body

def applyValue (host : Host) (next : Task → Run Value) (f : Value) (args : List Value) :
    Run Value :=
  let call (g : Value) (xs : List Value) : Run Value := next (.apply g xs)
  match f with
  | .function (.closure c) => invoke next c args
  | .function (.library recorder g) => g.apply call recorder args
  | .function (.host g) => host.apply call g args
  | v => Run.raise (.notCallable v.typeWord)

def step (host : Host) (next : Task → Run Value) : Task → Run Value
  | .eval scope node => evalNode next scope node
  | .apply f args => applyValue host next f args

def perform (host : Host) : Nat → Task → Run Value
  | 0, _ => throw .exhausted
  | depth + 1, task => step host (perform host depth) task

/-- Evaluates a whole program, up to a given depth. -/
def runProgram (host : Host) (depth : Nat) (scope : Scope) (program : Node) : Run Value :=
  (perform host depth (.eval scope program)).onFault fun fault =>
    match fault with
    | .exhausted => Run.report .recursionTooDeep (.ofSpan scope.source program.span)
    | fault => throw fault

end Evaluator

end Scriptlet
