/-
# What an evaluation does to frames, in order

The evaluator again, this time with a log.  A `Traced` computation is a
computation on the store together with the changes that it makes to frames:

    assigned     an assignment bound a name, also one in an included file
    stored       the library bound a name in a frame that it was given as a value
    committed    a call of a closure completed
    hosted       a function of the host changed the store by its own hand

A call that fails leaves no entry of its own, but the entries of what completed inside it
stay, in the order in which they happened.

Nothing is evaluated differently.  Each function below is the one of the same
name in `Evaluator`, `Library` or `Host` with the changes noted, and forgetting
the log gives that function back; `perform_run` says so for whole tasks.  So
`history` is a function of what the evaluator was given, and every law of the
log is a law of the evaluator.

A change of the host is noted as the store before and the store after, since there is
nothing else to be known of it.  Which frames it reached can be read off the two.
-/
import Scriptlet.Eval.Evaluator

namespace Scriptlet

inductive Change where
  /-- An assignment, or an included one, bound a name. -/
  | assigned (frame : FrameRef) (name : String) (value : Value)
  /-- The library bound a name in a frame that it was given as a value. -/
  | stored (frame : FrameRef) (name : String) (value : Value)
  /-- A call of a closure completed, and the bindings of its working copy were
  written back. -/
  | committed (c : Closure) (bindings : Frame)
  /-- A function of the host made the one store out of the other. -/
  | hosted (before after : Store)

/-- A computation together with the changes that it makes to frames. -/
structure Traced (α : Type) where
  run : Run α
  log : Store → List Change

namespace Traced

variable {α β : Type}

/-- One computation after another; a fault keeps the second from being done. -/
def andThen (t : Traced α) (f : α → Traced β) : Traced β where
  run := t.run >>= fun a => (f a).run
  log s := t.log s ++
    match t.run s with
    | .ok a s' => (f a).log s'
    | .error _ _ => []

/-- A computation that changes no frame. -/
def quietly (m : Run α) : Traced α := ⟨m, fun _ => []⟩

/-- A computation that makes one change. -/
def noting (change : Change) (m : Run α) : Traced α := ⟨m, fun _ => [change]⟩

instance : Monad Traced where
  pure a := quietly (pure a)
  bind := andThen

/-- What comes of a computation, as a value. -/
def settle (t : Traced α) : Traced (Except Fault α) := ⟨t.run.settle, t.log⟩

/-- Goes on from a fault; going on changes no frame that a log speaks of. -/
def onFault (t : Traced α) (handler : Fault → Run α) : Traced α :=
  ⟨t.run.onFault handler, t.log⟩

/-- Forgetting the log of a sequence is forgetting the logs of its parts. -/
theorem run_bind_congr {t : Traced α} {m : Run α} {f : α → Traced β} {g : α → Run β}
    (ht : t.run = m) (hf : ∀ a, (f a).run = g a) : (t >>= f).run = m >>= g := by
  show (t.run >>= fun a => (f a).run) = m >>= g
  rw [ht, funext hf]

/-! ## The evaluator with a log -/

section

variable (next : Task → Traced Value)

/-- The computations of tasks without their logs. -/
def runs (next : Task → Traced Value) (task : Task) : Run Value := (next task).run

def evalAll (scope : Scope) : List Node → Traced (List Value)
  | [] => return []
  | node :: rest => do
    let v ← next (.eval scope node)
    let vs ← evalAll scope rest
    return v :: vs

def evalStatements (scope : Scope) (last : Value) : List Node → Traced Value
  | [] => return last
  | node :: rest => do
    let v ← next (.eval scope node)
    evalStatements scope v rest

def evalCall (scope : Scope) (callee : String) (args : List Node) (location : Location) :
    Traced Value := do
  let f ← quietly (Run.lookup scope.frame callee)
  match f.callable? with
  | none => quietly (Run.report (.notCallable callee f.kindWord) location)
  | some _ =>
    let values ← evalAll next scope args
    (next (.apply f values)).onFault (Evaluator.blameCall callee location)

/-- Evaluates the body of a closure in a working copy, and notes the commit. -/
def invoke (c : Closure) (args : List Value) : Traced Value := do
  let captured ← quietly (Run.frame c.frame)
  let working ← quietly (Run.newFrame (captured.bindParams c.params args))
  let result ← (next (.eval ⟨working, c.source, c.recorder⟩ c.body)).onFault fun fault => do
    modify (·.release working)
    throw fault
  let committed ← quietly (Run.frame working)
  noting (.committed c committed)
    (modify fun s => (s.release working).modifyFrame c.frame (·.commit committed))
  return result

def evalInclude (scope : Scope) (args : List Node) (location : Location) :
    Traced Value := do
  let values ← evalAll next scope args
  match Evaluator.includePath? values with
  | none => quietly (Run.report .includeArguments location)
  | some path =>
    match ← quietly (Evaluator.fetch scope path) with
    | .error fault => quietly (Run.report (.includeFailed path fault.reason) location)
    | .ok source =>
      let body : Traced Value := do
        let (_, program) ← quietly (Evaluator.load source)
        next (.eval { scope with source := source } program)
      body.onFault (Evaluator.blameInclude path location)

def evalNode (scope : Scope) : Node → Traced Value
  | .literal value _ => return .ofLiteral value
  | .comment _ _ => return .nothing
  | .identifier name _ => quietly (Run.lookup scope.frame name)
  | .assignment name value _ => do
    let v ← next (.eval scope value)
    noting (.assigned scope.frame name v) (Run.bindName scope.frame name v)
    return v
  | .statements items _ => evalStatements next scope .nothing items
  | .block items _ _ => evalStatements next scope .nothing items
  | .list items _ => do
    let values ← evalAll next scope items
    quietly (Run.newList values.toArray)
  | .call callee args span =>
    let location := Location.ofSpan scope.source span
    if callee == Evaluator.includeWord then evalInclude next scope args location
    else evalCall next scope callee args location
  | .function params body _ => quietly (Evaluator.makeClosure scope params body)

end

/-! ## The library and the host with a log -/

section

variable (call : Value → List Value → Traced Value)

def choose (cond then_ else_ : Value) : Traced Value := do
  if ← quietly (Library.ask fun s => .ok (s.isTrue cond)) then call then_ []
  else
    match else_ with
    | .nothing => return .nothing
    | f => call f []

def callEach (f : Value) (index : Nat) : List Value → Traced Unit
  | [] => return
  | item :: rest => do
    let _ ← call f [item, .int index]
    callEach f (index + 1) rest

def each (items f : Value) : Traced Value := do
  callEach call f 0 (← quietly (Library.ask fun s => Library.iterate s items))
  return .nothing

/-- A way to call that is used where nothing is called. -/
def uncalled (_ : Value) (_ : List Value) : Run Value := return .nothing

/-- Runs a library function, and notes what it puts into a frame. -/
def runLibrary (recorder : RecorderRef) : LibraryFunction → List Value → Traced Value
  | .if, [cond, yes] => choose call cond yes .nothing
  | .if, [cond, yes, no] => choose call cond yes no
  | .if, _ => return .nothing
  | .each, [items, f] => each call items f
  | .each, _ => return .nothing
  | .set, [.frame ref, .text name, value] =>
    noting (.stored ref name value) (Library.set (.frame ref) (.text name) value)
  | f, args => quietly (f.run uncalled recorder args)

/-- Does what a conduct says, and notes what it changes by its own hand. -/
def conduct : Conduct → Traced Value
  | .finish outcome => quietly (Run.ofOutcome outcome)
  | .act edit next => do
    let before ← ⟨Run.exchange edit.make, fun s => [.hosted s (edit.make s)]⟩
    conduct (next before)
  | .call f args next => do
    let outcome ← (call f args).settle
    conduct (next outcome)

/-- Does something after the arguments were found to fit a signature. -/
def checked (sig : Option Signature) (args : List Value) (t : Traced Value) : Traced Value := do
  quietly (match sig with
    | some sig => sig.check args
    | none => pure ())
  t

end

/-! ## Tasks with a log -/

def applyValue (host : Host) (next : Task → Traced Value) (f : Value) (args : List Value) :
    Traced Value :=
  let call (g : Value) (xs : List Value) : Traced Value := next (.apply g xs)
  match f with
  | .function (.closure c) => invoke next c args
  | .function (.library recorder g) => checked g.signature? args (runLibrary call recorder g args)
  | .function (.host g) => conduct call (host.conduct g args)
  | v => quietly (Run.raise (.notCallable v.typeWord))

def step (host : Host) (next : Task → Traced Value) : Task → Traced Value
  | .eval scope node => evalNode next scope node
  | .apply f args => applyValue host next f args

def perform (host : Host) : Nat → Task → Traced Value
  | 0, _ => quietly (throw .exhausted)
  | depth + 1, task => step host (perform host depth) task

/-! ## Forgetting the log -/

section

variable {next : Task → Traced Value}

theorem evalAll_run (scope : Scope) (nodes : List Node) :
    (evalAll next scope nodes).run = Evaluator.evalAll (runs next) scope nodes := by
  induction nodes with
  | nil => rfl
  | cons node rest ih => exact run_bind_congr rfl fun v => run_bind_congr ih fun vs => rfl

theorem evalStatements_run (scope : Scope) (last : Value) (nodes : List Node) :
    (evalStatements next scope last nodes).run =
      Evaluator.evalStatements (runs next) scope last nodes := by
  induction nodes generalizing last with
  | nil => rfl
  | cons node rest ih => exact run_bind_congr rfl fun v => ih v

theorem evalCall_run (scope : Scope) (callee : String) (args : List Node) (location : Location) :
    (evalCall next scope callee args location).run =
      Evaluator.evalCall (runs next) scope callee args location := by
  refine run_bind_congr rfl ?_
  intro f
  cases f.callable? with
  | none => rfl
  | some g => exact run_bind_congr (evalAll_run scope args) fun values => rfl

theorem invoke_run (c : Closure) (args : List Value) :
    (invoke next c args).run = Evaluator.invoke (runs next) c args := rfl

theorem evalInclude_run (scope : Scope) (args : List Node) (location : Location) :
    (evalInclude next scope args location).run =
      Evaluator.evalInclude (runs next) scope args location := by
  refine run_bind_congr (evalAll_run scope args) ?_
  intro values
  cases Evaluator.includePath? values with
  | none => rfl
  | some path =>
      refine run_bind_congr rfl ?_
      intro found
      cases found with
      | error fault => rfl
      | ok source => rfl

theorem evalNode_run (scope : Scope) (node : Node) :
    (evalNode next scope node).run = Evaluator.evalNode (runs next) scope node := by
  cases node with
  | literal value span => rfl
  | comment text span => rfl
  | identifier name span => rfl
  | assignment name value span => rfl
  | statements items span => exact evalStatements_run scope .nothing items
  | block items inner span => exact evalStatements_run scope .nothing items
  | list items span => exact run_bind_congr (evalAll_run scope items) fun values => rfl
  | call callee args span =>
      unfold evalNode Evaluator.evalNode
      dsimp only
      split
      · exact evalInclude_run scope args _
      · exact evalCall_run scope callee args _
  | function params body span => rfl

end

section

variable {call : Value → List Value → Traced Value}

theorem choose_run (cond then_ else_ : Value) :
    (choose call cond then_ else_).run =
      Library.choose (fun g xs => (call g xs).run) cond then_ else_ := by
  refine run_bind_congr rfl ?_
  intro b
  cases b with
  | true => rfl
  | false =>
      cases else_ with
      | _ => rfl

theorem callEach_run (f : Value) (index : Nat) (items : List Value) :
    (callEach call f index items).run =
      Library.callEach (fun g xs => (call g xs).run) f index items := by
  induction items generalizing index with
  | nil => rfl
  | cons item rest ih => exact run_bind_congr rfl fun _ => ih (index + 1)

theorem each_run (items f : Value) :
    (each call items f).run = Library.each (fun g xs => (call g xs).run) items f :=
  run_bind_congr rfl fun found => run_bind_congr (callEach_run f 0 found) fun _ => rfl

/-- A function of the library that is neither `if` nor `each` does not look at
the way to call that it is given. -/
theorem run_uncalled {f : LibraryFunction} (hif : f ≠ .if) (heach : f ≠ .each)
    (call : Value → List Value → Run Value) (recorder : RecorderRef) (args : List Value) :
    f.run uncalled recorder args = f.run call recorder args := by
  unfold LibraryFunction.run
  split
  case h_12 => exact absurd rfl hif
  case h_13 => exact absurd rfl hif
  case h_14 => exact absurd rfl heach
  all_goals rfl

theorem runLibrary_run (recorder : RecorderRef) (f : LibraryFunction) (args : List Value) :
    (runLibrary call recorder f args).run =
      f.run (fun g xs => (call g xs).run) recorder args := by
  -- The two functions that call back first; all others are run as they are.
  by_cases hif : f = .if
  · subst hif
    match args with
    | [] => rfl
    | [_] => rfl
    | [cond, yes] => exact choose_run cond yes .nothing
    | [cond, yes, no] => exact choose_run cond yes no
    | _ :: _ :: _ :: _ :: _ => rfl
  by_cases heach : f = .each
  · subst heach
    match args with
    | [] => rfl
    | [_] => rfl
    | [items, g] => exact each_run items g
    | _ :: _ :: _ :: _ => rfl
  · unfold runLibrary
    split
    all_goals first
      | exact absurd rfl hif
      | exact absurd rfl heach
      | rfl
      | exact run_uncalled hif heach _ recorder _

theorem conduct_run (conduct : Conduct) :
    (Traced.conduct call conduct).run = conduct.run fun g xs => (call g xs).run := by
  induction conduct with
  | finish outcome => rfl
  | act edit next ih => exact run_bind_congr rfl fun before => ih before
  | call f args next ih => exact run_bind_congr rfl fun outcome => ih outcome

theorem applyLibrary_run (recorder : RecorderRef) (f : LibraryFunction) (args : List Value) :
    (checked f.signature? args (runLibrary call recorder f args)).run =
      f.apply (fun g xs => (call g xs).run) recorder args := by
  unfold LibraryFunction.apply
  cases f.signature? with
  | none => exact runLibrary_run recorder f args
  | some sig => exact run_bind_congr rfl fun _ => runLibrary_run recorder f args

end

theorem applyValue_run (host : Host) {next : Task → Traced Value} (f : Value)
    (args : List Value) :
    (applyValue host next f args).run = Evaluator.applyValue host (runs next) f args := by
  cases f with
  | function g =>
      cases g with
      | closure c => exact invoke_run c args
      | library recorder g => exact applyLibrary_run recorder g args
      | host g => exact conduct_run (host.conduct g args)
  | _ => rfl

theorem step_run {next : Task → Traced Value} (host : Host) (task : Task) :
    (step host next task).run = Evaluator.step host (runs next) task := by
  cases task with
  | eval scope node => exact evalNode_run scope node
  | apply f args => exact applyValue_run host f args

/-- Forgetting the log of a task leaves what the evaluator does. -/
theorem perform_run (host : Host) (depth : Nat) (task : Task) :
    (perform host depth task).run = Evaluator.perform host depth task := by
  induction depth generalizing task with
  | zero => rfl
  | succ depth ih =>
      have hnext : runs (perform host depth) = Evaluator.perform host depth := funext ih
      show (step host (perform host depth) task).run = _
      rw [step_run, hnext]
      rfl

end Traced

/-- The changes of frames that a task makes from a store, in order. -/
def history (host : Host) (depth : Nat) (task : Task) (s : Store) : List Change :=
  (Traced.perform host depth task).log s

end Scriptlet
