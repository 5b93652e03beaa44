/-
# The stages of a run

To run a script is to forget what was heard before, to have the script scanned and parsed,
to dump what came of that if the runner is one that dumps, to evaluate the program, and to
make an execution of what came of the evaluation.  The runner's own definition does all of
it in one; here the stages are apart, each with what it comes to:

    begun      the store after the first stage
    dumped     the store in which the evaluation begins
    conclude   what the runner makes of the outcome of the evaluation

`handle_eq` puts the first and the last around the evaluation, and `evaluate_of_refused`,
`evaluate_of_tooManyDigits`, `evaluate_of_unparsed` and `evaluate_of_parsed` say what comes
of a source in the four ways in which it can be read.  Later modules argue about these and
never open the definitions again.

Which law rests on which stage:

    begun       scripts do not bear on the ones before them        `Debugging`, `Sequel`
    dumped      dumps bear on nothing                              `Debugging`
    evaluate    refused scripts change nothing                     `Outcomes`
    conclude    what becomes an execution, and what escapes        `Outcomes`, `Reports`

The last section has a runner with nothing but the library, in the store in which it was
made, and says how a script of a few statements runs there.
-/
import Scriptlet.Proofs.Evaluation.Replay
import Scriptlet.Proofs.Token.Positions
import Scriptlet.Runner.Basic

namespace Scriptlet

open Evaluator

/-! ## Beginnings and ends -/

/-- The store in which a run begins: the runner has heard nothing. -/
def Runner.begun (runner : Runner) (s : Store) : Store :=
  s.setRecorder runner.recorder ⟨#[], some (runner.startDir s.world)⟩

/-- What a runner lets through of a fault that is no diagnostic. -/
def Fault.late : Fault → Fault
  | .wordlessError why => why.lateFault
  | fault => fault

def Runner.conclude (runner : Runner) :
    EStateM.Result Fault Store Value → EStateM.Result Fault Store Execution
  | .ok value s => .ok { status := .success, value := value, effects := runner.heard.copy s } s
  | .error (.script d) s =>
    let told := s.record runner.recorder (.stderr d.format)
    .ok
      { status := .error, error := some d, errorMessage := some d.format
        effects := runner.heard.copy told } told
  | .error fault s => .error fault.late s

theorem Runner.handle_eq (runner : Runner) (host : Host) (source : Source) (s : Store) :
    runner.handle host source s =
      runner.conclude (runner.evaluate host source (runner.begun s)) := by
  have hreset : runner.reset s = .ok () (runner.begun s) := rfl
  unfold Runner.handle
  dsimp only
  rw [Run.bind_of_ok hreset]
  cases runner.evaluate host source (runner.begun s) with
  | ok value t => rfl
  | error fault t =>
      cases fault with
      | _ => rfl

def Runner.scope (runner : Runner) (source : Source) : Scope :=
  ⟨runner.root, source, runner.recorder⟩

/-- The store in which the evaluation begins: with `debug`, the runner has heard the dumps. -/
def Runner.dumped (runner : Runner) (tokens : List Token) (program : Node) (s : Store) : Store :=
  if runner.debug then (runner.dump tokens program).after s else s

theorem Runner.dumped_of_not_debug {runner : Runner} (h : runner.debug = false)
    (tokens : List Token) (program : Node) (s : Store) : runner.dumped tokens program s = s := by
  rw [dumped, h]
  rfl

/-! ## Reading -/

section Reading

variable {runner : Runner} {host : Host} {source : Source} {s : Store} {d : Diagnostic}
  {digits : TooManyDigits} {tokens : List Token} {program : Node}

theorem load_of_parsed (h : tokenize source = .ok tokens)
    (hparse : parseProgram source tokens = .ok program) (s : Store) :
    load source s = .ok (tokens, program) s := by
  simp only [load, h, hparse]
  rfl

theorem evaluate_of_refused (h : tokenize source = .error (.refused d)) :
    runner.evaluate host source s = .error (.script d) s := by
  refine Run.bind_of_error ?_
  simp only [load, h]
  rfl

theorem evaluate_of_tooManyDigits (h : tokenize source = .error (.tooManyDigits digits)) :
    runner.evaluate host source s = .error (.raised (.literalTooLong digits)) s := by
  refine Run.bind_of_error ?_
  simp only [load, h]
  rfl

theorem evaluate_of_unparsed (h : tokenize source = .ok tokens)
    (hparse : parseProgram source tokens = .error d) :
    runner.evaluate host source s = .error (.script d) s := by
  refine Run.bind_of_error ?_
  simp only [load, h, hparse]
  rfl

theorem evaluate_of_parsed (h : tokenize source = .ok tokens)
    (hparse : parseProgram source tokens = .ok program) :
    runner.evaluate host source s =
      runner.start host source program (runner.dumped tokens program s) := by
  have hevaluate := Run.bind_of_ok (f := fun loaded => do
    if runner.debug then runner.dump loaded.1 loaded.2
    runner.start host source loaded.2) (load_of_parsed h hparse s)
  refine hevaluate.trans ?_
  dsimp only
  unfold Runner.dumped
  split
  · rfl
  · rfl

/-- Without dumps a program is evaluated where its run begins, as deep as the world allows. -/
theorem handle_of_parsed (hdebug : runner.debug = false) (h : tokenize source = .ok tokens)
    (hparse : parseProgram source tokens = .ok program) :
    runner.handle host source s =
      runner.conclude (runProgram host s.world.limits.tasks (runner.scope source) program
        (runner.begun s)) := by
  rw [Runner.handle_eq, evaluate_of_parsed h hparse, Runner.dumped_of_not_debug hdebug]
  rfl

theorem stage_of_refused (h : tokenize source = .error (.refused d)) : d.stage = .scanning := by
  obtain ⟨c, rest, -, rfl⟩ := stray_of_refused h
  rfl

theorem stage_of_unparsed (h : parseProgram source tokens = .error d) : d.stage = .parsing := by
  simp only [parseProgram, Parser.wholeProgram] at h
  split at h
  · simp only [Parser.Input.complete, Parser.Input.explainRest] at h
    split at h
    · cases h
      split
      · split
        · rfl
        · rfl
      · rfl
    · cases h
  · cases h
    rfl
  · cases h
    rfl

end Reading

/-! ## Evaluating -/

section Evaluating

variable {host : Host} {depth : Nat} {scope : Scope} {program : Node} {s s' : Store} {v : Value}
  {fault : Fault}

theorem runProgram_of_ok (h : perform host depth (.eval scope program) s = .ok v s') :
    runProgram host depth scope program s = .ok v s' := by
  unfold runProgram Run.onFault
  rw [h]

theorem runProgram_of_error (h : perform host depth (.eval scope program) s = .error fault s')
    (hdeep : fault ≠ .exhausted) : runProgram host depth scope program s = .error fault s' := by
  unfold runProgram Run.onFault
  rw [h]
  cases fault with
  | exhausted => exact absurd rfl hdeep
  | _ => rfl

/-- A whole program stops as its evaluation does, but that nesting too deep is reported. -/
theorem error_of_runProgram (h : runProgram host depth scope program s = .error fault s') :
    perform host depth (.eval scope program) s = .error fault s' ∧ fault ≠ .exhausted ∨
      fault = .script ⟨.evaluation, .recursionTooDeep,
        some (.ofSpan scope.source program.span)⟩ := by
  unfold runProgram at h
  obtain ⟨e, s₁, hperform, hhandled⟩ := Run.error_of_onFault h
  cases e with
  | exhausted =>
      cases hhandled
      exact .inr rfl
  | _ =>
      cases hhandled
      exact .inl ⟨hperform, nofun⟩

theorem ok_of_runProgram (h : runProgram host depth scope program s = .ok v s') :
    perform host depth (.eval scope program) s = .ok v s' := by
  cases hperform : perform host depth (.eval scope program) s with
  | ok w t => exact (runProgram_of_ok hperform).symm.trans h
  | error fault t =>
      unfold runProgram Run.onFault at h
      rw [hperform] at h
      cases fault with
      | _ => cases h

/-- A program that finishes is its statements, done one task deeper. -/
theorem runProgram_eq_ok_iff {nodes : List Node} {span : Span} :
    runProgram host depth scope (.statements nodes span) s = .ok v s' ↔
      ∃ n, depth = n + 1 ∧ evalStatements (perform host n) scope .nothing nodes s = .ok v s' := by
  constructor
  · intro h
    have hperform := ok_of_runProgram h
    cases depth with
    | zero => cases hperform
    | succ n => exact ⟨n, rfl, hperform⟩
  · rintro ⟨n, rfl, h⟩
    exact runProgram_of_ok h

end Evaluating

/-! ## Runs that succeed, and runs that report -/

section Succeeded

variable {host : Host} {runner : Runner} {source : Source} {s s' : Store} {e : Execution}

/-- The execution of a script that came to a value. -/
def Runner.succeeded (runner : Runner) (v : Value) (s : Store) : Execution :=
  { status := .success, value := v, effects := runner.heard.copy s }

theorem conclude_succeeded {out : EStateM.Result Fault Store Value}
    (h : runner.conclude out = .ok e s') (hstatus : e.status = .success) :
    ∃ v, out = .ok v s' ∧ e = runner.succeeded v s' := by
  cases out with
  | ok v t =>
      cases h
      exact ⟨v, rfl, rfl⟩
  | error fault t =>
      cases fault with
      | script d =>
          cases h
          cases hstatus
      | _ => cases h

/-- A run that succeeds has read a program and finished it. -/
theorem handle_succeeded_iff (hdebug : runner.debug = false) :
    runner.handle host source s = .ok e s' ∧ e.status = .success ↔
      ∃ tokens program v, tokenize source = .ok tokens ∧
        parseProgram source tokens = .ok program ∧
        runProgram host s.world.limits.tasks (runner.scope source) program (runner.begun s) =
          .ok v s' ∧
        e = runner.succeeded v s' := by
  constructor
  · rintro ⟨hrun, hstatus⟩
    cases htokens : tokenize source with
    | error stop =>
        rw [Runner.handle_eq] at hrun
        obtain ⟨v, hevaluate, -⟩ := conclude_succeeded hrun hstatus
        cases stop with
        | refused d => cases (evaluate_of_refused htokens).symm.trans hevaluate
        | tooManyDigits digits => cases (evaluate_of_tooManyDigits htokens).symm.trans hevaluate
    | ok tokens =>
        cases hparse : parseProgram source tokens with
        | error d =>
            rw [Runner.handle_eq] at hrun
            obtain ⟨v, hevaluate, -⟩ := conclude_succeeded hrun hstatus
            cases (evaluate_of_unparsed htokens hparse).symm.trans hevaluate
        | ok program =>
            rw [handle_of_parsed hdebug htokens hparse] at hrun
            obtain ⟨v, hout, rfl⟩ := conclude_succeeded hrun hstatus
            exact ⟨tokens, program, v, rfl, hparse, hout, rfl⟩
  · rintro ⟨tokens, program, v, htokens, hparse, hrun, rfl⟩
    rw [handle_of_parsed hdebug htokens hparse, hrun]
    exact ⟨rfl, rfl⟩

/-- The source has tokens, and they are read as these statements. -/
def Source.IsReadAs (source : Source) (nodes : List Node) : Prop :=
  ∃ tokens span, tokenize source = .ok tokens ∧
    parseProgram source tokens = .ok (.statements nodes span)

/-- A script whose statements come to a value ends with that value. -/
theorem handle_of_finished (hdebug : runner.debug = false) {nodes : List Node} {n : Nat} {v : Value}
    (hlimit : s.world.limits.tasks = n + 1) (hread : source.IsReadAs nodes)
    (hrun : evalStatements (perform host n) (runner.scope source) .nothing nodes
      (runner.begun s) = .ok v s') :
    runner.handle host source s = .ok (runner.succeeded v s') s' := by
  obtain ⟨tokens, span, htokens, hparse⟩ := hread
  exact ((handle_succeeded_iff hdebug).2 ⟨tokens, _, v, htokens, hparse,
    runProgram_eq_ok_iff.2 ⟨n, hlimit, hrun⟩, rfl⟩).1

/-- A script whose statements report an error ends with that error. -/
theorem handle_of_reported (hdebug : runner.debug = false) {nodes : List Node} {n : Nat}
    {d : Diagnostic} (hlimit : s.world.limits.tasks = n + 1) (hread : source.IsReadAs nodes)
    (hrun : evalStatements (perform host n) (runner.scope source) .nothing nodes
      (runner.begun s) = .error (.script d) s') :
    ∃ e t, runner.handle host source s = .ok e t ∧ e.error = some d := by
  obtain ⟨tokens, span, htokens, hparse⟩ := hread
  have hperform : perform host s.world.limits.tasks
      (.eval (runner.scope source) (.statements nodes span)) (runner.begun s) =
        .error (.script d) s' := by
    rw [hlimit]
    exact hrun
  rw [handle_of_parsed hdebug htokens hparse, runProgram_of_error hperform nofun]
  exact ⟨_, _, rfl, rfl⟩

end Succeeded

/-! ## What a runner heard -/

section Heard

variable {runner : Runner} {s : Store}

theorem size_begun (runner : Runner) (s : Store) :
    (runner.begun s).recorders.size = s.recorders.size :=
  Array.size_setIfInBounds

theorem heard_begun (runner : Runner) (s : Store) : runner.heard.read (runner.begun s) = [] := by
  by_cases h : runner.recorder < s.recorders.size <;>
    simp [Runner.heard, EffectList.read, Runner.begun, Store.setRecorder, Store.recorder,
      Array.getD_eq_getD_getElem?, h]

theorem heard_record (runner : Runner) (s : Store) (effect : Effect) :
    runner.heard.read (s.record runner.recorder effect) =
      if runner.recorder < s.recorders.size then runner.heard.read s ++ [effect]
      else runner.heard.read s := by
  have hrecorder : (s.record runner.recorder effect).recorder runner.recorder = _ :=
    getD_modify s.recorders runner.recorder runner.recorder _ {}
  rw [Runner.heard, EffectList.read, hrecorder]
  by_cases hlt : runner.recorder < s.recorders.size
  · rw [if_pos ⟨rfl, hlt⟩, if_pos hlt]
    exact Array.toList_push
  · rw [if_neg fun h => hlt h.2, if_neg hlt]
    rfl

end Heard

/-! ## A runner with the library -/

/-- What comes of a call that is an attempt: an error of the script is caught. -/
def attempted : Except Fault Value → Conduct
  | .error (.script d) => .finish (.ok (.text ("caught " ++ d.stage.label)))
  | outcome => .finish outcome

/-- A host whose functions attempt to call what they are given. -/
def attemptingHost : Host := ⟨fun _ args => .call (args.headD .nothing) [] attempted⟩

/-- A runner with the library, as it is made. -/
def plainRunner : Runner := { recorder := 0, root := 0 }

/-- The store in which it is made, in a given world. -/
def storeIn (world : World) : Store := (Runner.create {}).after { world := world }

def plainStore : Store := storeIn {}

end Scriptlet
