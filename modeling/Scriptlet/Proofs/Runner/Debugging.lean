/-
# Running scripts with dumps

A runner that dumps tokens and trees does with every script what it does without, in
session after session: all that differs is that it hears the two dumps first, if the script
is read at all (`debugging_is_transparent`).  What it hears else are the lines that the
script printed, in the order of printing, and then the report if there is one.

## Why

* Evaluation is deaf (`perform_deaf`): the dumps stand in front of what it lets the runner
  hear, and bear on nothing.
* A run forgets what was heard before it (`begun_setRecorder`), which makes the stores of
  both runners equal again before the next script, and keeps what earlier scripts
  printed out of the executions of later ones.
* An execution is given a copy of what its runner heard (`EffectList.copy`).  The runner's own
  list is empty again when the next script begins, but the copy reads the same in every store
  (`Execution.Kept`).

The last two belong together.  There is one list for all scripts of a runner, and it is emptied
in place; an execution that was handed the list itself would lose what it had with the next
script.

## The host

The host may spoil the first of these by looking at what a runner has heard: it would see the
dumps.  So it is asked to be deaf as well (`Host.Deaf`), which also means that it lets runners
hear printed lines at most, and takes back nothing that they heard.
-/
import Scriptlet.Proofs.Evaluation.Hearing
import Scriptlet.Proofs.Runner.Sequel

namespace Scriptlet

open Evaluator

/-! ## Stores that a runner begins with -/

section Stores

variable {runner : Runner} {s : Store}

theorem preceded_nothing (ref : RecorderRef) (s : Store) : s.preceded ref #[] = s := by
  have hrecorders : s.recorders.modify ref
      (fun heard => { heard with effects := #[] ++ heard.effects }) = s.recorders := by
    apply Array.ext_getElem?
    intro i
    rw [Array.getElem?_modify]
    split
    · cases s.recorders[i]? <;> simp
    · rfl
  unfold Store.preceded
  rw [hrecorders]

theorem begun_setRecorder (runner : Runner) (s : Store) (heard : Recorder) :
    runner.begun (s.setRecorder runner.recorder heard) = runner.begun s := by
  unfold Runner.begun Store.setRecorder
  congr 1
  apply Array.ext_getElem?
  intro i
  simp only [Array.getElem?_setIfInBounds, Array.size_setIfInBounds]
  split
  · rfl
  · rfl

theorem begun_preceded (runner : Runner) (s : Store)
    (earlier : Array Effect) :
    runner.begun (s.preceded runner.recorder earlier) = runner.begun s := by
  unfold Runner.begun Store.setRecorder Store.preceded
  congr 1
  apply Array.ext_getElem?
  intro i
  simp only [Array.getElem?_setIfInBounds, Array.getElem?_modify, Array.size_modify]
  split
  · rfl
  · rfl

theorem heard_preceded (h : runner.recorder < s.recorders.size) (earlier : Array Effect) :
    runner.heard.read (s.preceded runner.recorder earlier) =
      earlier.toList ++ runner.heard.read s := by
  have hrecorder : (s.preceded runner.recorder earlier).recorder runner.recorder = _ :=
    getD_modify s.recorders runner.recorder runner.recorder _ {}
  rw [Runner.heard, EffectList.read, hrecorder, if_pos ⟨rfl, h⟩]
  exact Array.toList_append

/-- Two things that a runner hears first stand in front of all that it hears. -/
theorem record_record_begun (runner : Runner) (s : Store)
    (first second : Effect) :
    ((runner.begun s).record runner.recorder first).record runner.recorder second =
      (runner.begun s).preceded runner.recorder #[first, second] := by
  unfold Runner.begun Store.setRecorder Store.preceded Store.record
  congr 1
  apply Array.ext_getElem?
  intro i
  simp only [Array.getElem?_modify, Array.getElem?_setIfInBounds]
  by_cases hi : runner.recorder = i
  · by_cases hlt : i < s.recorders.size
    · simp [hi, hlt]
    · simp [hi, hlt]
  · simp [hi]

end Stores

/-! ## One script -/

/-- The runner, with dumps or without. -/
def Runner.debugging (runner : Runner) (debug : Bool) : Runner := { runner with debug := debug }

/-- The script is read: it has tokens, and they make a tree. -/
def Source.IsRead (source : Source) : Prop :=
  ∃ tokens program, tokenize source = .ok tokens ∧ parseProgram source tokens = .ok program

/-- The dumps of a script: two if it is read, and otherwise none. -/
structure Source.HasDumps (source : Source) (dumps : List Effect) : Prop where
  debug : ∀ dump ∈ dumps, dump.topics = ["debug"]
  read : source.IsRead → dumps.length = 2
  unread : ¬ source.IsRead → dumps = []

/-- The outcome of a script without dumps, and beside it the outcome with dumps: the same
but for what the runner heard, in front of which are the dumps. -/
inductive DumpedBeside (ref : RecorderRef) (source : Source) :
    EStateM.Result Fault Store Execution → EStateM.Result Fault Store Execution → Prop
  | done {e : Execution} {s : Store} {effects dumps : List Effect}
      (heffects : e.effects = .own effects) (h : source.HasDumps dumps) :
      DumpedBeside ref source (.ok e s)
        (.ok { e with effects := .own (dumps ++ effects) } (s.preceded ref dumps.toArray))
  | escaped {fault : Fault} {s : Store} {dumps : List Effect} (h : source.HasDumps dumps) :
      DumpedBeside ref source (.error fault s) (.error fault (s.preceded ref dumps.toArray))

section Script

variable {host : Host} {runner : Runner} {source : Source} {s s' t : Store}
  {dumps : List Effect}

theorem conclude_debugging (runner : Runner) (debug : Bool) :
    (runner.debugging debug).conclude = runner.conclude := rfl

/-- What a runner makes of an outcome in front of which it heard dumps. -/
theorem conclude_preceded (h : source.HasDumps dumps) {m : Run Value}
    (hsize : runner.recorder < (m.after t).recorders.size) :
    DumpedBeside runner.recorder source (runner.conclude (m t))
      (runner.conclude (Run.withStore (Store.preceded runner.recorder dumps.toArray) (m t))) := by
  cases hm : m t with
  | ok v u =>
      rw [Run.after_of_ok hm] at hsize
      have heffects := heard_preceded hsize dumps.toArray
      simp only [Run.withStore, Runner.conclude, EffectList.copy, heffects]
      exact .done rfl h
  | error fault u =>
      rw [Run.after_of_error hm] at hsize
      cases fault with
      | script d =>
          have hheard : runner.recorder <
              (u.record runner.recorder (.stderr d.format)).recorders.size := by
            rwa [Store.record, Array.size_modify]
          have heffects := heard_preceded hheard dumps.toArray
          simp only [Run.withStore, Runner.conclude, Store.record_preceded, EffectList.copy,
            heffects]
          exact .done rfl h
      | _ => exact .escaped h

theorem conclude_unread (h : ¬ source.IsRead) (fault : Fault)
    (hsize : runner.recorder < t.recorders.size) :
    DumpedBeside runner.recorder source (runner.conclude (.error fault t))
      (runner.conclude (.error fault t)) := by
  have hdumps : source.HasDumps [] := ⟨nofun, fun hread => absurd hread h, fun _ => rfl⟩
  have hthrow : (throw fault : Run Value) t = .error fault t := rfl
  have hsame : Run.withStore (Store.preceded runner.recorder #[]) (.error fault t) =
      (.error fault t : EStateM.Result Fault Store Value) :=
    congrArg (EStateM.Result.error fault) (preceded_nothing runner.recorder t)
  have hboth := conclude_preceded hdumps (m := throw fault) hsize
  rw [hthrow, hsame] at hboth
  exact hboth

/-- A script that is read is evaluated where its dumps were heard. -/
theorem dumped_begun (runner : Runner) (s : Store) (tokens : List Token)
    (program : Node) :
    ∃ dumps : List Effect, dumps.length = 2 ∧ (∀ dump ∈ dumps, dump.topics = ["debug"]) ∧
      (runner.debugging true).dumped tokens program (runner.begun s) =
        (runner.begun s).preceded runner.recorder dumps.toArray := by
  refine ⟨[_, _], rfl, ?_, record_record_begun runner s _ _⟩
  intro dump hdump
  rcases List.mem_cons.1 hdump with rfl | hdump
  · rfl
  · rw [List.mem_singleton.1 hdump]
    rfl

section Deaf

variable (hhost : host.Deaf)

include hhost

theorem dumpedBeside_handle (source : Source) (h : runner.recorder < s.recorders.size)
    (hbegun : runner.begun s' = runner.begun s) :
    DumpedBeside runner.recorder source ((runner.debugging false).handle host source s)
      ((runner.debugging true).handle host source s') := by
  have hsize : runner.recorder < (runner.begun s).recorders.size := by
    rw [size_begun]
    exact h
  have hstart (debug : Bool) (t : Store) :
      (runner.debugging debug).begun t = runner.begun t := rfl
  rw [Runner.handle_eq, Runner.handle_eq, conclude_debugging, conclude_debugging, hstart, hstart,
    hbegun]
  cases htokens : tokenize source with
  | error stop =>
      have hunread : ¬ source.IsRead := by
        rintro ⟨tokens, program, htokens', -⟩
        cases htokens.symm.trans htokens'
      cases stop with
      | refused d =>
          rw [evaluate_of_refused htokens, evaluate_of_refused htokens]
          exact conclude_unread hunread _ hsize
      | tooManyDigits fault =>
          rw [evaluate_of_tooManyDigits htokens, evaluate_of_tooManyDigits htokens]
          exact conclude_unread hunread _ hsize
  | ok tokens =>
      cases hparse : parseProgram source tokens with
      | error d =>
          have hunread : ¬ source.IsRead := by
            rintro ⟨tokens', program, htokens', hparse'⟩
            cases htokens.symm.trans htokens'
            cases hparse.symm.trans hparse'
          rw [evaluate_of_unparsed htokens hparse, evaluate_of_unparsed htokens hparse]
          exact conclude_unread hunread _ hsize
      | ok program =>
          obtain ⟨dumps, hlength, hdebug, hdumped⟩ := dumped_begun runner s tokens program
          have hdumps : source.HasDumps dumps :=
            ⟨hdebug, fun _ => hlength, fun hunread =>
              absurd ⟨tokens, program, htokens, hparse⟩ hunread⟩
          -- The limit is the same with and without dumps, for the world is.
          have hdeaf := runProgram_deaf hhost (runner.begun s).world.limits.tasks
            (runner.scope source) program
          have hgrows := (hdeaf.prints (runner.begun s)).grows
          have hboth := conclude_preceded hdumps (Nat.lt_of_lt_of_le hsize hgrows)
          rw [← hdeaf.same _ _ _ hsize] at hboth
          rw [evaluate_of_parsed htokens hparse, evaluate_of_parsed htokens hparse, hdumped]
          exact hboth

theorem evaluate_deaf (source : Source) (hdebug : runner.debug = false) (s : Store) :
    s.Printed ((runner.evaluate host source).after s) := by
  cases htokens : tokenize source with
  | error stop =>
      cases stop with
      | refused d =>
          rw [Run.after_of_error (evaluate_of_refused htokens)]
          exact .refl s
      | tooManyDigits digits =>
          rw [Run.after_of_error (evaluate_of_tooManyDigits htokens)]
          exact .refl s
  | ok tokens =>
      cases hparse : parseProgram source tokens with
      | error d =>
          rw [Run.after_of_error (evaluate_of_unparsed htokens hparse)]
          exact .refl s
      | ok program =>
          have hevaluate : (runner.evaluate host source).after s =
              (runProgram host s.world.limits.tasks (runner.scope source) program).after s := by
            simp only [Run.after, evaluate_of_parsed htokens hparse,
              Runner.dumped_of_not_debug hdebug]
            rfl
          rw [hevaluate]
          exact (runProgram_deaf hhost _ _ _).prints s

end Deaf

/-- What a runner without dumps hears: the lines that were printed, and then the report if
the run came to an error. -/
structure Execution.Orderly (e : Execution) : Prop where
  /-- Whenever it is asked, also when the runner has run other scripts. -/
  heard : ∃ lines : List String, ∀ t, e.effects.read t =
    lines.map .stdout ++ (e.error.map fun d => Effect.stderr d.format).toList
  reported : e.status = .error ↔ e.error.isSome

theorem orderly_of_handle (hhost : host.Deaf) (h : runner.recorder < s.recorders.size)
    (hdebug : runner.debug = false) {e : Execution}
    (hrun : runner.handle host source s = .ok e s') : e.Orderly := by
  have hprinted := evaluate_deaf hhost source hdebug (runner.begun s)
  have hsize : runner.recorder < (runner.begun s).recorders.size := by
    rw [size_begun]
    exact h
  obtain ⟨lines, hlines⟩ := hprinted.lines runner.recorder hsize
  have hheard : runner.heard.read ((runner.evaluate host source).after (runner.begun s)) =
      lines.map .stdout := by
    have hread := congrArg Array.toList hlines
    rw [Array.toList_append] at hread
    exact hread.trans (congrArg (· ++ _) (heard_begun runner s))
  rw [Runner.handle_eq] at hrun
  cases hout : runner.evaluate host source (runner.begun s) with
  | ok v t =>
      rw [Run.after_of_ok hout] at hheard
      rw [hout] at hrun
      cases hrun
      refine ⟨⟨lines, fun _ => ?_⟩, ⟨nofun, nofun⟩⟩
      exact hheard.trans (List.append_nil _).symm
  | error fault t =>
      have hgrows := hprinted.grows
      rw [Run.after_of_error hout] at hheard hgrows
      rw [hout] at hrun
      cases fault with
      | script d =>
          cases hrun
          refine ⟨⟨lines, fun _ => ?_⟩, ⟨fun _ => rfl, fun _ => rfl⟩⟩
          have hreport := heard_record runner t (.stderr d.format)
          rw [if_pos (Nat.lt_of_lt_of_le hsize hgrows)] at hreport
          exact hreport.trans (congrArg (· ++ _) hheard)
      | _ => cases hrun

end Script

/-! ## Sessions -/

/-- Scripts run one after the other, each in the store that the one before left, however
that one ended; what comes of each. -/
def Runner.session (runner : Runner) (host : Host) :
    List Source → Store → List (Source × EStateM.Result Fault Store Execution)
  | [], _ => []
  | source :: rest, s =>
    (source, runner.handle host source s) ::
      runner.session host rest ((runner.handle host source).after s)

/-- The execution has what its runner heard, in a list that no later store shows on. -/
structure Execution.Kept (runner : Runner) (e : Execution) (s : Store) : Prop where
  heard : e.effects.read s = runner.heard.read s
  stays (t : Store) : e.effects.read t = e.effects.read s

section Sessions

variable {host : Host} {runner : Runner} {s s' : Store}

theorem kept_of_handle {source : Source} {e : Execution}
    (h : runner.handle host source s = .ok e s') : e.Kept runner s' := by
  rw [Runner.handle_eq] at h
  cases hout : runner.evaluate host source (runner.begun s) with
  | ok v t =>
      rw [hout] at h
      cases h
      exact ⟨rfl, fun _ => rfl⟩
  | error fault t =>
      rw [hout] at h
      cases fault with
      | script d =>
          cases h
          exact ⟨rfl, fun _ => rfl⟩
      | _ => cases h

/-- What comes of the scripts of a session, if it is so of each script in each store. -/
theorem forall_session {P : Source → EStateM.Result Fault Store Execution → Prop}
    {Q : Store → Prop} (hrun : ∀ source s, Q s → P source (runner.handle host source s))
    (hafter : ∀ source s, Q s → Q ((runner.handle host source).after s)) (h : Q s)
    (sources : List Source) : ∀ r ∈ runner.session host sources s, P r.1 r.2 := by
  induction sources generalizing s with
  | nil =>
      intro r hr
      cases hr
  | cons source rest ih =>
      intro r hr
      rcases List.mem_cons.1 hr with rfl | hr
      · exact hrun source s h
      · exact ih (hafter source s h) r hr

theorem DumpedBeside.after {source : Source} {m m' : Run Execution}
    (h : DumpedBeside runner.recorder source (m s) (m' s')) :
    ∃ dumps : Array Effect, m'.after s' = (m.after s).preceded runner.recorder dumps := by
  generalize hm : m s = out, hm' : m' s' = out' at h
  cases h with
  | done heffects hdumps => exact ⟨_, by rw [Run.after_of_ok hm, Run.after_of_ok hm']⟩
  | escaped hdumps => exact ⟨_, by rw [Run.after_of_error hm, Run.after_of_error hm']⟩

variable (hhost : host.Deaf)

include hhost

theorem grows_handle (source : Source) (hdebug : runner.debug = false) (s : Store) :
    s.recorders.size ≤ ((runner.handle host source).after s).recorders.size := by
  have hgrows := (evaluate_deaf hhost source hdebug (runner.begun s)).grows
  rw [size_begun] at hgrows
  rw [Run.after, Runner.handle_eq]
  cases hout : runner.evaluate host source (runner.begun s) with
  | ok v t =>
      rw [Run.after_of_ok hout] at hgrows
      exact hgrows
  | error fault t =>
      rw [Run.after_of_error hout] at hgrows
      cases fault with
      | script d =>
          refine Nat.le_trans hgrows (Nat.le_of_eq ?_)
          exact Array.size_modify.symm
      | _ => exact hgrows

theorem session_beside (h : runner.recorder < s.recorders.size)
    (hbegun : runner.begun s' = runner.begun s) (sources : List Source) :
    List.Forall₂ (fun r r' => r.1 = r'.1 ∧ DumpedBeside runner.recorder r.1 r.2 r'.2)
      ((runner.debugging false).session host sources s)
      ((runner.debugging true).session host sources s') := by
  induction sources generalizing s s' with
  | nil => exact .nil
  | cons source rest ih =>
      have hboth := dumpedBeside_handle hhost source h hbegun
      have hquiet : (runner.debugging false).debug = false := rfl
      have hgrows := grows_handle hhost source hquiet s
      refine .cons ⟨rfl, hboth⟩ (ih (Nat.lt_of_lt_of_le h hgrows) ?_)
      -- forgetting what was heard makes the two stores equal again
      obtain ⟨dumps, hafter⟩ := hboth.after
      rw [hafter, begun_preceded]

theorem orderly_of_session (h : runner.recorder < s.recorders.size) (sources : List Source) :
    ∀ r ∈ (runner.debugging false).session host sources s, ∀ e t, r.2 = .ok e t →
      e.Orderly := by
  refine forall_session (P := fun _ out => ∀ e t, out = .ok e t → e.Orderly)
    (Q := fun s => runner.recorder < s.recorders.size) ?_ ?_ h sources
  · intro source s h e t hrun
    have hsize : (runner.debugging false).recorder < s.recorders.size := h
    exact orderly_of_handle hhost hsize rfl hrun
  · intro source s h
    exact Nat.lt_of_lt_of_le h (grows_handle hhost source rfl s)

end Sessions

theorem attemptingHost_deaf : attemptingHost.Deaf := by
  intro f args
  refine .call _ _ fun outcome => ?_
  unfold attempted
  split
  · exact .finish _
  · exact .finish _

/-- A script that prints. -/
def hello : Source := { text := "print('hi');" }

def helloPieces : List Piece :=
  [⟨.identifier, ['p', 'r', 'i', 'n', 't']⟩, ⟨.operator, ['(']⟩,
   ⟨.string, ['\'', 'h', 'i', '\'']⟩, ⟨.operator, [')']⟩, ⟨.operator, [';']⟩]

def helloNodes : List Node :=
  [.call "print" [.literal (.text "hi") (inFirstLine 6 4)] (inFirstLine 0 11)]

theorem hello_read : hello.IsReadAs helloNodes :=
  ⟨_, _, tokenize_eq_ok_iff.2 ⟨helloPieces, by decide +kernel, by decide +kernel, rfl⟩,
    parseProgram_eq_ok_iff.2 ⟨_, rfl, rfl⟩⟩

theorem hello_runs :
    plainRunner.handle attemptingHost hello plainStore =
      .ok { status := .success, effects := .own [.stdout "hi"] }
        (leftBy hello helloNodes plainStore) := by
  have hrun : evalStatements (perform attemptingHost 1999) (plainRunner.scope hello) .nothing
      helloNodes (plainRunner.begun plainStore) =
        .ok .nothing (leftBy hello helloNodes plainStore) := rfl
  exact handle_of_finished rfl rfl hello_read hrun

end Scriptlet
