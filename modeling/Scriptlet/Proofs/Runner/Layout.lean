/-
# Layout does not show in runs

Two scripts whose tokens have the same contents do the same: whitespace, line ends,
underscores in numbers and the way a text is quoted show in the places of tokens only
(`layout_never_shows`).

## What is the same

The trees that are read have one shape, so the evaluations are twins (`perform_twins`), and
what the runner makes of them differs in three things only:

    the places of diagnostics
    the words of a diagnostic that an `include` wraps, where they name a place
    the trees inside closures, which have places

Neither what a script prints nor what it comes to hangs on any of these: `RanAlike` has the
same status, alike values, the same printed lines and alike stores on both sides, and where
one run escapes, the other escapes with the same fault.

## The host

A function of the host is handed closures, however, and gets to see the diagnostics of what
it calls, so it could tell the two scripts apart: it could print the place of an error that it
catches.  The theorem is about hosts that overlook places (`Host.Overlooks`): with
alike arguments, in alike stores and with alike outcomes of their calls, their functions do
alike things.  There is no such law without that.

Dumps show places, so the theorem is about runners without them.
-/
import Scriptlet.Proofs.Evaluation.TwinTasks
import Scriptlet.Proofs.Runner.Outcomes
import Scriptlet.Proofs.Syntax.Layout

namespace Scriptlet

open Evaluator

/-! ## Whole programs -/

theorem twins_runProgram {pairing : Pairing} {host : Host} (hhost : host.Overlooks pairing)
    {scope scope' : Scope} {program program' : Node} (hscope : scope.Alike scope')
    (hshape : program.shape = program'.shape) (depth : Nat) :
    Run.CallTwins pairing (runProgram host depth scope program)
      (runProgram host depth scope' program') := by
  refine (perform_twins hhost depth (.eval hscope hshape)).onFault ?_
  intro e f hlike
  cases hlike with
  | script h => exact .throw (.script h)
  | same =>
      cases e with
      | exhausted => exact twins_report (.same _) _ _
      | _ => exact .throw (.same _)

/-! ## Executions -/

/-- The same execution up to the places in closures, and up to the place and the words of a
diagnostic. -/
structure Execution.Alike (e e' : Execution) : Prop where
  status : e.status = e'.status
  value : e.value.Alike e'.value
  stage : e.error.map (·.stage) = e'.error.map (·.stage)
  /-- Whenever the two are asked. -/
  output (s t : Store) : e.output s = e'.output t

/-- Two runs that come to the same: alike executions or the same escape, and alike stores. -/
inductive RanAlike :
    EStateM.Result Fault Store Execution → EStateM.Result Fault Store Execution → Prop
  | done {e e' : Execution} {s t : Store} (h : e.Alike e') (hs : s.AlikeContents t) :
      RanAlike (.ok e s) (.ok e' t)
  | escaped {s t : Store} (fault : Fault) (hs : s.AlikeContents t) :
      RanAlike (.error fault s) (.error fault t)

section Conclude

variable {runner : Runner} {s t : Store}

/-- What was printed, among what was heard. -/
def printed (effects : List Effect) : List String :=
  (effects.filter fun effect => effect.topics == ["stdout"]).map (·.message)

theorem printed_append (xs ys : List Effect) : printed (xs ++ ys) = printed xs ++ printed ys := by
  rw [printed, List.filter_append, List.map_append]
  rfl

theorem printed_record (runner : Runner) (s : Store) (message : String) :
    printed (runner.heard.read (s.record runner.recorder (.stderr message))) =
      printed (runner.heard.read s) := by
  rw [heard_record]
  split
  · rw [printed_append]
    exact List.append_nil _
  · rfl

theorem heard_eq (hs : s.Alike .same t) (runner : Runner) :
    runner.heard.read s = runner.heard.read t :=
  congrArg (fun recorders => (recorders.getD runner.recorder {}).effects.toList) hs.heard

theorem conclude_script (hs : s.Alike .same t) {d d' : Diagnostic} (hstage : d.stage = d'.stage) :
    RanAlike (runner.conclude (.error (.script d) s))
      (runner.conclude (.error (.script d') t)) := by
  refine .done ⟨rfl, .plain rfl, congrArg some hstage, fun _ _ => ?_⟩ { hs.toAlikeContents with }
  show printed (runner.heard.read (s.record runner.recorder (.stderr d.format))) =
    printed (runner.heard.read (t.record runner.recorder (.stderr d'.format)))
  rw [printed_record, printed_record, heard_eq hs]

theorem conclude_alike {left right : EStateM.Result Fault Store Value}
    (h : Run.Agree .same Value.Alike left right) :
    RanAlike (runner.conclude left) (runner.conclude right) := by
  cases h with
  | ok hs hv =>
      have houtput := congrArg printed (heard_eq hs runner)
      exact .done ⟨rfl, hv, rfl, fun _ _ => houtput⟩ hs.toAlikeContents
  | @error e f s t hs hlike =>
      cases hlike with
      | script h => exact conclude_script hs h.stage
      | same =>
          cases e with
          | script d => exact conclude_script hs rfl
          | _ => exact .escaped _ hs.toAlikeContents

end Conclude

/-- **Layout never shows.**  Two scripts under one name whose tokens have the same contents,
run from the same store, come to the same. -/
theorem layout_never_shows {host : Host} (hhost : host.Overlooks .same) {runner : Runner}
    (hdebug : runner.debug = false) (s : Store) {a b : Source} (hname : a.name = b.name)
    (hpath : a.path = b.path) {tokens tokens' : List Token} (ha : tokenize a = .ok tokens)
    (hb : tokenize b = .ok tokens')
    (hcontents : tokens.map Token.content = tokens'.map Token.content) :
    RanAlike (runner.handle host a s) (runner.handle host b s) := by
  have hbegun := (runner.begun s).alike_self
  have hread := parseProgram_alike a b (Forward.sameContents_iff.2 hcontents)
  cases hleft : parseProgram a tokens with
  | error d =>
      cases hright : parseProgram b tokens' with
      | ok program =>
          rw [hleft, hright] at hread
          cases hread
      | error d' =>
          rw [Runner.handle_eq, Runner.handle_eq, evaluate_of_unparsed ha hleft,
            evaluate_of_unparsed hb hright]
          exact conclude_script hbegun
            ((stage_of_unparsed hleft).trans (stage_of_unparsed hright).symm)
  | ok program =>
      cases hright : parseProgram b tokens' with
      | error d' =>
          rw [hleft, hright] at hread
          cases hread
      | ok program' =>
          rw [hleft, hright] at hread
          cases hread with
          | parsed hshape =>
              have hscope : (runner.scope a).Alike (runner.scope b) := ⟨rfl, ⟨hname, hpath⟩, rfl⟩
              have hrun := twins_runProgram hhost hscope hshape s.world.limits.tasks _ _ hbegun
              rw [handle_of_parsed hdebug ha hleft, handle_of_parsed hdebug hb hright]
              exact conclude_alike hrun

/-- A script without a blank in it. -/
def dense : Source := { text := "f=()=>1_0;" }

/-- The same with blanks and over two lines, and with the number written in one. -/
def spread : Source := { text := "f = ( )\n=> 10 ;" }

def densePieces : List Piece :=
  [⟨.identifier, ['f']⟩, ⟨.operator, ['=']⟩, ⟨.operator, ['(']⟩, ⟨.operator, [')']⟩,
   ⟨.operator, ['=', '>']⟩, ⟨.integer, ['1', '_', '0']⟩, ⟨.operator, [';']⟩]

def spreadPieces : List Piece :=
  [⟨.identifier, ['f']⟩, ⟨.whitespace, [' ']⟩, ⟨.operator, ['=']⟩, ⟨.whitespace, [' ']⟩,
   ⟨.operator, ['(']⟩, ⟨.whitespace, [' ']⟩, ⟨.operator, [')']⟩, ⟨.newline, ['\n']⟩,
   ⟨.operator, ['=', '>']⟩, ⟨.whitespace, [' ']⟩, ⟨.integer, ['1', '0']⟩, ⟨.whitespace, [' ']⟩,
   ⟨.operator, [';']⟩]

/-- What the tokens of both mean. -/
def denseContents : List Content :=
  [.identifier "f", .operator "=", .operator "(", .operator ")", .operator "=>",
   .literal (.integer 10), .operator ";"]

theorem attemptingHost_overlooks (pairing : Pairing) : attemptingHost.Overlooks pairing := by
  intro f xs ys hargs
  refine .call ?_ .nil fun outcome outcome' h => ?_
  · cases hargs with
    | nil => exact .plain rfl
    | cons hfirst _ => exact hfirst
  · cases h with
    | done h => exact .finish (.done h)
    | @stopped e e' h =>
        cases h with
        | script h =>
            rw [attempted, attempted, h.stage]
            exact .finish (.done (.plain rfl))
        | same =>
            cases e with
            | script d => exact .finish (.done (.plain rfl))
            | _ => exact .finish (.stopped (.same _))

theorem spread_runs_as_dense :
    attemptingHost.Overlooks .same ∧
      ∃ tokens tokens', tokenize dense = .ok tokens ∧ tokenize spread = .ok tokens' ∧
      tokens.map Token.content = tokens'.map Token.content ∧
      RanAlike (plainRunner.handle attemptingHost dense plainStore)
        (plainRunner.handle attemptingHost spread plainStore) := by
  have hdense : ∃ tokens, tokenize dense = .ok tokens ∧
      tokens.map Token.content = denseContents :=
    ⟨_, tokenize_eq_ok_iff.2 ⟨densePieces, by decide +kernel, by decide +kernel, rfl⟩, rfl⟩
  have hspread : ∃ tokens, tokenize spread = .ok tokens ∧
      tokens.map Token.content = denseContents :=
    ⟨_, tokenize_eq_ok_iff.2 ⟨spreadPieces, by decide +kernel, by decide +kernel, rfl⟩, rfl⟩
  obtain ⟨tokens, htokens, hcontents⟩ := hdense
  obtain ⟨tokens', htokens', hcontents'⟩ := hspread
  have hsame := hcontents.trans hcontents'.symm
  have hhost := attemptingHost_overlooks .same
  exact ⟨hhost, tokens, tokens', htokens, htokens', hsame,
    layout_never_shows hhost rfl plainStore rfl rfl htokens htokens' hsame⟩

end Scriptlet
