/-
# What can come of a script

A runner that runs a script comes to an execution: the value of the script, or the
diagnostic of the stage that refused or stopped it (`Concludes`).  `handle_concludes` says so
for every script, whatever functions the host has, as long as these stop with nothing but
mishaps of their own and with what they were handed (`Fault.Ordinary`).

## What escapes

Some mishaps are never inside a call that could put them into words, and come out of the run
in the place of an execution:

    an integer literal of too many digits    in the script, or in a file that it includes
    a message of the host without words      of a failure, or of an error that it states

The second half of the theorem says which of them a run ends with, and it says so exactly: a
run ends with a mishap where the scanner meets such a literal, or where its evaluation fails
with a fault that goes back to one of the two (`Escapes`).  The trail that leads there is one
of this run, from its program inwards, so a file that no `include` of the run asked for and a
function that it did not call have no part in it.  Nor has a message that found words on the
way: a call on the trail that put it into words ends the trail in a diagnostic.

`overlong_escapes` is the shortest of such runs.  No file and no host has a part in it.

## Scripts that are refused

A script that the scanner or the parser refuses changes nothing but what its own runner
heard, which is the one report (`refused_script_changes_nothing`).  The other side of this is
that no diagnostic of the scanner or the parser comes out of an evaluation, whatever files it
includes: what is wrong with a file is reported as an error of the `include`.  Here, too, it
is the host that could make a difference, by stating such an error itself, so it is asked
not to (`Fault.Evaluated`).
-/
import Scriptlet.Proofs.Evaluation.Trails
import Scriptlet.Proofs.Runner.Stages
import Scriptlet.Proofs.Syntax.Joined
import Scriptlet.Proofs.Token.DataText

namespace Scriptlet

open Evaluator

/-! ## What escapes -/

/-- The fault is a mishap, nesting too deep, or an error of evaluation, with a message in
words or without; it is not the word to stop everything. -/
def Fault.Ordinary : Fault → Prop
  | .script d => d.stage = .evaluation
  | .interrupted _ => False
  | _ => True

theorem Fault.Native.ordinary {fault : Fault} (h : fault.Native) : fault.Ordinary := by
  cases fault with
  | script d => exact h.1
  | interrupted kind => exact h
  | _ => trivial

/-- The program of a script, about to be evaluated. -/
def Runner.activity (runner : Runner) (source : Source) (tokens : List Token) (program : Node)
    (s : Store) : Activity :=
  let dumped := runner.dumped tokens program (runner.begun s)
  ⟨dumped.world.limits.tasks, .eval (runner.scope source) program, dumped⟩

/-- The mishaps that a run ends with instead of coming to an execution. -/
inductive Escapes (host : Host) (runner : Runner) (source : Source) (s : Store) : Mishap → Prop
  /-- The script itself has a literal of too many digits. -/
  | literal {digits : TooManyDigits} (h : tokenize source = .error (.tooManyDigits digits)) :
      Escapes host runner source s (.literalTooLong digits)
  /-- Followed inwards from the program, the fault comes to an `include` of a file with such a
  literal, or to a function of the host whose message has no words. -/
  | evaluated {tokens : List Token} {program : Node} {fault : Fault} {mishap : Mishap}
      (htokens : tokenize source = .ok tokens) (hparse : parseProgram source tokens = .ok program)
      (h : ComesOf host (Unspoken host) (runner.activity source tokens program s) fault)
      (hlate : fault.late = .raised mishap) : Escapes host runner source s mishap

/-- What can come of a script: its value, the diagnostic of the stage that refused or
stopped it, or a mishap. -/
inductive Concludes (source : Source) : EStateM.Result Fault Store Execution → Prop
  | succeeded {e : Execution} {s : Store} (hstatus : e.status = .success)
      (herror : e.error = none) : Concludes source (.ok e s)
  | unscanned {e : Execution} {s : Store} {d : Diagnostic} (hstatus : e.status = .error)
      (herror : e.error = some d) (hstage : d.stage = .scanning)
      (h : tokenize source = .error (.refused d)) : Concludes source (.ok e s)
  | unparsed {e : Execution} {s : Store} {d : Diagnostic} {tokens : List Token}
      (hstatus : e.status = .error) (herror : e.error = some d) (hstage : d.stage = .parsing)
      (htokens : tokenize source = .ok tokens) (h : parseProgram source tokens = .error d) :
      Concludes source (.ok e s)
  | stopped {e : Execution} {s : Store} {d : Diagnostic} {tokens : List Token} {program : Node}
      (hstatus : e.status = .error) (herror : e.error = some d) (hstage : d.stage = .evaluation)
      (htokens : tokenize source = .ok tokens) (h : parseProgram source tokens = .ok program) :
      Concludes source (.ok e s)
  | escaped {mishap : Mishap} {s : Store} : Concludes source (.error (.raised mishap) s)

section Concludes

variable {host : Host} {runner : Runner} {source : Source} {depth : Nat} {scope : Scope}
  {tokens : List Token} {program : Node} {s s' : Store} {mishap : Mishap}

/-- What comes out of a whole program is of the kinds that the host stops with. -/
theorem fault_of_runProgram {P : Fault → Prop} (hnative : ∀ fault, fault.Native → P fault)
    (hhost : host.StopsWith P) {fault : Fault}
    (h : runProgram host depth scope program s = .error fault s') : P fault := by
  rcases error_of_runProgram h with ⟨hperform, -⟩ | rfl
  · exact fault_of_fails hnative hhost (a := ⟨depth, .eval scope program, s⟩) ⟨s', hperform⟩
  · exact hnative _ ⟨rfl, rfl⟩

/-- Nesting too deep is reported, and only applications stop with a failure without words. -/
theorem settled_of_runProgram {fault : Fault}
    (h : runProgram host depth scope program s = .error fault s') :
    fault ≠ .exhausted ∧ ∀ why, fault ≠ .wordlessFailure why := by
  rcases error_of_runProgram h with ⟨hperform, hdeep⟩ | rfl
  · refine ⟨hdeep, ?_⟩
    rintro why rfl
    exact no_wordlessFailure ⟨s', hperform⟩
  · exact ⟨nofun, nofun⟩

/-- What comes of an evaluation, the runner makes an execution of or lets escape. -/
theorem concludes_of_run (hhost : host.StopsWith Fault.Ordinary)
    (htokens : tokenize source = .ok tokens) (hparse : parseProgram source tokens = .ok program)
    (runner : Runner) (depth : Nat) (scope : Scope) (s : Store) :
    Concludes source (runner.conclude (runProgram host depth scope program s)) := by
  cases hrun : runProgram host depth scope program s with
  | ok v s' => exact .succeeded rfl rfl
  | error fault s' =>
      have hfault := fault_of_runProgram (fun _ h => h.ordinary) hhost hrun
      cases fault with
      | script d => exact .stopped rfl rfl hfault htokens hparse
      | raised mishap => exact .escaped
      | wordlessError why =>
          cases why with
          | _ => exact .escaped
      | interrupted kind => exact absurd hfault id
      | exhausted => exact absurd rfl (settled_of_runProgram hrun).1
      | wordlessFailure why => exact absurd rfl ((settled_of_runProgram hrun).2 why)

theorem late_eq_raised_iff {fault : Fault} :
    fault.late = .raised mishap ↔
      fault = .raised mishap ∨
        ∃ why, fault = .wordlessError why ∧ why.lateFault = .raised mishap := by
  cases fault with
  | wordlessError why =>
      constructor
      · intro h
        exact .inr ⟨why, rfl, h⟩
      · rintro (h | ⟨_, ⟨⟩, h⟩)
        · cases h
        · exact h
  | _ => exact ⟨.inl, fun h => h.resolve_right (by rintro ⟨_, ⟨⟩, _⟩)⟩

/-- A run ends with a mishap where that is left of the fault of its evaluation. -/
theorem conclude_eq_raised_iff {out : EStateM.Result Fault Store Value} :
    (∃ s', runner.conclude out = .error (.raised mishap) s') ↔
      ∃ fault s', out = .error fault s' ∧ fault.late = .raised mishap := by
  cases out with
  | ok v t =>
      constructor
      · rintro ⟨s', h⟩
        cases h
      · rintro ⟨fault, s', h, -⟩
        cases h
  | error fault t =>
      have hother (hscript : ∀ d, fault ≠ .script d) :
          runner.conclude (.error fault t) = .error fault.late t := by
        cases fault with
        | script d => exact absurd rfl (hscript d)
        | _ => rfl
      constructor
      · rintro ⟨s', h⟩
        by_cases hscript : ∃ d, fault = .script d
        · obtain ⟨d, rfl⟩ := hscript
          cases h
        · push Not at hscript
          rw [hother hscript] at h
          exact ⟨fault, t, rfl, (EStateM.Result.error.inj h).1⟩
      · rintro ⟨_, _, ⟨⟩, hlate⟩
        refine ⟨t, ?_⟩
        rw [hother, hlate]
        rintro d rfl
        cases hlate

/-- The evaluation of a program comes to a mishap where its fault goes back to one that no
call put into words. -/
theorem escapes_of_run (htokens : tokenize source = .ok tokens)
    (hparse : parseProgram source tokens = .ok program) :
    (∃ fault s', runner.start host source program (runner.dumped tokens program (runner.begun s)) =
        .error fault s' ∧ fault.late = .raised mishap) ↔
      Escapes host runner source s mishap := by
  constructor
  · rintro ⟨fault, s', hrun, hlate⟩
    have hfails : (runner.activity source tokens program s).Fails host fault := by
      rcases error_of_runProgram hrun with ⟨hperform, -⟩ | rfl
      · exact ⟨s', hperform⟩
      · cases hlate
    refine .evaluated htokens hparse (unspoken_of_fails hfails ?_) hlate
    rcases late_eq_raised_iff.1 hlate with rfl | ⟨why, rfl, -⟩
    · exact .inr ⟨⟨_, _, rfl⟩, mishap, rfl⟩
    · exact .inl trivial
  · intro h
    cases h with
    | literal h => cases h.symm.trans htokens
    | evaluated htokens' hparse' h hlate =>
        cases htokens.symm.trans htokens'
        cases hparse.symm.trans hparse'
        obtain ⟨s', hperform⟩ := h.fails
        refine ⟨_, s', runProgram_of_error hperform ?_, hlate⟩
        rintro rfl
        cases hlate

/-- Only a source that is read, or has an overlong literal, lets anything escape. -/
theorem not_escapes_of_refused {d : Diagnostic} (h : tokenize source = .error (.refused d)) :
    ¬ Escapes host runner source s mishap := by
  intro hescapes
  cases hescapes with
  | literal hdigits => cases h.symm.trans hdigits
  | evaluated htokens => cases h.symm.trans htokens

theorem not_escapes_of_unparsed {d : Diagnostic} (h : tokenize source = .ok tokens)
    (hparse : parseProgram source tokens = .error d) :
    ¬ Escapes host runner source s mishap := by
  intro hescapes
  cases hescapes with
  | literal hdigits => cases h.symm.trans hdigits
  | evaluated htokens hparse' =>
      cases h.symm.trans htokens
      cases hparse.symm.trans hparse'

theorem escapes_iff_of_tooManyDigits {digits : TooManyDigits}
    (h : tokenize source = .error (.tooManyDigits digits)) :
    Escapes host runner source s mishap ↔ mishap = .literalTooLong digits := by
  constructor
  · intro hescapes
    cases hescapes with
    | literal hdigits =>
        cases h.symm.trans hdigits
        rfl
    | evaluated htokens => cases h.symm.trans htokens
  · rintro rfl
    exact .literal h

theorem concludes_handle (hhost : host.StopsWith Fault.Ordinary) (runner : Runner)
    (source : Source) (s : Store) : Concludes source (runner.handle host source s) := by
  rw [Runner.handle_eq]
  cases htokens : tokenize source with
  | error stop =>
      cases stop with
      | refused d =>
          rw [evaluate_of_refused htokens]
          exact .unscanned rfl rfl (stage_of_refused htokens) htokens
      | tooManyDigits digits =>
          rw [evaluate_of_tooManyDigits htokens]
          exact .escaped
  | ok tokens =>
      cases hparse : parseProgram source tokens with
      | error d =>
          rw [evaluate_of_unparsed htokens hparse]
          exact .unparsed rfl rfl (stage_of_unparsed hparse) htokens hparse
      | ok program =>
          rw [evaluate_of_parsed htokens hparse]
          exact concludes_of_run hhost htokens hparse runner _ _ _

theorem escapes_iff (host : Host) (runner : Runner) (source : Source) (s : Store)
    (mishap : Mishap) :
    (∃ s', runner.handle host source s = .error (.raised mishap) s') ↔
      Escapes host runner source s mishap := by
  rw [Runner.handle_eq]
  cases htokens : tokenize source with
  | error stop =>
      cases stop with
      | refused d =>
          rw [evaluate_of_refused htokens]
          exact iff_of_false (fun ⟨_, h⟩ => nomatch h) (not_escapes_of_refused htokens)
      | tooManyDigits digits =>
          rw [evaluate_of_tooManyDigits htokens, escapes_iff_of_tooManyDigits htokens]
          constructor
          · rintro ⟨s', ⟨⟩⟩
            rfl
          · rintro rfl
            exact ⟨_, rfl⟩
  | ok tokens =>
      cases hparse : parseProgram source tokens with
      | error d =>
          rw [evaluate_of_unparsed htokens hparse]
          exact iff_of_false (fun ⟨_, h⟩ => nomatch h) (not_escapes_of_unparsed htokens hparse)
      | ok program =>
          rw [evaluate_of_parsed htokens hparse]
          exact conclude_eq_raised_iff.trans (escapes_of_run htokens hparse)

theorem settled_of_evaluate {fault : Fault} (h : runner.evaluate host source s = .error fault s') :
    fault ≠ .exhausted ∧ ∀ why, fault ≠ .wordlessFailure why := by
  rcases Run.error_of_bind h with hload | ⟨⟨tokens, program⟩, t, hload, -⟩
  · rcases error_of_load hload with ⟨d, rfl, -⟩ | ⟨digits, rfl, -⟩
    · exact ⟨nofun, nofun⟩
    · exact ⟨nofun, nofun⟩
  · obtain ⟨-, htokens, hparse⟩ := ok_of_load hload
    rw [evaluate_of_parsed htokens hparse] at h
    exact settled_of_runProgram h

/-- A run stops with a mishap that escapes, or for an interruption by the host. -/
theorem error_of_handle {fault : Fault} (h : runner.handle host source s = .error fault s') :
    (∃ mishap, fault = .raised mishap ∧ Escapes host runner source s mishap) ∨
      ∃ kind, fault = .interrupted kind := by
  suffices hfault : (∃ mishap, fault = .raised mishap) ∨ ∃ kind, fault = .interrupted kind by
    refine hfault.imp_left ?_
    rintro ⟨mishap, rfl⟩
    exact ⟨mishap, rfl, (escapes_iff host runner source s mishap).1 ⟨s', h⟩⟩
  rw [Runner.handle_eq] at h
  cases hout : runner.evaluate host source (runner.begun s) with
  | ok v t =>
      rw [hout] at h
      cases h
  | error e t =>
      have hsettled := settled_of_evaluate hout
      rw [hout] at h
      cases e with
      | script d => cases h
      | exhausted => exact absurd rfl hsettled.1
      | wordlessFailure why => exact absurd rfl (hsettled.2 why)
      | raised mishap =>
          cases h
          exact .inl ⟨_, rfl⟩
      | interrupted kind =>
          cases h
          exact .inr ⟨kind, rfl⟩
      | wordlessError why =>
          cases h
          cases why with
          | _ => exact .inl ⟨_, rfl⟩

/-- **Running a script comes to an execution, but for mishaps that no call puts into words.**
With dumps or without, the run ends with such a mishap just where the script itself has an
overlong literal, or where the fault of its evaluation comes of one in a file or of a message
of the host. -/
theorem handle_concludes {host : Host} (hhost : host.StopsWith Fault.Ordinary) (runner : Runner)
    (source : Source) (s : Store) :
    Concludes source (runner.handle host source s) ∧
      ∀ mishap, (∃ s', runner.handle host source s = .error (.raised mishap) s') ↔
        Escapes host runner source s mishap :=
  ⟨concludes_handle hhost runner source s, escapes_iff host runner source s⟩

end Concludes

/-- An integer of more digits than may be written stops the scanner. -/
theorem tokenize_digits {digits : List Char} (hdigits : ∀ c ∈ digits, c.isDigit = true)
    (hlong : digitLimit < digits.length) :
    tokenize { text := String.ofList digits } = .error (.tooManyDigits ⟨digits.length⟩) := by
  have hne : digits ≠ [] := List.ne_nil_of_length_pos (Nat.zero_lt_of_lt hlong)
  have hcut : Cut [⟨.integer, digits⟩] := .cons (Rule.winner_digits hne hdigits .nil) .nil
  have htext : written [⟨.integer, digits⟩] = digits := by simp [written]
  have hplain : Lexeme.digits digits = digits :=
    List.filter_eq_self.2 fun c hc => Rule.of_isDigit (· != '_') (by decide) (hdigits c hc)
  have hsegment := segment_of_cut hcut .origin
  rw [htext] at hsegment
  simp only [tokenize, String.toList_ofList, hsegment, placed, tokensOf, Lexeme.token?,
    Lexeme.content, Piece.place, hplain, if_pos hlong, Except.map]

/-- One digit more than an integer may be written with. -/
def overlong : Source := { text := String.ofList (List.replicate (digitLimit + 1) '1') }

def failingHost : Host := ⟨fun _ _ => .finish (.error (.raised (.host "RuntimeError" "boom")))⟩

theorem failingHost_stopsWith {P : Fault → Prop} (h : ∀ mishap, P (.raised mishap)) :
    failingHost.StopsWith P := by
  intro n f args _
  exact .stopped (h _)

theorem failingHost_letsThrough : failingHost.LetsThrough := fun _ _ => .finish _

theorem overlong_escapes :
    failingHost.StopsWith Fault.Ordinary ∧
      ∃ s', plainRunner.handle failingHost overlong plainStore =
        .error (.raised (.literalTooLong ⟨digitLimit + 1⟩)) s' := by
  have hhost : failingHost.StopsWith Fault.Ordinary := failingHost_stopsWith fun _ => trivial
  have hdigits : ∀ c ∈ List.replicate (digitLimit + 1) '1', c.isDigit = true := by
    intro c hc
    rw [List.eq_of_mem_replicate hc]
    rfl
  have htokens := tokenize_digits hdigits (by rw [List.length_replicate]; exact Nat.lt_succ_self _)
  rw [List.length_replicate] at htokens
  exact ⟨hhost, ((handle_concludes hhost plainRunner overlong plainStore).2 _).2 (.literal htokens)⟩

/-! ## Scripts that are refused -/

/-- The fault is no error of the scanner and none of the parser. -/
def Fault.Evaluated : Fault → Prop
  | .script d => d.stage ≠ .scanning ∧ d.stage ≠ .parsing
  | _ => True

theorem Fault.Native.evaluated {fault : Fault} (h : fault.Native) : fault.Evaluated := by
  cases fault with
  | script d =>
      have hstage : d.stage = .evaluation := h.1
      rw [Fault.Evaluated, hstage]
      exact ⟨nofun, nofun⟩
  | _ => trivial

section Refused

variable {host : Host} {s : Store} {runner : Runner} {source : Source} {d : Diagnostic}

theorem conclude_stopped {out : EStateM.Result Fault Store Value} {e : Execution} {s' : Store}
    (h : runner.conclude out = .ok e s') (herror : e.error = some d) :
    ∃ t, out = .error (.script d) t := by
  cases out with
  | ok v t =>
      cases h
      cases herror
  | error fault t =>
      cases fault with
      | script d' =>
          cases h
          cases herror
          exact ⟨t, rfl⟩
      | _ => cases h

/-- What the store is once a script was refused: the runner has heard the report. -/
def Runner.reported (runner : Runner) (d : Diagnostic) (s : Store) : Store :=
  s.setRecorder runner.recorder ⟨#[.stderr d.format], some (runner.startDir s.world)⟩

theorem record_begun (runner : Runner) (s : Store) (d : Diagnostic) :
    (runner.begun s).record runner.recorder (.stderr d.format) = runner.reported d s := by
  unfold Runner.begun Runner.reported Store.record Store.setRecorder
  congr 1
  apply Array.ext_getElem?
  intro i
  simp only [Array.getElem?_modify, Array.getElem?_setIfInBounds]
  by_cases hi : runner.recorder = i
  · by_cases hlt : runner.recorder < s.recorders.size
    · simp [hi]
    · simp [hi]
  · simp [hi]

theorem heard_reported (h : runner.recorder < s.recorders.size) :
    runner.heard.read (runner.reported d s) = [.stderr d.format] := by
  rw [← record_begun, heard_record, size_begun, if_pos h, heard_begun]
  rfl

theorem handle_of_refused (h : ∀ s, runner.evaluate host source s = .error (.script d) s)
    (hrecorder : runner.recorder < s.recorders.size) :
    runner.handle host source s =
      .ok { status := .error, error := some d, errorMessage := some d.format
            effects := .own [.stderr d.format] } (runner.reported d s) := by
  rw [Runner.handle_eq, h]
  simp only [Runner.conclude, record_begun, EffectList.copy, heard_reported hrecorder]

/-- **A script that the scanner or the parser refuses changes nothing but what its runner
heard, and that is the report; and no such diagnostic comes out of an evaluation.** -/
theorem refused_script_changes_nothing (hhost : host.StopsWith Fault.Evaluated)
    (hrecorder : runner.recorder < s.recorders.size) :
    (∀ source e s' d, runner.handle host source s = .ok e s' → e.error = some d →
      d.stage = .scanning ∨ d.stage = .parsing →
        s' = s.setRecorder runner.recorder
            ⟨#[.stderr d.format], some (runner.startDir s.world)⟩ ∧
          ∀ t, e.effects.read t = [.stderr d.format]) ∧
      ∀ depth task t t' d, perform host depth task t = .error (.script d) t' →
        d.stage ≠ .scanning ∧ d.stage ≠ .parsing := by
  refine ⟨?_, fun depth task t t' d h => ?_⟩
  · intro source e s' d hrun herror hstage
    have refused {d' : Diagnostic}
        (hevaluate : ∀ s, runner.evaluate host source s = .error (.script d') s) :
        s' = runner.reported d s ∧ ∀ t, e.effects.read t = [.stderr d.format] := by
      cases (handle_of_refused hevaluate hrecorder).symm.trans hrun
      cases herror
      exact ⟨rfl, fun _ => rfl⟩
    cases htokens : tokenize source with
    | error stop =>
        cases stop with
        | refused d' => exact refused fun _ => evaluate_of_refused htokens
        | tooManyDigits fault =>
            rw [Runner.handle_eq, evaluate_of_tooManyDigits htokens] at hrun
            cases hrun
    | ok tokens =>
        cases hparse : parseProgram source tokens with
        | error d' => exact refused fun _ => evaluate_of_unparsed htokens hparse
        | ok program =>
            -- The script was evaluated, so its diagnostic is neither of the two.
            rw [Runner.handle_eq, evaluate_of_parsed htokens hparse] at hrun
            obtain ⟨t, hout⟩ := conclude_stopped hrun herror
            have hevaluated := fault_of_runProgram (fun _ h => h.evaluated) hhost hout
            exact (hstage.elim hevaluated.1 hevaluated.2).elim
  · exact fault_of_fails (fun _ h => h.evaluated) hhost (a := ⟨depth, task, t⟩) ⟨t', h⟩

end Refused

/-! ### A script and a file that are refused

    bad.tf    @
-/

/-- A script that begins with a character that begins nothing. -/
def strayScript : Source := { text := "@" }

/-- The report of such a source. -/
def strayReport (source : Source) : Diagnostic := strayCharacter source .origin '@'

theorem tokenize_stray {source : Source} (h : source.text = "@") :
    tokenize source = .error (.refused (strayReport source)) := by
  have hsegment : segment source.text.toList .origin = ⟨[], .origin, ['@']⟩ := by
    rw [h]
    exact segment_stuck (by rfl) .origin
  simp only [tokenize, hsegment, tokensOf]
  rfl

namespace BadFile

/-- The source that a script gets when it asks for the file. -/
def source : Source := { text := "@", name := "bad.tf", path := some "/bad.tf" }

def world : World := { files := .dir [("bad.tf", .file "@".toUTF8)] }

theorem read_source : Source.read world .utf8 "bad.tf" (some "/") = .ok source := by
  have hleads : File.Path.resolve world.place "bad.tf" (some "/") = .ok "/bad.tf" ∧
      world.files.textAt world.place .utf8 "/bad.tf" = .ok "@" := by
    decide +kernel
  obtain ⟨hresolve, htext⟩ := hleads
  simp only [Source.read, hresolve, htext, source]

/-- A script that binds a name. -/
def binding : Source := { text := "x = 1;" }

def bindingPieces : List Piece :=
  [⟨.identifier, ['x']⟩, ⟨.whitespace, [' ']⟩, ⟨.operator, ['=']⟩, ⟨.whitespace, [' ']⟩,
   ⟨.integer, ['1']⟩, ⟨.operator, [';']⟩]

def bindingNodes : List Node :=
  [.assignment "x" (.literal (.integer 1) (inFirstLine 4 1)) (inFirstLine 0 5)]

/-- A script that includes the file from a function that is called back. -/
def including : Source := { text := "each(['bad.tf'], (p) => include(p));" }

def includingPieces : List Piece :=
  [⟨.identifier, "each".toList⟩, ⟨.operator, ['(']⟩, ⟨.operator, ['[']⟩,
   ⟨.string, "'bad.tf'".toList⟩, ⟨.operator, [']']⟩, ⟨.operator, [',']⟩, ⟨.whitespace, [' ']⟩,
   ⟨.operator, ['(']⟩, ⟨.identifier, ['p']⟩, ⟨.operator, [')']⟩, ⟨.whitespace, [' ']⟩,
   ⟨.operator, ['=', '>']⟩, ⟨.whitespace, [' ']⟩, ⟨.identifier, "include".toList⟩,
   ⟨.operator, ['(']⟩, ⟨.identifier, ['p']⟩, ⟨.operator, [')']⟩, ⟨.operator, [')']⟩,
   ⟨.operator, [';']⟩]

def includingBody : Node :=
  .call includeWord [.identifier "p" (inFirstLine 32 1)] (inFirstLine 24 10)

def includingCall : Node :=
  .call "each" [.list [.literal (.text "bad.tf") (inFirstLine 6 8)] (inFirstLine 5 10),
    .function ["p"] includingBody (inFirstLine 17 17)] (inFirstLine 0 35)

/-- The store once `binding` has run. -/
def used : Store :=
  (evalStatements (perform failingHost 1999) (plainRunner.scope binding) .nothing
    bindingNodes).after (plainRunner.begun (storeIn world))

theorem binding_runs :
    plainRunner.handle failingHost binding (storeIn world) =
      .ok (plainRunner.succeeded (.int 1) used) used := by
  have hread : binding.IsReadAs bindingNodes :=
    ⟨_, _, tokenize_eq_ok_iff.2 ⟨bindingPieces, by decide +kernel, by decide +kernel, rfl⟩,
      parseProgram_eq_ok_iff.2 ⟨_, rfl, rfl⟩⟩
  have hrun : evalStatements (perform failingHost 1999) (plainRunner.scope binding) .nothing
      bindingNodes (plainRunner.begun (storeIn world)) = .ok (.int 1) used := rfl
  exact handle_of_finished rfl rfl hread hrun

/-- What the `include` makes of the report of the file. -/
def report : Diagnostic :=
  (strayReport source).inFile "bad.tf" (.ofSpan including (inFirstLine 24 10))

theorem includingCall_fails :
    Activity.Fails failingHost
      ⟨1999, .eval (plainRunner.scope including) includingCall, plainRunner.begun used⟩
      (.script report) := by
  have hthrough := failingHost_letsThrough
  have heach : "each" ≠ includeWord := by decide
  show Activity.Fails failingHost _ ((Link.call "each"
    (.ofSpan (plainRunner.scope including).source (inFirstLine 0 35))).hand (.script report))
  refine Inside.passes hthrough (.call heach rfl rfl) ?_
  show Activity.Fails failingHost _ (Link.callback.hand (.script report))
  refine Inside.passes hthrough (.callback (.first rfl)) ?_
  show Activity.Fails failingHost _ (Link.body.hand (.script report))
  refine Inside.passes hthrough .body ?_
  exact (Refuses.unloaded rfl read_source (.inl (tokenize_stray rfl))).fails

theorem including_reports :
    ∃ e s', plainRunner.handle failingHost including used = .ok e s' ∧ e.error = some report := by
  have hread : including.IsReadAs [includingCall] :=
    ⟨_, _, tokenize_eq_ok_iff.2 ⟨includingPieces, by decide +kernel, by decide +kernel, rfl⟩,
      parseProgram_eq_ok_iff.2 ⟨_, rfl, rfl⟩⟩
  obtain ⟨s', hcall⟩ := includingCall_fails
  exact handle_of_reported (n := 1999) rfl rfl hread (Run.bind_of_error hcall)

end BadFile

open BadFile in
/-- In a store in which a script has run, one that is refused changes nothing, and one that
includes a refused file comes to an error of evaluation. -/
theorem strayScript_changes_nothing :
    failingHost.StopsWith Fault.Evaluated ∧ plainRunner.recorder < used.recorders.size ∧
      (∃ e, plainRunner.handle failingHost binding (storeIn world) = .ok e used ∧
        e.status = .success) ∧
      (∃ e s', plainRunner.handle failingHost strayScript used = .ok e s' ∧
        e.error = some (strayReport strayScript) ∧ (strayReport strayScript).stage = .scanning ∧
        s' = used.setRecorder 0 ⟨#[.stderr (strayReport strayScript).format],
          some (plainRunner.startDir used.world)⟩ ∧
        ∀ t, e.effects.read t = [.stderr (strayReport strayScript).format]) ∧
      ∃ e s', plainRunner.handle failingHost including used = .ok e s' ∧
        e.error = some report ∧ report.stage ≠ .scanning ∧ report.stage ≠ .parsing ∧
        report.message =
          "Failed to include 'bad.tf': LexError at bad.tf:1:1: Unexpected character '@'" := by
  have hhost : failingHost.StopsWith Fault.Evaluated := failingHost_stopsWith fun _ => trivial
  have hrecorder : plainRunner.recorder < used.recorders.size := by decide +kernel
  obtain ⟨hrefused, hevaluated⟩ := refused_script_changes_nothing hhost hrecorder
  have hevaluate (s : Store) : plainRunner.evaluate failingHost strayScript s =
      .error (.script (strayReport strayScript)) s := evaluate_of_refused (tokenize_stray rfl)
  have hstray := handle_of_refused hevaluate hrecorder
  obtain ⟨s', hcall⟩ := includingCall_fails
  obtain ⟨e, t, hrun, herror⟩ := including_reports
  obtain ⟨hscanning, hparsing⟩ := hevaluated _ _ _ _ _ hcall
  have hmessage : report.message =
      "Failed to include 'bad.tf': LexError at bad.tf:1:1: Unexpected character '@'" := by
    decide +kernel
  exact ⟨hhost, hrecorder, ⟨_, binding_runs, rfl⟩,
    ⟨_, _, hstray, rfl, rfl, hrefused _ _ _ _ hstray rfl (.inl rfl)⟩,
    e, t, hrun, herror, hscanning, hparsing, hmessage⟩

end Scriptlet
