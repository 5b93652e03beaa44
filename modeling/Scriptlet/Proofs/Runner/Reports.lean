/-
# Reports underline what they are about

Scanner, parser and evaluator all report at marked spans: a character, a token or the end
of the source, a node.  So the line that a report shows is the one in which its place
begins, and the carets stand under the first line of the text of the place, in every report
that a place is known of (`reports_underline_places`).

## Which source

    Source → tokens → program     the source itself is what the place is in
    runs of programs              the place may be in any source that was ever read

For runs this takes an invariant of the store: closures are older than the script that
calls them, and stem from sources of their own (`Store.Lived.held`).  `Store.Lived` is how
stores come about: a program that embeds scripts makes runners, has sources run and nodes
and functions evaluated, one after another and with whatever functions of its own it has by
then.  `Store.Reports` is how a report comes about in one of them.

## Reports without a place

There is one way to them.  A function of the host may state an error itself, of any kind and
in its own words, and need not say where; such a report is its header alone
(`stated_report_underlines_nothing`).  Where the host states no such errors
(`Fault.Located`), all reports have places.

What the host is never allowed is to make places up (`Host.Rooted`).  A place that it states
is one that it was told of, or one in a source of its own; with any other numbers in a
location nothing could be said of what stands under what.
-/
import Scriptlet.Proofs.Evaluation.Origins
import Scriptlet.Proofs.Runner.Outcomes

namespace Scriptlet

open Evaluator

/-! ## Stores and runs -/

/-- The stores that an embedding program comes to by having sources read and evaluated: it
starts with nothing, makes runners, has them run sources, and has nodes and functions
evaluated that come from sources, with whatever functions of its own it has by then. -/
inductive Store.Lived : Store → Prop
  | start (world : World) : Lived { world := world }
  | made {s : Store} (options : Runner.Options) (h : Lived s)
      (hmembers : ∀ m ∈ options.members, m.value.Rooted)
      (hbindings : ∀ b ∈ options.bindings, b.2.Rooted) : Lived ((Runner.create options).after s)
  | ran {s : Store} {host : Host} (hhost : host.Rooted) (runner : Runner) (source : Source)
      (h : Lived s) : Lived ((runner.handle host source).after s)
  | did {s : Store} {host : Host} (hhost : host.Rooted) (depth : Nat) (task : Task) (h : Lived s)
      (htask : task.Rooted) : Lived ((perform host depth task).after s)

/-- A run, a program or a task reports the error from the store. -/
inductive Store.Reports (host : Host) (s : Store) (d : Diagnostic) : Prop
  | run (runner : Runner) (source : Source) {e : Execution} {s' : Store}
      (h : runner.handle host source s = .ok e s') (herror : e.error = some d) : Reports host s d
  | program (depth : Nat) {scope : Scope} {program : Node} {s' : Store}
      (hprogram : program.StemsFrom scope.source)
      (h : runProgram host depth scope program s = .error (.script d) s') : Reports host s d
  | task (depth : Nat) {task : Task} {s' : Store} (htask : task.Rooted)
      (h : perform host depth task s = .error (.script d) s') : Reports host s d

/-- The fault is no diagnostic without a place. -/
def Fault.Located : Fault → Prop
  | .script d => d.location.isSome
  | _ => True

section Runs

variable {host : Host} {s s' : Store} {runner : Runner} {source : Source} {d : Diagnostic}

theorem Store.Held.withRecorders {P : Value → Prop} (h : s.Held P) (recorders : Array Recorder) :
    { s with recorders := recorders }.Held P :=
  h.withFrames rfl rfl rfl h.binds h.distinct

theorem Run.Grounded.after {α : Type} {Q : α → Prop} {m : Run α} (h : m.Grounded Q)
    (hs : s.Held Value.Rooted) : (m.after s).Held Value.Rooted := by
  have hms := h s hs
  unfold Run.GroundedAt at hms
  cases hm : m s with
  | ok a s' =>
      rw [hm] at hms
      exact Run.after_of_ok hm ▸ hms.1
  | error fault s' =>
      rw [hm] at hms
      exact Run.after_of_error hm ▸ hms.1

theorem sited_of_grounded {α : Type} {Q : α → Prop} {m : Run α} (h : m.Grounded Q)
    (hs : s.Held Value.Rooted) {fault : Fault} (hm : m s = .error fault s') : fault.Sited := by
  have hms := h s hs
  unfold Run.GroundedAt at hms
  rw [hm] at hms
  exact hms.2

theorem grounded_evaluate (hhost : host.Rooted) (runner : Runner) (source : Source) :
    (runner.evaluate host source).Grounded Value.Rooted := by
  have heard (effect : Effect) :
      Run.Grounded (fun _ => True) (modify (·.record runner.recorder effect) : Run PUnit) :=
    .modify fun s hs => hs.withRecorders _
  refine (grounded_load source).bind fun loaded hloaded => ?_
  have hprogram : loaded.2.StemsFrom (runner.scope source).source := hloaded
  have hstart : (runner.start host source loaded.2).Grounded Value.Rooted := by
    intro s hs
    exact runProgram_grounded hhost s.world.limits.tasks hprogram s hs
  exact .ite (((heard _).bind fun _ _ => heard _).bind fun _ _ => hstart) hstart

/-- A run ends with an error if its evaluation stopped with it. -/
theorem evaluate_of_error {e : Execution} (h : runner.handle host source s = .ok e s')
    (herror : e.error = some d) :
    ∃ t, runner.evaluate host source (runner.begun s) = .error (.script d) t := by
  rw [Runner.handle_eq] at h
  cases hout : runner.evaluate host source (runner.begun s) with
  | ok v t =>
      rw [hout] at h
      cases h
      cases herror
  | error fault t =>
      rw [hout] at h
      cases fault with
      | script d' =>
          cases h
          cases herror
          exact ⟨t, rfl⟩
      | _ => cases h

theorem held_handle (hhost : host.Rooted) (hs : s.Held Value.Rooted) :
    ((runner.handle host source).after s).Held Value.Rooted := by
  have hbegun : (runner.begun s).Held Value.Rooted := hs.withRecorders _
  have hevaluate := (grounded_evaluate hhost runner source).after hbegun
  simp only [Run.after, Runner.handle_eq] at hevaluate ⊢
  cases hout : runner.evaluate host source (runner.begun s) with
  | ok v t =>
      rw [hout] at hevaluate
      exact hevaluate
  | error fault t =>
      rw [hout] at hevaluate
      cases fault with
      | script d => exact hevaluate.withRecorders _
      | _ => exact hevaluate

/-- Whatever was done before, the closures in the store stem from their sources. -/
theorem Store.Lived.held (h : s.Lived) : s.Held Value.Rooted := by
  induction h with
  | start world => exact Store.held_empty world
  | made options _ hmembers hbindings ih => exact ih.create .library options hmembers hbindings
  | ran hhost runner source _ ih => exact held_handle hhost ih
  | did hhost depth task _ htask ih => exact (perform_grounded hhost depth htask).after ih

theorem Store.Reports.sited (hhost : host.Rooted) (hs : s.Lived) (h : s.Reports host d) :
    (Fault.script d).Sited := by
  have hheld := hs.held
  cases h with
  | run runner source hrun herror =>
      obtain ⟨t, hevaluate⟩ := evaluate_of_error hrun herror
      exact sited_of_grounded (grounded_evaluate hhost runner source) (hheld.withRecorders _)
        hevaluate
  | program depth hprogram hrun =>
      exact sited_of_grounded (runProgram_grounded hhost depth hprogram) hheld hrun
  | task depth htask hrun =>
      exact sited_of_grounded (perform_grounded hhost depth htask) hheld hrun

end Runs

/-! ## Reports -/

/-- The report underlines its place, or it has none and is its header alone. -/
inductive Diagnostic.Reported (d : Diagnostic) : Prop
  | underlined {loc : Location} (hlocation : d.location = some loc) (h : d.Underlines loc) :
      Reported d
  | stated (hlocation : d.location = none)
      (hformat : d.format = d.stage.label ++ ": " ++ d.message) : Reported d

section Reports

variable {host : Host} {source : Source} {s s' : Store} {d : Diagnostic}

theorem underlined_of_marked
    (h : ∃ span, d.location = some (.ofSpan source span) ∧ Marked source span) :
    ∃ loc, d.location = some loc ∧ loc.source = source ∧ d.Underlines loc := by
  obtain ⟨span, hlocation, hmarked⟩ := h
  exact ⟨_, hlocation, rfl, hmarked.underlined hlocation⟩

theorem format_of_none (h : d.location = none) :
    d.format = d.stage.label ++ ": " ++ d.message := by
  unfold Diagnostic.format
  rw [h]

theorem Fault.Sited.reported (h : (Fault.script d).Sited) : d.Reported := by
  rcases h with ⟨source, span, hlocation, hmarked⟩ | hlocation
  · exact .underlined hlocation (hmarked.underlined hlocation)
  · exact .stated hlocation (format_of_none hlocation)

theorem Fault.Native.located {fault : Fault} (h : fault.Native) : fault.Located := by
  cases fault with
  | script d => exact h.2
  | _ => trivial

theorem located_of_evaluate (hhost : host.StopsWith Fault.Located) {runner : Runner}
    (h : runner.evaluate host source s = .error (.script d) s') : (Fault.script d).Located := by
  cases htokens : tokenize source with
  | error stop =>
      cases stop with
      | refused d' =>
          cases (evaluate_of_refused htokens).symm.trans h
          obtain ⟨loc, hlocation, -⟩ := underlined_of_marked (marked_of_refused htokens)
          exact Option.isSome_of_eq_some hlocation
      | tooManyDigits digits => cases (evaluate_of_tooManyDigits htokens).symm.trans h
  | ok tokens =>
      cases hparse : parseProgram source tokens with
      | error d' =>
          cases (evaluate_of_unparsed htokens hparse).symm.trans h
          obtain ⟨loc, hlocation, -⟩ :=
            underlined_of_marked (marked_of_unparsed htokens (.inl hparse))
          exact Option.isSome_of_eq_some hlocation
      | ok program =>
          rw [evaluate_of_parsed htokens hparse] at h
          exact fault_of_runProgram (fun _ => Fault.Native.located) hhost h

/-- Where the host states no errors without a place, no report is without one. -/
theorem Store.Reports.located (hhost : host.StopsWith Fault.Located) (h : s.Reports host d) :
    d.location.isSome := by
  cases h with
  | run runner source hrun herror =>
      obtain ⟨t, hevaluate⟩ := evaluate_of_error hrun herror
      exact located_of_evaluate hhost hevaluate
  | program depth hprogram hrun =>
      exact fault_of_runProgram (fun _ => Fault.Native.located) hhost hrun
  | @task depth task s' htask hrun =>
      exact fault_of_fails (fun _ => Fault.Native.located) hhost (a := ⟨depth, task, s⟩) ⟨s', hrun⟩

end Reports

/-- **Reports underline exactly the text that they are about.**  Errors of the scanner and of
the parser are underlined in the source that they are errors of.  So are the errors that
evaluation reports, wherever they arise, but for those that have no place and are their
headers alone; and where the host states no such errors, there are none. -/
theorem reports_underline_places :
    (∀ source d, tokenize source = .error (.refused d) →
      ∃ loc, d.location = some loc ∧ loc.source = source ∧ d.Underlines loc) ∧
    (∀ source tokens d, tokenize source = .ok tokens →
      parseProgram source tokens = .error d ∨ parseExpression source tokens = .error d →
        ∃ loc, d.location = some loc ∧ loc.source = source ∧ d.Underlines loc) ∧
    ∀ host : Host, host.Rooted → ∀ s : Store, s.Lived → ∀ d, s.Reports host d →
      d.Reported ∧
        (host.StopsWith Fault.Located → ∃ loc, d.location = some loc ∧ d.Underlines loc) := by
  refine ⟨?_, ?_, ?_⟩
  · intro source d h
    exact underlined_of_marked (marked_of_refused h)
  · intro source tokens d htokens h
    exact underlined_of_marked (marked_of_unparsed htokens h)
  · intro host hhost s hs d hd
    have hsited := hd.sited hhost hs
    refine ⟨hsited.reported, fun hlocated => ?_⟩
    rcases hsited with ⟨source, span, hlocation, hmarked⟩ | hlocation
    · exact ⟨_, hlocation, hmarked.underlined hlocation⟩
    · have hsome := hd.located hlocated
      rw [hlocation] at hsome
      cases hsome

/-! ## Three reports that underline, and one that does not -/

/-- A statement without its end, in the line before the last. -/
def unended : Source := { text := "x\r\n" }

def unendedTokens : List Token := [⟨.identifier "x", "x", inFirstLine 0 1⟩]

/-- The report of `unended`, at the end of the source. -/
def unendedReport : Diagnostic where
  stage := .parsing
  cause := .expected "';'" none
  location := some (.ofSpan unended (.point ⟨3, 2, 1⟩))

/-- A call behind a tab that ends in the second line. -/
def tabbed : Source := { text := "\tf(\n1);" }

def tabbedPieces : List Piece :=
  [⟨.whitespace, ['\t']⟩, ⟨.identifier, ['f']⟩, ⟨.operator, ['(']⟩, ⟨.newline, ['\n']⟩,
   ⟨.integer, ['1']⟩, ⟨.operator, [')']⟩, ⟨.operator, [';']⟩]

def tabbedNodes : List Node :=
  [.call "f" [.literal (.integer 1) ⟨⟨4, 2, 1⟩, ⟨5, 2, 2⟩⟩] ⟨⟨1, 1, 2⟩, ⟨6, 2, 3⟩⟩]

def tabbedReport : Diagnostic where
  stage := .evaluation
  cause := .notCallable "f" "none"
  location := some (.ofSpan tabbed ⟨⟨1, 1, 2⟩, ⟨6, 2, 3⟩⟩)

example : unendedReport.format =
    "ParseError: Expected ';', found end of input\nline 2: \n        ^" := by decide +kernel

example : tabbedReport.format =
    "EvalError: 'f' is not callable (none)\nline 1: \tf(\n        \t^^" := by decide +kernel

theorem lived_plainStore : plainStore.Lived := .made {} (.start {}) nofun nofun

theorem tabbed_runs :
    ∃ e s', plainRunner.handle attemptingHost tabbed plainStore = .ok e s' ∧
      e.error = some tabbedReport := by
  have hread : tabbed.IsReadAs tabbedNodes :=
    ⟨_, _, tokenize_eq_ok_iff.2 ⟨tabbedPieces, by decide +kernel, by decide +kernel, rfl⟩,
      parseProgram_eq_ok_iff.2 ⟨_, rfl, rfl⟩⟩
  exact handle_of_reported rfl rfl hread rfl

/-- What an attempt ends with honours what is said of texts, and of all faults that it may
come to. -/
theorem attemptingHost_honours {contract : Contract}
    (hhead : ∀ n (args : List Value), (∀ v ∈ args, contract.value n v) →
      contract.value n (args.headD .nothing))
    (htext : ∀ n text, contract.value n (.text text)) : attemptingHost.Honours contract := by
  intro n f args hargs
  refine .call (hhead n args hargs) nofun ?_ ?_
  · intro m v _ hv
    exact .done hv
  · intro m fault _ hfault
    cases fault with
    | script d => exact .done (htext m _)
    | _ => exact .stopped hfault

theorem attemptingHost_rooted : attemptingHost.Rooted := by
  refine attemptingHost_honours ?_ fun n text => .plain rfl
  intro n args hargs
  cases args with
  | nil => exact .plain rfl
  | cons f rest => exact hargs f List.mem_cons_self

theorem attemptingHost_located : attemptingHost.StopsWith Fault.Located :=
  attemptingHost_honours (fun _ _ _ => trivial) fun _ _ => trivial

theorem three_reports_underlined :
    (∃ d, tokenize strayScript = .error (.refused d) ∧
      ∃ loc, d.location = some loc ∧ loc.source = strayScript ∧ d.Underlines loc) ∧
    (tokenize unended = .ok unendedTokens ∧
      parseProgram unended unendedTokens = .error unendedReport ∧
      ∃ loc, unendedReport.location = some loc ∧ loc.source = unended ∧
        unendedReport.Underlines loc) ∧
    attemptingHost.Rooted ∧ attemptingHost.StopsWith Fault.Located ∧ plainStore.Lived ∧
      plainStore.Reports attemptingHost tabbedReport ∧ tabbedReport.Reported ∧
      ∃ loc, tabbedReport.location = some loc ∧ tabbedReport.Underlines loc := by
  obtain ⟨hscanning, hparsing, hrunning⟩ := reports_underline_places
  have hstray : tokenize strayScript = .error (.refused (strayReport strayScript)) :=
    tokenize_stray rfl
  have htokens : tokenize unended = .ok unendedTokens :=
    tokenize_eq_ok_iff.2 ⟨[⟨.identifier, ['x']⟩, ⟨.newline, ['\r', '\n']⟩], by decide +kernel,
      by decide +kernel, rfl⟩
  have hparse : parseProgram unended unendedTokens = .error unendedReport :=
    (Parser.wholeProgram_eq (.ofTokens unended unendedTokens)).trans rfl
  obtain ⟨e, s', hrun, herror⟩ := tabbed_runs
  have htabbed : plainStore.Reports attemptingHost tabbedReport := .run _ _ hrun herror
  obtain ⟨hreported, hunderlined⟩ :=
    hrunning _ attemptingHost_rooted _ lived_plainStore _ htabbed
  exact ⟨⟨_, hstray, hscanning _ _ hstray⟩, ⟨htokens, hparse, hparsing _ _ _ htokens (.inl hparse)⟩,
    attemptingHost_rooted, attemptingHost_located, lived_plainStore, htabbed, hreported,
    hunderlined attemptingHost_located⟩

/-- A script that calls a function of the host. -/
def stating : Source := { text := "f(1);" }

def statingPieces : List Piece :=
  [⟨.identifier, ['f']⟩, ⟨.operator, ['(']⟩, ⟨.integer, ['1']⟩, ⟨.operator, [')']⟩,
   ⟨.operator, [';']⟩]

def statingNodes : List Node :=
  [.call "f" [.literal (.integer 1) (inFirstLine 2 1)] (inFirstLine 0 4)]

/-- The store of a runner that has the function. -/
def statingStore (world : World) : Store :=
  (Runner.create { bindings := [("f", .function (.host ⟨0, "f", "function"⟩))] }).after
    { world := world }

/-- An error that is stated without a place. -/
def statedReport : Diagnostic := { stage := .evaluation, cause := .stated "x" }

def statingHost : Host := ⟨fun _ _ => .finish (.error (.script statedReport))⟩

/-- An error that the host states without a place is a report that underlines nothing. -/
theorem stated_report_underlines_nothing :
    statingHost.Rooted ∧ (statingStore {}).Lived ∧
      ∃ e s', plainRunner.handle statingHost stating (statingStore {}) = .ok e s' ∧
        e.error = some statedReport ∧ ∀ loc, ¬ statedReport.Underlines loc := by
  have hhost : statingHost.Rooted := by
    intro n f args hargs
    exact .stopped (.inr rfl)
  have hlived : (statingStore {}).Lived := by
    refine .made _ (.start {}) nofun ?_
    intro b hb
    rw [List.mem_singleton.1 hb]
    exact .host _
  have hread : stating.IsReadAs statingNodes :=
    ⟨_, _, tokenize_eq_ok_iff.2 ⟨statingPieces, by decide +kernel, by decide +kernel, rfl⟩,
      parseProgram_eq_ok_iff.2 ⟨_, rfl, rfl⟩⟩
  have hreported : ∃ e s', plainRunner.handle statingHost stating (statingStore {}) = .ok e s' ∧
      e.error = some statedReport := handle_of_reported rfl rfl hread rfl
  obtain ⟨e, s', hrun, herror⟩ := hreported
  refine ⟨hhost, hlived, e, s', hrun, herror, ?_⟩
  rintro loc ⟨line, before, after, -, hformat⟩
  have hlength := congrArg String.length hformat
  rw [format_of_none rfl] at hlength
  simp only [String.length_append] at hlength
  have hbreak : "\n".length = 1 := rfl
  omega

end Scriptlet
