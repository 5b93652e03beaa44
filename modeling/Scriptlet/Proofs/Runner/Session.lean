/-
# Sessions at a terminal

A session takes typed lines until one of them says to end.  The lines in front of that one
are run in order, each in the store that the one before left (`RanLines`), and a line whose
script is refused or stops does not end the session: its report is written, and the next
line is taken.

## What ends a session

A line that says to end, or the end of the lines.  And three things end it with a fault
(`Breaks`).

    escaped        the run of the line does not come to an execution, as a run of any
                   runner may not (`Outcomes`)
    interrupted    a function of the host interrupts the run
    unwritable     the value of the line cannot be written

The last is the session's own.  It puts the value of a line into words itself, after the
run, where nothing catches what keeps it from being written: a list that holds itself or an
integer that is too long ends the session, although printing the same value is only
reported.  `knot_breaks_session` is a session that ends so, with lines behind that are never
taken.

`session_outcome` says that there is nothing else, for any host, in any store and so for any
limits of the platform.  It is an induction on the lines with `runLine_outcome` for one of
them; what is written up to a break is what the lines in front of it wrote.
-/
import Scriptlet.Proofs.Runner.Outcomes
import Scriptlet.Runner.Command

namespace Scriptlet

open Evaluator

/-! ## Lines -/

namespace Command

/-- A typed line without the blanks around it. -/
def trimmed (typed : String) : String := String.ofList (Text.trimBlanks typed.toList)

/-- The lines that a session runs: those in front of the first that says to end, but for
empty ones. -/
def scripts (lines : List String) : List String :=
  ((lines.map trimmed).takeWhile (· != exitWord)).filter (· != "")

/-- Whether a line says to end. -/
def isEnded (lines : List String) : Bool := (lines.map trimmed).contains exitWord

def lineSource (line : String) : Source := { text := line, name := "<repl>", path := none }

section Lines

variable {runner : Runner} {host : Host}

/-- A session runs its scripts one after the other, and takes leave if no line said to end. -/
theorem runLines_eq (w : Written) (lines : List String) :
    runLines runner host w lines = do
      let w' ← (scripts lines).foldlM (runLine runner host) w
      return if isEnded lines then w' else w'.out farewell := by
  induction lines generalizing w with
  | nil => rfl
  | cons typed rest ih =>
      have htake : takeLine runner host w typed =
          if trimmed typed == "" then pure (w, true)
          else if trimmed typed == exitWord then pure (w, false)
          else runLine runner host w (trimmed typed) >>= fun written =>
            pure (written, true) := rfl
      rw [runLines, htake]
      by_cases hempty : trimmed typed = ""
      · have hne : exitWord ≠ "" := by decide
        have hscripts : scripts (typed :: rest) = scripts rest := by
          simp [scripts, hempty, hne.symm]
        have hended : isEnded (typed :: rest) = isEnded rest := by
          simp [isEnded, hempty, hne]
        rw [if_pos (by simpa using hempty), pure_bind, hscripts, hended]
        exact ih w
      · by_cases hexit : trimmed typed = exitWord
        · have hscripts : scripts (typed :: rest) = [] := by
            simp [scripts, hexit]
          have hended : isEnded (typed :: rest) = true := by
            simp [isEnded, hexit]
          rw [if_neg (by simpa using hempty), if_pos (by simpa using hexit), pure_bind, hscripts,
            hended]
          rfl
        · have hscripts : scripts (typed :: rest) = trimmed typed :: scripts rest := by
            simp [scripts, hempty, hexit]
          have hended : isEnded (typed :: rest) = isEnded rest := by
            simp [isEnded, Ne.symm hexit]
          rw [if_neg (by simpa using hempty), if_neg (by simpa using hexit), bind_assoc, hscripts,
            hended, List.foldlM_cons, bind_assoc]
          refine bind_congr fun written => ?_
          rw [pure_bind]
          exact ih written

end Lines

/-! ## What comes of a line -/

/-- What is written of a line whose run came to an execution: what the run wrote, and then
its value, if it has one. -/
inductive Shows (w : Written) (e : Execution) (s : Store) : Written → Prop
  | only (h : e.status = .error ∨ e.value = .nothing) : Shows w e s (w.execution s e)
  | value {text : String} (hstatus : e.status = .success) (hvalue : e.value ≠ .nothing)
      (htext : s.render e.value = .ok text) : Shows w e s ((w.execution s e).out text)

/-- Lines are run one after the other, each in the store that the one before left, and each
of them is done with. -/
inductive RanLines (runner : Runner) (host : Host) :
    List String → Written → Store → Written → Store → Prop
  | nil {w : Written} {s : Store} : RanLines runner host [] w s w s
  | cons {line : String} {rest : List String} {w w' w'' : Written} {s t u : Store}
      {e : Execution} (hrun : runner.handle host (lineSource line) s = .ok e t)
      (hshows : Shows w e t w') (hrest : RanLines runner host rest w' t w'' u) :
      RanLines runner host (line :: rest) w s w'' u

/-- A line that ends a session with a fault: its run does not come to an execution, or the
value that it comes to cannot be written. -/
inductive Breaks (runner : Runner) (host : Host) (line : String) (s : Store) : Fault → Prop
  | escaped {mishap : Mishap} {t : Store}
      (hrun : runner.handle host (lineSource line) s = .error (.raised mishap) t)
      (h : Escapes host runner (lineSource line) s mishap) :
      Breaks runner host line s (.raised mishap)
  | interrupted {kind : String} {t : Store}
      (hrun : runner.handle host (lineSource line) s = .error (.interrupted kind) t) :
      Breaks runner host line s (.interrupted kind)
  | unwritable {e : Execution} {t : Store} {why : Obstacle}
      (hrun : runner.handle host (lineSource line) s = .ok e t)
      (hstatus : e.status = .success) (h : t.render e.value = .error why) :
      Breaks runner host line s why.fault

section Sessions

variable {host : Host} {runner : Runner} {s : Store}

theorem runLine_of_value {w : Written} {line : String} {e : Execution} {t : Store}
    (hrun : runner.handle host (lineSource line) s = .ok e t) (hstatus : e.status = .success)
    (hvalue : e.value ≠ .nothing) :
    runLine runner host w line s =
      match t.render e.value with
      | .ok text => .ok ((w.execution t e).out text) t
      | .error why => .error why.fault t := by
  have hline : runLine runner host w line s = _ := Run.bind_of_ok hrun
  have hask : runLine runner host w line s =
      (Library.ask (fun s => (s.render e.value).mapError Obstacle.fault) >>= fun text =>
        pure ((w.execution t e).out text)) t := by
    rw [hline, hstatus]
    cases hv : e.value with
    | nothing => exact absurd hv hvalue
    | _ => rfl
  rw [hask]
  cases htext : t.render e.value with
  | ok text =>
      have hasked : Library.ask (fun s => (s.render e.value).mapError Obstacle.fault) t =
          .ok text t := by
        simp only [Library.ask, htext, Except.mapError]
      exact Run.bind_of_ok hasked
  | error why =>
      have hasked : Library.ask (fun s => (s.render e.value).mapError Obstacle.fault) t =
          .error why.fault t := by
        simp only [Library.ask, htext, Except.mapError]
      exact Run.bind_of_error hasked

theorem runLine_outcome (w : Written) (line : String) (s : Store) :
    (∃ e w' t, runner.handle host (lineSource line) s = .ok e t ∧ Shows w e t w' ∧
        runLine runner host w line s = .ok w' t) ∨
      ∃ fault t, Breaks runner host line s fault ∧
        runLine runner host w line s = .error fault t := by
  cases hrun : runner.handle host (lineSource line) s with
  | error fault t =>
      have hline : runLine runner host w line s = .error fault t := Run.bind_of_error hrun
      rcases error_of_handle hrun with ⟨mishap, rfl, hescapes⟩ | ⟨kind, rfl⟩
      · exact .inr ⟨_, t, .escaped hrun hescapes, hline⟩
      · exact .inr ⟨_, t, .interrupted hrun, hline⟩
  | ok e t =>
      have hline : runLine runner host w line s = _ := Run.bind_of_ok hrun
      cases hstatus : e.status with
      | error =>
          rw [hstatus] at hline
          exact .inl ⟨e, _, t, rfl, .only (.inl hstatus), hline⟩
      | success =>
          by_cases hvalue : e.value = .nothing
          · rw [hstatus, hvalue] at hline
            exact .inl ⟨e, _, t, rfl, .only (.inr hvalue), hline⟩
          · have hwritten := runLine_of_value hrun hstatus hvalue (w := w)
            cases htext : t.render e.value with
            | ok text =>
                rw [htext] at hwritten
                exact .inl ⟨e, _, t, rfl, .value hstatus hvalue htext, hwritten⟩
            | error why =>
                rw [htext] at hwritten
                exact .inr ⟨_, t, .unwritable hrun hstatus htext, hwritten⟩

/-- Lines are run up to the first that breaks the session. -/
theorem foldlM_runLine (w : Written) (lines : List String) (s : Store) :
    (∃ w' t, RanLines runner host lines w s w' t ∧
        lines.foldlM (runLine runner host) w s = .ok w' t) ∨
      ∃ front line back w' t fault u, lines = front ++ line :: back ∧
        RanLines runner host front w s w' t ∧ Breaks runner host line t fault ∧
        lines.foldlM (runLine runner host) w s = .error fault u := by
  induction lines generalizing s w with
  | nil => exact .inl ⟨w, s, .nil, rfl⟩
  | cons line rest ih =>
      rw [List.foldlM_cons]
      rcases runLine_outcome w line s with
        ⟨e, w', t, hrun, hshows, hline⟩ | ⟨fault, t, hbreaks, hline⟩
      · rw [Run.bind_of_ok hline]
        rcases ih w' t with ⟨w'', u, hran, hrest⟩ |
          ⟨front, other, back, w'', u, fault, u', rfl, hran, hbreaks, hrest⟩
        · exact .inl ⟨w'', u, .cons hrun hshows hran, hrest⟩
        · exact .inr ⟨line :: front, other, back, w'', u, fault, u', rfl, .cons hrun hshows hran,
            hbreaks, hrest⟩
      · rw [Run.bind_of_error hline]
        exact .inr ⟨[], line, rest, w, s, fault, t, rfl, .nil, hbreaks, rfl⟩

/-- **A session runs its lines in order and ends with status 0, unless a line breaks it.**  A
line that is refused or stopped does not; one does whose run does not come to an execution,
and one does whose value cannot be written. -/
theorem session_outcome (runner : Runner) (host : Host) (lines : List String) (s : Store) :
    (∃ w t, RanLines runner host (scripts lines) greeting s w t ∧
        interact runner host lines s =
          .ok (0, if isEnded lines then w else w.out farewell) t) ∨
      ∃ front line back w t fault u, scripts lines = front ++ line :: back ∧
        RanLines runner host front greeting s w t ∧
        Breaks runner host line t fault ∧
        interact runner host lines s = .error fault u := by
  have hinteract : interact runner host lines =
      (scripts lines).foldlM (runLine runner host) greeting >>= fun w =>
        pure (0, if isEnded lines then w else w.out farewell) := by
    rw [interact, runLines_eq, bind_assoc]
    rfl
  rw [hinteract]
  rcases foldlM_runLine greeting (scripts lines) s with ⟨w, t, hran, hlines⟩ |
    ⟨front, line, back, w, t, fault, u, heq, hran, hbreaks, hlines⟩
  · exact .inl ⟨w, t, hran, Run.bind_of_ok hlines⟩
  · exact .inr ⟨front, line, back, w, t, fault, u, heq, hran, hbreaks, Run.bind_of_error hlines⟩

end Sessions

/-- A list that holds only itself cannot be written, however deep one looks. -/
theorem renderUpTo_of_self {s : Store} {ref : ListRef} (h : s.list ref = #[.list ref])
    (depth : Nat) : s.renderUpTo depth (.list ref) = .error .tooDeep := by
  induction depth with
  | zero => rfl
  | succ depth ih =>
      simp only [Store.renderUpTo, Store.entries?, h]
      rw [List.mapM_cons, ih]
      rfl

/-- A line that puts a list into itself. -/
def knot : String := "xs = []; push(xs, xs);"

def knotPieces : List Piece :=
  [⟨.identifier, ['x', 's']⟩, ⟨.whitespace, [' ']⟩, ⟨.operator, ['=']⟩, ⟨.whitespace, [' ']⟩,
   ⟨.operator, ['[']⟩, ⟨.operator, [']']⟩, ⟨.operator, [';']⟩, ⟨.whitespace, [' ']⟩,
   ⟨.identifier, ['p', 'u', 's', 'h']⟩, ⟨.operator, ['(']⟩, ⟨.identifier, ['x', 's']⟩,
   ⟨.operator, [',']⟩, ⟨.whitespace, [' ']⟩, ⟨.identifier, ['x', 's']⟩, ⟨.operator, [')']⟩,
   ⟨.operator, [';']⟩]

def knotNodes : List Node :=
  [.assignment "xs" (.list [] (inFirstLine 5 2)) (inFirstLine 0 7),
   .call "push" [.identifier "xs" (inFirstLine 14 2), .identifier "xs" (inFirstLine 18 2)]
    (inFirstLine 9 12)]

/-- The store that `knot` leaves. -/
def knotted : Store :=
  (evalStatements (perform .none 1999) (plainRunner.scope (lineSource knot)) .nothing
    knotNodes).after (plainRunner.begun plainStore)

theorem knot_runs :
    plainRunner.handle .none (lineSource knot) plainStore =
      .ok { status := .success, value := .list 0 } knotted := by
  have hread : (lineSource knot).IsReadAs knotNodes :=
    ⟨_, _, tokenize_eq_ok_iff.2 ⟨knotPieces, by decide +kernel, by decide +kernel, rfl⟩,
      parseProgram_eq_ok_iff.2 ⟨_, rfl, rfl⟩⟩
  have hrun : evalStatements (perform .none 1999) (plainRunner.scope (lineSource knot)) .nothing
      knotNodes (plainRunner.begun plainStore) = .ok (.list 0) knotted := rfl
  exact handle_of_finished rfl rfl hread hrun

theorem render_knot : knotted.render (.list 0) = .error .tooDeep := by
  have hself : knotted.list 0 = #[.list 0] := rfl
  exact renderUpTo_of_self hself knotted.world.limits.depth

theorem not_shows_knot {w w' : Written} :
    ¬ Shows w { status := .success, value := .list 0 } knotted w' := by
  intro hshows
  cases hshows with
  | only h =>
      rcases h with h | h
      · cases h
      · cases h
  | value _ _ htext => cases render_knot.symm.trans htext

theorem knot_breaks_session :
    scripts [knot, " ", "1;"] = [knot, "1;"] ∧
      ∃ u, interact plainRunner .none [knot, " ", "1;"] plainStore = .error .exhausted u := by
  have hscripts : scripts [knot, " ", "1;"] = [knot, "1;"] := by decide +kernel
  refine ⟨hscripts, ?_⟩
  have hknot {rest : List String} {w w' : Written} {t : Store} :
      ¬ RanLines plainRunner .none (knot :: rest) w plainStore w' t := by
    intro hran
    cases hran with
    | cons hrun hshows _ =>
        cases knot_runs.symm.trans hrun
        exact not_shows_knot hshows
  rcases session_outcome plainRunner .none [knot, " ", "1;"] plainStore with ⟨w, t, hran, -⟩ |
    ⟨front, line, back, w, t, fault, u, heq, hran, hbreaks, hsession⟩
  · rw [hscripts] at hran
    exact absurd hran hknot
  · rw [hscripts] at heq
    cases front with
    | cons first front =>
        obtain ⟨rfl, -⟩ := List.cons.inj heq
        exact absurd hran hknot
    | nil =>
        obtain ⟨rfl, -⟩ := List.cons.inj heq
        cases hran
        cases hbreaks with
        | escaped hrun => cases knot_runs.symm.trans hrun
        | interrupted hrun => cases knot_runs.symm.trans hrun
        | unwritable hrun _ hwhy =>
            cases knot_runs.symm.trans hrun
            cases render_knot.symm.trans hwhy
            exact ⟨u, hsession⟩

end Command

end Scriptlet
