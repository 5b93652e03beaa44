/-
# Transactions

A transaction works on a copy of a frame and commits the copy when its steps finish.  It is
the same as its steps done on the frame itself, at every depth of transactions in
transactions, or it is as if nothing had been done (`transactions_commit_whole`).

## All of it

Everything that is done to a frame, short of unbinding a name, keeps the names that it
binds where they are and adds new ones behind them (`names_prefix_outcome`): also a
commit, whatever it writes, and so also a transaction, whatever happened inside it.  That is
why committing a working copy, which only writes, gives back the copy itself, with the order
of its names (`commit_of_prefix`).

Where a name was unbound in the copy, this is no longer so.  A commit takes no binding away,
so the name is bound again, to what it was bound to before; the names of the copy have the
values that they have there.

## Nothing of it

An abort goes outwards until something handles it.  A history that is run step by step
handles it at the copy or at the transaction in whose steps it is.  An embedding program may
do so there, at one of the two only, or further out, so the laws are about all four ways
(`Handlers`): a transaction that lets an abort through has dropped its working copy by then,
and the frame is as it was for whoever handles the abort.

`outcome` says what a step does under given handlers; for the handlers of histories it is
`FrameStep.run` (`finished_outcome_eq_run`).
-/
import Scriptlet.Proofs.Evaluation.Frames
import Scriptlet.Value.FrameStep

namespace Scriptlet

/-! ## Entries that are written over -/

namespace Entries

variable {ν : Type} {xs ys : List (String × ν)} {key : String} {value : ν}

theorem put_append {front : List (String × ν)} (h : key ∉ front.map Prod.fst)
    (xs : List (String × ν)) :
    put (· == ·) key value (front ++ xs) = front ++ put (· == ·) key value xs := by
  induction front with
  | nil => rfl
  | cons entry front ih =>
      rw [List.map_cons, List.mem_cons, not_or] at h
      have hkey : (entry.1 == key) = false := beq_false_of_ne (Ne.symm h.1)
      rw [List.cons_append, put, hkey, if_neg Bool.false_ne_true, ih h.2, List.cons_append]

/-- A value is put under a key in its place, or behind all others. -/
theorem keys_put (key : String) (value : ν) (xs : List (String × ν)) :
    (put (· == ·) key value xs).map Prod.fst =
      if key ∈ xs.map Prod.fst then xs.map Prod.fst else xs.map Prod.fst ++ [key] := by
  induction xs with
  | nil => rfl
  | cons entry xs ih =>
      by_cases hkey : entry.1 = key
      · simp [put, hkey]
      · have hother : (entry.1 == key) = false := beq_false_of_ne hkey
        rw [put, hother, if_neg Bool.false_ne_true, List.map_cons, ih]
        by_cases hmem : key ∈ xs.map Prod.fst
        · simp [hmem]
        · simp [hmem, Ne.symm hkey]

theorem keys_prefix_put (key : String) (value : ν) (xs : List (String × ν)) :
    xs.map Prod.fst <+: (put (· == ·) key value xs).map Prod.fst := by
  rw [keys_put]
  split
  · exact List.prefix_rfl
  · exact List.prefix_append ..

theorem keys_prefix_putAll (xs news : List (String × ν)) :
    xs.map Prod.fst <+: (putAll (· == ·) xs news).map Prod.fst := by
  induction news generalizing xs with
  | nil => exact List.prefix_rfl
  | cons entry news ih => exact (keys_prefix_put entry.1 entry.2 xs).trans (ih _)

/-- Entries written over entries whose keys they begin with are all that is left, behind
what has other keys. -/
theorem putAll_append (front : List (String × ν)) (hkeys : xs.map Prod.fst <+: ys.map Prod.fst)
    (hdistinct : ((front ++ ys).map Prod.fst).Nodup) :
    putAll (· == ·) (front ++ xs) ys = front ++ ys := by
  induction ys generalizing front xs with
  | nil =>
      obtain rfl : xs = [] := List.map_eq_nil_iff.1 (List.prefix_nil.1 hkeys)
      rfl
  | cons entry ys ih =>
      obtain ⟨key, value⟩ := entry
      have hfront : key ∉ front.map Prod.fst := by
        rw [List.map_append, List.nodup_append] at hdistinct
        intro hmem
        exact hdistinct.2.2 key hmem key (by simp) rfl
      -- the entry is written in its place: what is written stands in front from now on
      have hwritten : ∃ rest,
          put (· == ·) key value (front ++ xs) = (front ++ [(key, value)]) ++ rest
          ∧ rest.map Prod.fst <+: ys.map Prod.fst := by
        rw [put_append hfront]
        cases xs with
        | nil => exact ⟨[], by simp [put], List.nil_prefix⟩
        | cons old xs =>
            obtain ⟨hkey, hrest⟩ := List.cons_prefix_cons.1 hkeys
            refine ⟨xs, ?_, hrest⟩
            simp [put, show old.1 = key from hkey]
      obtain ⟨rest, hput, hrest⟩ := hwritten
      show putAll (· == ·) (put (· == ·) key value (front ++ xs)) ys = _
      rw [hput, ih (front ++ [(key, value)]) hrest (by simpa using hdistinct)]
      simp

end Entries

/-! ## Frames that only grow -/

namespace Frame

variable {frame working : Frame}

theorem names_prefix_insert (frame : Frame) (name : String) (value : Value) :
    frame.names <+: (frame.insert name value).names :=
  Entries.keys_prefix_put name value frame.bindings

theorem names_prefix_commit (frame working : Frame) :
    frame.names <+: (frame.commit working).names := by
  unfold commit
  split
  · next hsame =>
      have hnames : frame.names = working.names := names_eq_of_sameNames hsame
      exact hnames ▸ List.prefix_rfl
  · exact Entries.keys_prefix_putAll frame.bindings working.bindings

theorem commit_of_prefix (hnames : frame.names <+: working.names) (hd : working.Distinct) :
    frame.commit working = working := by
  unfold commit
  split
  · rfl
  · exact congrArg Frame.mk (Entries.putAll_append [] hnames hd)

theorem Distinct.erase (h : frame.Distinct) (name : String) : (frame.erase name).Distinct := by
  have hsub : ∀ bindings : List (String × Value),
      (Entries.erase (· == ·) name bindings).Sublist bindings := by
    intro bindings
    induction bindings with
    | nil => exact .slnil
    | cons entry rest ih =>
        rw [Entries.erase]
        split
        · exact List.sublist_cons_self ..
        · exact ih.cons_cons entry
  exact List.Nodup.sublist ((hsub frame.bindings).map Prod.fst) h

end Frame

/-! ## Steps -/

namespace FrameStep

/-- Where an abort is handled: around the steps on a copy, around those of a transaction. -/
structure Handlers where
  copies : Bool := true
  transactions : Bool := true

/-- The frame that is left, and whether an abort goes on outwards. -/
structure Outcome where
  frame : Frame
  aborted : Bool := false

/-- The frame, where no abort goes on. -/
def Outcome.finished? (o : Outcome) : Option Frame := if o.aborted then none else some o.frame

mutual

/-- What comes of a step. -/
def outcome (handlers : Handlers) (frame : Frame) : FrameStep → Outcome
  | .set (.text name) value => ⟨frame.insert name value, false⟩
  | .erase name => ⟨if frame.contains name then frame.erase name else frame, false⟩
  | .commit bindings => ⟨frame.commit (.ofBindings bindings), false⟩
  | .copy steps => ⟨frame, (outcomeAll handlers frame steps).aborted && !handlers.copies⟩
  | .transaction steps =>
    let inner := outcomeAll handlers frame steps
    if inner.aborted then ⟨frame, !handlers.transactions⟩ else ⟨frame.commit inner.frame, false⟩
  | .abort => ⟨frame, true⟩
  | _ => ⟨frame, false⟩

/-- What comes of steps, taken in order. -/
def outcomeAll (handlers : Handlers) (frame : Frame) : List FrameStep → Outcome
  | [] => ⟨frame, false⟩
  | step :: rest =>
    let first := outcome handlers frame step
    if first.aborted then first else outcomeAll handlers first.frame rest

end

/-- An abort goes through the step: it is one, or a copy or a transaction lets one of its
steps through. -/
inductive LetsThrough (handlers : Handlers) : FrameStep → Prop
  | abort : LetsThrough handlers .abort
  | copy {steps : List FrameStep} {step : FrameStep} (h : handlers.copies = false)
      (hmem : step ∈ steps) (hstep : LetsThrough handlers step) : LetsThrough handlers (.copy steps)
  | transaction {steps : List FrameStep} {step : FrameStep} (h : handlers.transactions = false)
      (hmem : step ∈ steps) (hstep : LetsThrough handlers step) :
      LetsThrough handlers (.transaction steps)

section Running

theorem finished_outcomeAll (handlers : Handlers) (frame : Frame) (step : FrameStep)
    (rest : List FrameStep) :
    (outcomeAll handlers frame (step :: rest)).finished? =
      (outcome handlers frame step).finished?.bind fun next =>
        (outcomeAll handlers next rest).finished? := by
  rw [outcomeAll]
  cases h : (outcome handlers frame step).aborted with
  | true => simp [Outcome.finished?, h]
  | false => simp [Outcome.finished?, h]

mutual

/-- Running a step leaves its outcome, where copies and transactions handle an abort. -/
theorem finished_outcome_eq_run (frame : Frame) :
    ∀ step, (outcome {} frame step).finished? = (run frame step).map Prod.snd
  | .set key value => by cases key <;> rfl
  | .get _ | .item _ | .contains _ | .size | .names | .summary | .commit _ | .abort => rfl
  | .erase name => by
      rw [outcome, run]
      split <;> rfl
  | .copy steps => by
      rw [outcome, run]
      cases runAll frame steps <;> simp [Outcome.finished?]
  | .transaction steps => by
      have hinner := finished_outcomeAll_eq_runAll frame steps
      rw [outcome, run]
      cases haborted : (outcomeAll {} frame steps).aborted with
      | true =>
          rw [Outcome.finished?, if_pos haborted] at hinner
          rw [Option.map_eq_none_iff.1 hinner.symm]
          simp [Outcome.finished?]
      | false =>
          rw [Outcome.finished?, haborted, if_neg Bool.false_ne_true] at hinner
          obtain ⟨done, hdone, hframe⟩ := Option.map_eq_some_iff.1 hinner.symm
          rw [hdone, ← hframe]
          simp [Outcome.finished?]

theorem finished_outcomeAll_eq_runAll (frame : Frame) :
    ∀ steps, (outcomeAll {} frame steps).finished? = (runAll frame steps).map Prod.snd
  | [] => rfl
  | step :: rest => by
      rw [finished_outcomeAll, runAll, finished_outcome_eq_run frame step]
      cases run frame step with
      | none => rfl
      | some done =>
          show (outcomeAll {} done.2 rest).finished? = _
          rw [finished_outcomeAll_eq_runAll done.2 rest]
          dsimp only
          cases runAll done.2 rest <;> rfl

end

end Running

section Outcomes

variable {handlers : Handlers} {frame : Frame} {step : FrameStep} {steps : List FrameStep}

theorem frame_outcome_cases (handlers : Handlers) (frame : Frame) (step : FrameStep) :
    (outcome handlers frame step).frame = frame ∨
      (∃ name value, (outcome handlers frame step).frame = frame.insert name value) ∨
      (∃ name, step = .erase name ∧ (outcome handlers frame step).frame = frame.erase name) ∨
      ∃ working, (outcome handlers frame step).frame = frame.commit working := by
  cases step with
  | set key value =>
      cases key with
      | text name => exact .inr (.inl ⟨name, value, rfl⟩)
      | _ => exact .inl rfl
  | erase name =>
      rw [outcome]
      dsimp only
      split
      · exact .inr (.inr (.inl ⟨name, rfl, rfl⟩))
      · exact .inl rfl
  | commit bindings => exact .inr (.inr (.inr ⟨_, rfl⟩))
  | transaction steps =>
      rw [outcome]
      split
      · exact .inl rfl
      · exact .inr (.inr (.inr ⟨_, rfl⟩))
  | _ => exact .inl rfl

theorem names_prefix_outcome (herase : ∀ name, step ≠ .erase name) :
    frame.names <+: (outcome handlers frame step).frame.names := by
  obtain h | ⟨name, value, h⟩ | ⟨name, hstep, -⟩ | ⟨working, h⟩ :=
    frame_outcome_cases handlers frame step
  · exact h.symm ▸ List.prefix_rfl
  · rw [h]
    exact frame.names_prefix_insert name value
  · exact absurd hstep (herase name)
  · rw [h]
    exact frame.names_prefix_commit working

theorem distinct_outcome (hd : frame.Distinct) : (outcome handlers frame step).frame.Distinct := by
  obtain h | ⟨name, value, h⟩ | ⟨name, -, h⟩ | ⟨working, h⟩ :=
    frame_outcome_cases handlers frame step
  · rwa [h]
  · rw [h]
    exact hd.insert name value
  · rw [h]
    exact hd.erase name
  · rw [h]
    exact hd.commit working

/-! ## Histories -/

theorem names_prefix_outcomeAll (herase : ∀ name, .erase name ∉ steps) :
    frame.names <+: (outcomeAll handlers frame steps).frame.names := by
  induction steps generalizing frame with
  | nil => exact List.prefix_rfl
  | cons step steps ih =>
      have hfirst : frame.names <+: (outcome handlers frame step).frame.names :=
        names_prefix_outcome fun name heq => herase name (heq ▸ List.mem_cons_self ..)
      rw [outcomeAll]
      split
      · exact hfirst
      · exact hfirst.trans (ih fun name hmem => herase name (List.mem_cons_of_mem _ hmem))

theorem distinct_outcomeAll (hd : frame.Distinct) :
    (outcomeAll handlers frame steps).frame.Distinct := by
  induction steps generalizing frame with
  | nil => exact hd
  | cons step steps ih =>
      rw [outcomeAll]
      split
      · exact distinct_outcome hd
      · exact ih (distinct_outcome hd)

mutual

/-- An abort goes through a step or not, whatever the frame is. -/
theorem aborted_outcome_iff (handlers : Handlers) (frame : Frame) :
    ∀ step, (outcome handlers frame step).aborted = true ↔ step.LetsThrough handlers
  | .abort => ⟨fun _ => .abort, fun _ => rfl⟩
  | .copy steps => by
      have hinner := aborted_outcomeAll_iff handlers frame steps
      rw [outcome, Bool.and_eq_true, Bool.not_eq_true', hinner]
      constructor
      · rintro ⟨⟨step, hmem, hstep⟩, hcopies⟩
        exact .copy hcopies hmem hstep
      · rintro (_ | ⟨hcopies, hmem, hstep⟩)
        exact ⟨⟨_, hmem, hstep⟩, hcopies⟩
  | .transaction steps => by
      have hinner := aborted_outcomeAll_iff handlers frame steps
      rw [outcome]
      split
      · next haborted =>
          obtain ⟨step, hmem, hstep⟩ := hinner.1 haborted
          rw [Bool.not_eq_true']
          constructor
          · intro htransactions
            exact .transaction htransactions hmem hstep
          · rintro (_ | _ | ⟨htransactions, -, -⟩)
            exact htransactions
      · next haborted =>
          refine iff_of_false nofun ?_
          rintro (_ | _ | ⟨-, hmem, hstep⟩)
          exact haborted (hinner.2 ⟨_, hmem, hstep⟩)
  | .set key value => by cases key <;> exact ⟨nofun, nofun⟩
  | .get _ | .item _ | .erase _ | .contains _ | .size | .names | .summary | .commit _ =>
      ⟨nofun, nofun⟩

theorem aborted_outcomeAll_iff (handlers : Handlers) (frame : Frame) :
    ∀ steps, (outcomeAll handlers frame steps).aborted = true ↔
      ∃ step ∈ steps, step.LetsThrough handlers
  | [] => ⟨nofun, nofun⟩
  | step :: rest => by
      have hfirst := aborted_outcome_iff handlers frame step
      rw [outcomeAll]
      split
      · next haborted => simp [haborted, hfirst.1 haborted]
      · next haborted =>
          have hgoes : ¬ step.LetsThrough handlers := fun h => haborted (hfirst.2 h)
          simp [hgoes, aborted_outcomeAll_iff handlers _ rest]

end

end Outcomes

/-- **Transactions commit the whole of what was done in them, or nothing.**  A transaction
whose steps finish without unbinding a name leaves what the steps leave when they are done
on the frame itself, with the order of the names; one whose steps are stopped by an abort
leaves the frame as it was, whether it handles the abort or lets it through; and a copy
always does.  Where names were unbound, a transaction leaves the names of the working copy
with their values there and all others with the values that they had. -/
theorem transactions_commit_whole (handlers : Handlers) (frame : Frame) (hd : frame.Distinct)
    (steps : List FrameStep) :
    (∀ step, (outcome {} frame step).finished? = (run frame step).map Prod.snd) ∧
    ((outcomeAll handlers frame steps).aborted = true ↔
      ∃ step ∈ steps, step.LetsThrough handlers) ∧
    ((outcomeAll handlers frame steps).aborted = true →
      outcome handlers frame (.transaction steps) = ⟨frame, !handlers.transactions⟩) ∧
    (outcome handlers frame (.copy steps)).frame = frame ∧
    (∀ last, outcomeAll handlers frame steps = ⟨last, false⟩ →
      last.Distinct ∧ outcome handlers frame (.copy steps) = ⟨frame, false⟩ ∧
      ∃ next, outcome handlers frame (.transaction steps) = ⟨next, false⟩ ∧
        ((∀ name, .erase name ∉ steps) → next = last) ∧
        ∀ name, next.get? name = (last.get? name).or (frame.get? name)) := by
  refine ⟨finished_outcome_eq_run frame, aborted_outcomeAll_iff handlers frame steps, fun h => ?_,
    rfl, fun last h => ?_⟩
  · rw [outcome]
    exact if_pos h
  · have hlast : last.Distinct := by
      have hdistinct : (outcomeAll handlers frame steps).frame.Distinct := distinct_outcomeAll hd
      rwa [h] at hdistinct
    refine ⟨hlast, ?_, frame.commit last, ?_, fun herase => ?_, fun name => ?_⟩
    · rw [outcome, h]
      rfl
    · rw [outcome, h]
      rfl
    · have hnames : frame.names <+: (outcomeAll handlers frame steps).frame.names :=
        names_prefix_outcomeAll herase
      rw [h] at hnames
      exact Frame.commit_of_prefix hnames hlast
    · exact Frame.get?_commit hlast frame name

/-- A frame with two names. -/
def pairFrame : Frame := ⟨[("x", .int 1), ("y", .int 2)]⟩

/-- Steps with an aborted transaction, a transaction that unbinds a name, a copy and a
commit among them. -/
def nestedSteps : List FrameStep :=
  [.set (.text "z") (.int 3), .transaction [.set (.text "x") (.int 9), .erase "y", .abort],
   .transaction [.set (.text "w") (.int 4), .erase "x"], .copy [.set (.text "q") (.int 5)],
   .commit [("x", .int 7)]]

/-- What the steps leave. -/
def nestedLast : Frame := ⟨[("x", .int 7), ("y", .int 2), ("z", .int 3), ("w", .int 4)]⟩

theorem nestedSteps_commit_whole :
    pairFrame.Distinct ∧ outcomeAll {} pairFrame nestedSteps = ⟨nestedLast, false⟩ ∧
      outcome {} pairFrame (.transaction nestedSteps) = ⟨nestedLast, false⟩ ∧
      outcome ⟨false, false⟩ pairFrame (.transaction [.erase "x", .transaction [.abort]]) =
        ⟨pairFrame, true⟩ := by
  have hd : pairFrame.Distinct := by
    show ["x", "y"].Nodup
    decide
  have hlast : outcomeAll {} pairFrame nestedSteps = ⟨nestedLast, false⟩ := rfl
  obtain ⟨-, -, -, -, hfinished⟩ := transactions_commit_whole {} pairFrame hd nestedSteps
  obtain ⟨-, -, next, hnext, hwhole, -⟩ := hfinished nestedLast hlast
  obtain rfl := hwhole fun name hmem => by simp [nestedSteps] at hmem
  obtain ⟨-, hthrough, haborted, -, -⟩ :=
    transactions_commit_whole ⟨false, false⟩ pairFrame hd [.erase "x", .transaction [.abort]]
  have hinner : LetsThrough ⟨false, false⟩ (.transaction [.abort]) :=
    .transaction rfl (List.mem_cons_self ..) .abort
  exact ⟨hd, hlast, hnext, haborted (hthrough.2 ⟨_, by simp, hinner⟩)⟩

end FrameStep

end Scriptlet
