/-
# What calls leave in frames

A call of a closure works on a copy of the frame that the closure was made in.
Three questions about that frame, and about all others, have answers in the
history of an evaluation.

## A name that the call does not write

It is still in the copy as it was when the call began, and the final commit writes it back
(`unwritten_name_after_call`).  So the commit undoes what completed calls inside the call
made of such a name; only a name that was not bound when the call began keeps what they made
of it.  `nested_update_lost` shows an update that is lost in this way.

## A call that fails

It writes nothing by itself.  What completed inside it before the failure has been
committed, though, and stays: the captured frame is what the history of the body makes of
it, and so as it was just where that history does not reach it
(`captured_frame_after_failed_call`).

## Frames that change at all

A frame changes only by assignments in it and by commits of closures made in it
that complete (`frame_write_discipline`).

Two things could get round this, and both are the host's to bring about: a frame that is
handed out as a value can be written to by whoever has the value, and a host that has a
frame can write to it by its own hand.  The law asks that no frame is a value and that the
host holds none, in what it returns, passes on, keeps and writes (`Host.Fits`).  Calling
closures is left to it, at any time and however deep: such calls commit like others, and the
law is about them too.
-/
import Scriptlet.Proofs.Evaluation.Soundness

namespace Scriptlet

open Evaluator

/-! ## Frames after a task -/

variable {host : Host} {depth : Nat} {s : Store}

/-- What a task leaves in a frame is its history made again. -/
theorem frame_after_perform (task : Task) {ref : FrameRef} (h : ref < s.frames.size) :
    ((perform host depth task).after s).frame ref =
      Change.replay ref (s.frame ref) (history host depth task s) := by
  have hleads := (Traced.perform_accounts host depth task s).leads h
  rw [Traced.perform_run] at hleads
  exact hleads.eq_replay

theorem frame_of_unreached (task : Task) {ref : FrameRef} (h : ref < s.frames.size)
    (hquiet : ∀ change ∈ history host depth task s, ¬ change.Reaches ref) :
    ((perform host depth task).after s).frame ref = s.frame ref := by
  have hleads := (Traced.perform_accounts host depth task s).leads h
  rw [Traced.perform_run] at hleads
  exact hleads.eq_of_not_reaches hquiet

/-- A change that reaches an older frame which is not the task's own is a commit, goes
through a frame value, or is the host's. -/
theorem change_of_older_frame {task : Task} {change : Change} {ref : FrameRef}
    (hmem : change ∈ history host depth task s) (hreaches : change.Reaches ref)
    (hlt : ref < s.frames.size) (hown : ¬ task.Own ref) :
    (∃ c bindings, change = .committed c bindings) ∨
      (∃ name value, change = .stored ref name value) ∨
      ∃ before after, change = .hosted before after := by
  cases change with
  | assigned frame name value =>
      obtain rfl : frame = ref := hreaches
      rcases (Traced.perform_accounts host depth task s).assigns hmem with h | h
      · exact absurd h hown
      · exact absurd hlt (Nat.not_lt.2 h)
  | stored frame name value =>
      obtain rfl : frame = ref := hreaches
      exact .inr (.inl ⟨name, value, rfl⟩)
  | committed c bindings => exact .inl ⟨c, bindings, rfl⟩
  | hosted before after => exact .inr (.inr ⟨before, after, rfl⟩)

/-! ## Completed and failed calls -/

def Closure.call (c : Closure) (args : List Value) : Task := .apply (.function (.closure c)) args

/-- The evaluation of the body of a closure, called from a store. -/
def Closure.bodyTask (c : Closure) (s : Store) : Task := .eval (c.inside s) c.body

/-- The store just before a call ends, when its body is done. -/
def Closure.beforeCommit (c : Closure) (host : Host) (depth : Nat) (args : List Value)
    (s : Store) : Store :=
  (perform host depth (c.bodyTask s)).after (c.enter args s)

section Calls

variable {c : Closure} {args : List Value} {v : Value} {s' : Store} {fault : Fault}

theorem completed_call (h : perform host (depth + 1) (c.call args) s = .ok v s') :
    s' = c.leave s.frames.size (c.beforeCommit host depth args s) ∧
      history host (depth + 1) (c.call args) s =
        history host depth (c.bodyTask s) (c.enter args s) ++
          [.committed c ((c.beforeCommit host depth args s).frame s.frames.size)] := by
  rw [← Traced.perform_run] at h
  change (Traced.invoke (Traced.perform host depth) c args).run s = .ok v s' at h
  unfold Closure.beforeCommit
  rw [← Traced.perform_run]
  cases hr : (Traced.perform host depth (c.bodyTask s)).run (c.enter args s) with
  | ok w s₁ =>
      obtain ⟨hrun, hlog⟩ := Traced.invoke_of_ok hr
      rw [Run.after_of_ok hr]
      cases hrun.symm.trans h
      exact ⟨rfl, hlog⟩
  | error fault s₁ => cases (Traced.invoke_of_error hr).1.symm.trans h

theorem failed_call (h : perform host (depth + 1) (c.call args) s = .error fault s') :
    history host (depth + 1) (c.call args) s =
      history host depth (c.bodyTask s) (c.enter args s) := by
  rw [← Traced.perform_run] at h
  change (Traced.invoke (Traced.perform host depth) c args).run s = .error fault s' at h
  cases hr : (Traced.perform host depth (c.bodyTask s)).run (c.enter args s) with
  | ok w s₁ => cases (Traced.invoke_of_ok hr).1.symm.trans h
  | error fault s₁ => exact (Traced.invoke_of_error hr).2

/-- The final commit reads a name off the working copy first. -/
theorem get?_leave {working : FrameRef} (hc : c.frame < s.frames.size) (hne : working ≠ c.frame)
    (hd : (s.frame working).Distinct) (name : String) :
    ((c.leave working s).frame c.frame).get? name =
      ((s.frame working).get? name).or ((s.frame c.frame).get? name) := by
  have hc' : c.frame < (s.release working).frames.size := by rwa [Store.size_release]
  rw [Closure.leave, Store.frame_modifyFrame_self hc', Store.frame_release_of_ne hne,
    Frame.get?_commit hd]

theorem frame_enter_self (c : Closure) (args : List Value) (s : Store) :
    (c.enter args s).frame s.frames.size = (s.frame c.frame).bindParams c.params args :=
  Store.frame_addFrame_self s _

/-- While the body of a call is evaluated the number of frames grows, and the history leads
from the copy with its parameters to what is committed. -/
theorem accounts_beforeCommit (host : Host) (depth : Nat) (c : Closure) (args : List Value)
    (s : Store) (hs : s.Distinct) :
    s.frames.size < (c.beforeCommit host depth args s).frames.size ∧
      ((c.beforeCommit host depth args s).frame s.frames.size).Distinct ∧
      Change.Leads s.frames.size ((s.frame c.frame).bindParams c.params args)
        (history host depth (c.bodyTask s) (c.enter args s))
        ((c.beforeCommit host depth args s).frame s.frames.size) := by
  obtain ⟨hgrows, hdistinct, hleads, -⟩ :=
    Traced.perform_accounts host depth (c.bodyTask s) (c.enter args s)
  rw [Traced.perform_run] at hgrows hdistinct hleads
  rw [Closure.size_enter] at hgrows hleads
  refine ⟨hgrows, hdistinct ?_ _, ?_⟩
  · exact Store.distinct_addFrame hs ((hs c.frame).bindParams c.params args)
  · rw [← frame_enter_self]
    exact hleads (Nat.lt_succ_self _)

end Calls

/-! ## A nest of calls

    x = 1;
    inc = () => { x = 2; };
    outer = () => { inc(); };
    bad = () => { include(inc()); };
    drop = () => { x = 3; nope(); };
-/

namespace Nest

/-- A function without parameters, made in the root frame. -/
def closure (id : Nat) (items : List Node) : Closure :=
  ⟨id, [], .block items default default, default, 0, 0⟩

/-- The assignment of a number to `x`. -/
def setX (n : Nat) : Node := .assignment "x" (.literal (.integer n) default) default

/-- A call without arguments. -/
def callOf (name : String) : Node := .call name [] default

def inc : Closure := closure 0 [setX 2]

def outer : Closure := closure 1 [callOf "inc"]

def bad : Closure := closure 2 [.call includeWord [callOf "inc"] default]

def drop : Closure := closure 3 [setX 3, callOf "nope"]

/-- The statement that makes a closure and binds it. -/
def define (name : String) (c : Closure) : Node :=
  .assignment name (.function c.params c.body default) default

def program : Node :=
  .statements [setX 1, define "inc" inc, define "outer" outer, define "bad" bad,
    define "drop" drop] default

/-- The store with a new runner that binds nothing. -/
def started : Store := (Runner.create ⟨false, [], false, []⟩).after {}

/-- The store that the program leaves. -/
def store : Store := (perform .none 3 (.eval ⟨0, default, 0⟩ program)).after started

theorem reached_started : Reached (fun _ => False) .none started :=
  .created _ (.start {}) nofun nofun

theorem reached_store : Reached (fun _ => False) .none store :=
  .did 3 (.eval ⟨0, default, 0⟩ program) reached_started Nat.one_pos

/-- The store when the body of `inc`, called from another call, is done. -/
def insideInc (c : Closure) : Store :=
  (inc.enter [] (c.enter [] store)).modifyFrame 2 (·.insert "x" (.int 2))

/-- The store just before `outer` commits: `inc` has committed. -/
def beforeOuter : Store := inc.leave 2 (insideInc outer)

theorem outer_completes :
    perform .none 8 (outer.call []) store = .ok (.int 2) (outer.leave 1 beforeOuter) := rfl

theorem x_beforeCommit : (beforeOuter.frame 0).get? "x" = some (.int 2) := by
  have hd : ((insideInc outer).frame 2).Distinct := by
    unfold Frame.Distinct
    decide
  exact get?_leave (c := inc) (by decide) (by decide) hd "x"

theorem x_afterCall : ((outer.leave 1 beforeOuter).frame 0).get? "x" = some (.int 1) := by
  have hframe : beforeOuter.frame 1 = (insideInc outer).frame 1 := by
    unfold beforeOuter Closure.leave
    rw [Store.frame_modifyFrame_of_ne (by decide), Store.frame_release_of_ne (by decide)]
  have hd : (beforeOuter.frame 1).Distinct := by
    rw [hframe]
    unfold Frame.Distinct
    decide
  have hsize : 0 < beforeOuter.frames.size := by
    rw [beforeOuter, Closure.size_leave]
    decide
  have hleave := get?_leave (c := outer) hsize (by decide) hd "x"
  rw [hframe] at hleave
  exact hleave

theorem outer_writes_no_x :
    ∀ change ∈ history .none 8 (outer.call []) store, ¬ change.Writes 1 "x" := by
  have hhistory : history .none 8 (outer.call []) store =
      [.assigned 2 "x" (.int 2), .committed inc ((insideInc outer).frame 2),
        .committed outer (beforeOuter.frame 1)] := rfl
  rw [hhistory]
  intro change hmem
  simp only [List.mem_cons, List.not_mem_nil, or_false] at hmem
  -- None of the three changes reaches the working copy of `outer`, which is frame 1.
  rcases hmem with rfl | rfl | rfl
  · rintro ⟨hframe, -⟩
    exact absurd hframe (by decide)
  · rintro ⟨hframe, -⟩
    exact absurd hframe (by decide)
  · rintro ⟨hframe, -⟩
    exact absurd hframe (by decide)

end Nest

section Calls

variable {c : Closure} {args : List Value} {v : Value} {s' : Store} {fault : Fault}

/-! ## Names that a call does not write -/

/-- A completed call binds a name that it did not write in its working copy to
what the captured frame bound it to when the call began; only where the frame
did not bind it then, to what it bound it to just before the final commit. -/
theorem unwritten_name_after_call (hs : s.Distinct) (hc : c.frame < s.frames.size)
    (hcall : perform host (depth + 1) (c.call args) s = .ok v s') {name : String}
    (hparam : name ∉ c.params)
    (hquiet : ∀ change ∈ history host (depth + 1) (c.call args) s,
      ¬ change.Writes s.frames.size name) :
    (s'.frame c.frame).get? name =
      ((s.frame c.frame).get? name).or
        (((c.beforeCommit host depth args s).frame c.frame).get? name) := by
  obtain ⟨hs', hhistory⟩ := completed_call hcall
  -- Up to the commit everything happens in the body, and the copy keeps the name.
  have hbody : ∀ change ∈ history host depth (c.bodyTask s) (c.enter args s),
      ¬ change.Writes s.frames.size name := by
    intro change hmem
    exact hquiet change (hhistory ▸ List.mem_append_left _ hmem)
  obtain ⟨hgrows, hdistinct, hleads⟩ :=
    accounts_beforeCommit host depth c args s hs
  have hworking : ((c.beforeCommit host depth args s).frame s.frames.size).get? name =
      (s.frame c.frame).get? name := by
    rw [hleads.get?_eq hbody, Frame.get?_bindParams hparam]
  rw [hs', get?_leave (Nat.lt_trans hc hgrows) (Nat.ne_of_gt hc) hdistinct, hworking]

/-- The call of `outer` does not write `x` in its working copy, and takes back
what `inc` made of it. -/
theorem unwritten_name_after_outer :
    (∀ change ∈ history .none 8 (Nest.outer.call []) Nest.store, ¬ change.Writes 1 "x") ∧
      ∃ v s', perform .none 8 (Nest.outer.call []) Nest.store = .ok v s' ∧
        (s'.frame 0).get? "x" = some (.int 1) := by
  refine ⟨Nest.outer_writes_no_x, _, _, Nest.outer_completes, ?_⟩
  exact unwritten_name_after_call Nest.reached_store.distinct Nat.one_pos Nest.outer_completes
    List.not_mem_nil Nest.outer_writes_no_x

/-- It is not so that a name which a call does not write keeps, through the final
commit, what the captured frame bound it to just before. -/
theorem nested_update_lost :
    ¬ ∀ (host : Host) (depth : Nat) (c : Closure) (args : List Value) (s s' : Store)
      (v : Value) (name : String), Reached (fun _ => False) host s →
      c.frame < s.frames.size → perform host (depth + 1) (c.call args) s = .ok v s' →
      name ∉ c.params →
      (∀ change ∈ history host (depth + 1) (c.call args) s,
        ¬ change.Writes s.frames.size name) →
      (s'.frame c.frame).get? name =
        ((c.beforeCommit host depth args s).frame c.frame).get? name := by
  intro kept
  have hx := kept .none 7 Nest.outer [] Nest.store _ _ "x" Nest.reached_store Nat.one_pos
    Nest.outer_completes List.not_mem_nil Nest.outer_writes_no_x
  have hsome : some (Value.int 1) = some (.int 2) :=
    Nest.x_afterCall.symm.trans (hx.trans Nest.x_beforeCommit)
  cases hsome

/-! ## Calls that fail -/

/-- A failed call leaves in its captured frame what the history of its body makes
of it, and that history reaches the frame only by commits of completed calls of
closures made in it, through frame values and by the hand of the host; without
those, the frame is as it was when the call began. -/
theorem captured_frame_after_failed_call (hc : c.frame < s.frames.size)
    (hcall : perform host depth (c.call args) s = .error fault s') :
    s'.frame c.frame =
        Change.replay c.frame (s.frame c.frame) (history host depth (c.call args) s) ∧
      (∀ change ∈ history host depth (c.call args) s, change.Reaches c.frame →
        (∃ d bindings, change = .committed d bindings) ∨
          (∃ name value, change = .stored c.frame name value) ∨
          ∃ before after, change = .hosted before after) ∧
      ((∀ change ∈ history host depth (c.call args) s, ¬ change.Reaches c.frame) →
        s'.frame c.frame = s.frame c.frame) := by
  have hafter : (perform host depth (c.call args)).after s = s' := Run.after_of_error hcall
  refine ⟨?_, ?_, ?_⟩
  · rw [← hafter]
    exact frame_after_perform (c.call args) hc
  · intro change hmem hreaches
    -- An application has no frame of its own to assign to.
    exact change_of_older_frame hmem hreaches hc fun hown => hown
  · intro hnone
    rw [← hafter]
    exact frame_of_unreached (c.call args) hc hnone

/-- The call of `bad` fails behind the call of `inc`, whose commit stays. -/
theorem captured_frame_after_bad :
    ∃ fault s', perform .none 8 (Nest.bad.call []) Nest.store = .error fault s' ∧
      (Nest.store.frame 0).get? "x" = some (.int 1) ∧
      (s'.frame 0).get? "x" = some (.int 2) := by
  obtain ⟨fault, s', hcall⟩ : ∃ fault s', perform .none 8 (Nest.bad.call []) Nest.store =
      .error fault s' := ⟨_, _, rfl⟩
  refine ⟨fault, s', hcall, rfl, ?_⟩
  have hhistory : history .none 8 (Nest.bad.call []) Nest.store =
      [.assigned 2 "x" (.int 2), .committed Nest.inc ((Nest.insideInc Nest.bad).frame 2)] := rfl
  have hframe := (captured_frame_after_failed_call Nat.one_pos hcall).1
  rw [hhistory] at hframe
  exact congrArg (·.get? "x") hframe

end Calls

/-! ## Frames that nobody commits to -/

/-- Where no frame is a value and the host holds none, a task leaves every frame that existed
before as it was, except its own and those into which a call of a closure made there commits;
and a failed call adds no change to those of its body. -/
theorem frame_write_discipline (hhost : host.Fits fun _ => False) (hs : s.Sound fun _ => False) :
    (∀ (task : Task) (ref : FrameRef), task.Fits (fun _ => False) s.frames.size →
      ref < s.frames.size → ¬ task.Own ref →
      (∀ c bindings, .committed c bindings ∈ history host depth task s → c.frame ≠ ref) →
      ((perform host depth task).after s).frame ref = s.frame ref) ∧
    ∀ (c : Closure) (args : List Value) (fault : Fault) (s' : Store),
      perform host (depth + 1) (c.call args) s = .error fault s' →
      history host (depth + 1) (c.call args) s =
        history host depth (c.bodyTask s) (c.enter args s) := by
  constructor
  · intro task ref htask href hown hquiet
    have safe := Traced.perform_safe hhost depth _ htask s hs (Nat.le_refl _)
    refine frame_of_unreached task href ?_
    intro change hmem hreaches
    have hshown := safe.goesToShown change hmem
    rcases change_of_older_frame hmem hreaches href hown with
      ⟨c, bindings, rfl⟩ | ⟨name, value, rfl⟩ | ⟨before, after, rfl⟩
    · exact hquiet c bindings hmem hreaches
    · exact hshown
    · exact hreaches (hshown ref href id).symm
  · intro c args fault s' h
    exact failed_call h

/-- The call of `drop` assigns to `x` and then fails; the frame that it was made
in is as before. -/
theorem frame_after_drop :
    (∃ fault s', perform .none 8 (Nest.drop.call []) Nest.store = .error fault s') ∧
      ((perform .none 8 (Nest.drop.call [])).after Nest.store).frame 0 = Nest.store.frame 0 := by
  have hhistory : history .none 8 (Nest.drop.call []) Nest.store = [.assigned 1 "x" (.int 3)] :=
    rfl
  have hfits : (Nest.drop.call []).Fits (fun _ => False) Nest.store.frames.size :=
    ⟨.closure Nat.one_pos, fitAll_nil⟩
  have hhost : Host.none.Fits fun _ => False := Host.none_honours fun _ => .plain rfl
  refine ⟨⟨_, _, rfl⟩, ?_⟩
  apply (frame_write_discipline hhost (Nest.reached_store.sound hhost)).1 _ 0 hfits Nat.one_pos
  · intro hown
    exact hown
  · intro c bindings hmem
    rw [hhistory] at hmem
    cases List.mem_singleton.1 hmem

end Scriptlet
