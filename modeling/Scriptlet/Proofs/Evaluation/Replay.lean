/-
# The history accounts for every frame

What a task leaves in a frame that existed before is what its history, made
again on that frame, gives: `Accounts` says this of a computation and its log,
together with where assignments go, and `perform_accounts` proves it of every
task, completed or failed.

Working copies are why the law speaks of frames that existed before.  A call
makes a new frame, works on it and may give it up; none of that reaches an
older frame, and the one thing that does, the commit, is in the log.

## Making a change again

    assigned, stored    the name is bound in the frame, if it is that frame
    committed           the bindings are committed to it, if the closure was made in it
    hosted              the frame is what the host made of it

The log has what was done, in order, and not what came of it, so that a law about one kind of
change is an induction on a list.  `Change.Reaches` says of a change that it concerns a frame
at all, and the frame is as it was where no change of the history does.

## What goes along

A task makes frames and removes none (`perform_grows`), so that a frame that existed before is
there to be asked about afterwards; for functions of the host this is part of what an `Edit` is.
-/
import Scriptlet.Proofs.Evaluation.Frames
import Scriptlet.Proofs.Evaluation.History
import Scriptlet.Proofs.Evaluation.Library

namespace Scriptlet

/-! ## Stores left behind -/

namespace Run

variable {α β : Type}

/-- The store that a computation leaves, whether or not it stops. -/
def after (m : Run α) (s : Store) : Store :=
  match m s with
  | .ok _ s' => s'
  | .error _ s' => s'

theorem after_of_ok {m : Run α} {a : α} {s s' : Store} (h : m s = .ok a s') :
    m.after s = s' := by
  simp only [after, h]

theorem after_of_error {m : Run α} {fault : Fault} {s s' : Store} (h : m s = .error fault s') :
    m.after s = s' := by
  simp only [after, h]

theorem Keeps.after {m : Run α} {I : Store → Prop} {Q : α → Prop} (h : Keeps I Q m) {s : Store}
    (hs : I s) : I (m.after s) := by
  have hms := h s hs
  cases hm : m s with
  | ok a s' =>
      rw [hm] at hms
      rw [after_of_ok hm]
      exact hms.1
  | error fault s' =>
      rw [hm] at hms
      rwa [after_of_error hm]

theorem Keeps.of_after {m : Run α} {I : Store → Prop} (h : ∀ s, I s → I (m.after s)) :
    Keeps I (fun _ => True) m := by
  intro s hs
  have hafter := h s hs
  cases hm : m s with
  | ok a s' =>
      rw [after_of_ok hm] at hafter
      exact ⟨hafter, trivial⟩
  | error fault s' =>
      rw [after_of_error hm] at hafter
      exact hafter

/-- The computation touches no frame and makes none. -/
def Spares (m : Run α) : Prop := ∀ s, (m.after s).frames = s.frames

theorem spares_of_keeps {m : Run α}
    (h : ∀ frames, Keeps (Store.Holds (fun _ => True) frames) (fun _ => True) m) : Spares m := by
  intro s
  exact ((h s.frames).after s.holds_true).frames

theorem spares_ask (question : Store → Except Fault α) : Spares (Library.ask question) :=
  spares_of_keeps fun _ => keeps_asked question

end Run

namespace Traced

variable {α β : Type} {t : Traced α}

theorem bind_of_ok {f : α → Traced β} {a : α} {s s' : Store} (h : t.run s = .ok a s') :
    (t >>= f).run.after s = (f a).run.after s' ∧ (t >>= f).log s = t.log s ++ (f a).log s' := by
  have hrun : (t >>= f).run s = (f a).run s' := Run.bind_of_ok h
  refine ⟨by simp only [Run.after, hrun], ?_⟩
  show (andThen t f).log s = _
  simp only [andThen, h]

theorem bind_of_error {f : α → Traced β} {fault : Fault} {s s' : Store}
    (h : t.run s = .error fault s') :
    (t >>= f).run.after s = s' ∧ (t >>= f).log s = t.log s := by
  refine ⟨Run.after_of_error (Run.bind_of_error h), ?_⟩
  show (andThen t f).log s = _
  simp only [andThen, h, List.append_nil]

end Traced

/-! ## Making changes again -/

namespace Change

/-- The change reaches the frame. -/
def Reaches (ref : FrameRef) : Change → Prop
  | assigned frame _ _ => frame = ref
  | stored frame _ _ => frame = ref
  | committed c _ => c.frame = ref
  | hosted before after => before.frame ref ≠ after.frame ref

/-- What a change makes of the bindings of a frame. -/
def make (ref : FrameRef) (bindings : Frame) : Change → Frame
  | assigned frame name value => if frame = ref then bindings.insert name value else bindings
  | stored frame name value => if frame = ref then bindings.insert name value else bindings
  | committed c working => if c.frame = ref then bindings.commit working else bindings
  | hosted _ after => after.frame ref

/-- The changes made on the bindings of a frame, in order. -/
def replay (ref : FrameRef) (bindings : Frame) (changes : List Change) : Frame :=
  changes.foldl (make ref) bindings

/-- The change can be made on these bindings.  A change by the hand of the host is the one
kind that was noted with the bindings that it was made on. -/
def On (ref : FrameRef) (bindings : Frame) : Change → Prop
  | hosted before _ => before.frame ref = bindings
  | _ => True

/-- The changes, each made on what the one before left, lead from one state of a frame to
another. -/
inductive Leads (ref : FrameRef) : Frame → List Change → Frame → Prop
  | nil (bindings : Frame) : Leads ref bindings [] bindings
  | cons {bindings last : Frame} {change : Change} {rest : List Change}
      (hon : change.On ref bindings) (h : Leads ref (make ref bindings change) rest last) :
      Leads ref bindings (change :: rest) last

/-- The change binds a name in a frame anew, or takes it out. -/
def Writes (ref : FrameRef) (name : String) : Change → Prop
  | assigned frame other _ => frame = ref ∧ other = name
  | stored frame other _ => frame = ref ∧ other = name
  | committed c working => c.frame = ref ∧ (working.get? name).isSome
  | hosted before after => (before.frame ref).get? name ≠ (after.frame ref).get? name

section Leads

variable {ref : FrameRef} {bindings middle last : Frame} {changes more : List Change}

theorem Leads.append (h : Leads ref bindings changes middle) (hmore : Leads ref middle more last) :
    Leads ref bindings (changes ++ more) last := by
  induction h with
  | nil => exact hmore
  | cons hon _ ih => exact .cons hon (ih hmore)

theorem Leads.eq_replay (h : Leads ref bindings changes last) :
    last = replay ref bindings changes := by
  induction h with
  | nil => rfl
  | cons _ _ ih => exact ih

/-- A change that does not reach a frame leaves it as it is. -/
theorem make_of_not_reaches {change : Change} (hon : change.On ref bindings)
    (h : ¬ change.Reaches ref) : make ref bindings change = bindings := by
  cases change with
  | assigned frame name value => exact if_neg h
  | stored frame name value => exact if_neg h
  | committed c working => exact if_neg h
  | hosted before after => exact (Classical.not_not.1 h).symm.trans hon

theorem Leads.eq_of_not_reaches (h : Leads ref bindings changes last)
    (hquiet : ∀ change ∈ changes, ¬ change.Reaches ref) : last = bindings := by
  induction h with
  | nil => rfl
  | cons hon _ ih =>
      obtain ⟨hfirst, hrest⟩ := List.forall_mem_cons.1 hquiet
      exact (ih hrest).trans (make_of_not_reaches hon hfirst)

/-- A change that does not write a name leaves what it is bound to. -/
theorem get?_make {name : String} {change : Change} (hon : change.On ref bindings)
    (h : ¬ change.Writes ref name) :
    (make ref bindings change).get? name = bindings.get? name := by
  cases change with
  | assigned frame other value =>
      simp only [make]
      split
      · next hframe => exact (Frame.get?_insert ..).trans (if_neg fun ho => h ⟨hframe, ho⟩)
      · rfl
  | stored frame other value =>
      simp only [make]
      split
      · next hframe => exact (Frame.get?_insert ..).trans (if_neg fun ho => h ⟨hframe, ho⟩)
      · rfl
  | committed c working =>
      simp only [make]
      split
      · next hframe =>
          refine Frame.get?_commit_of_none (Option.not_isSome_iff_eq_none.1 fun hsome => ?_)
          exact h ⟨hframe, hsome⟩
      · rfl
  | hosted before after =>
      obtain rfl : before.frame ref = bindings := hon
      exact (Classical.not_not.1 h).symm

theorem Leads.get?_eq {name : String} (h : Leads ref bindings changes last)
    (hquiet : ∀ change ∈ changes, ¬ change.Writes ref name) :
    last.get? name = bindings.get? name := by
  induction h with
  | nil => rfl
  | cons hon _ ih =>
      obtain ⟨hfirst, hrest⟩ := List.forall_mem_cons.1 hquiet
      exact (ih hrest).trans (get?_make hon hfirst)

end Leads

end Change

/-! ## Calls -/

/-- The store in which the body of a closure starts: it has a working copy more. -/
def Closure.enter (c : Closure) (args : List Value) (s : Store) : Store :=
  s.addFrame ((s.frame c.frame).bindParams c.params args)

/-- Where the body of a closure is evaluated: in the working copy. -/
def Closure.inside (c : Closure) (s : Store) : Scope := ⟨s.frames.size, c.source, c.recorder⟩

/-- The store after a call of a closure whose body left `s`: the working copy is
given up and committed. -/
def Closure.leave (c : Closure) (working : FrameRef) (s : Store) : Store :=
  (s.release working).modifyFrame c.frame (·.commit (s.frame working))

@[simp] theorem Closure.size_enter (c : Closure) (args : List Value) (s : Store) :
    (c.enter args s).frames.size = s.frames.size + 1 := Store.size_addFrame ..

@[simp] theorem Closure.size_leave (c : Closure) (working : FrameRef) (s : Store) :
    (c.leave working s).frames.size = s.frames.size := by
  rw [leave, Store.size_modifyFrame, Store.size_release]

theorem Closure.frame_enter_of_lt {c : Closure} {args : List Value} {s : Store} {ref : FrameRef}
    (h : ref < s.frames.size) : (c.enter args s).frame ref = s.frame ref :=
  Store.frame_addFrame_of_lt h _

theorem Closure.distinct_leave {c : Closure} {working : FrameRef} {s : Store}
    (hs : ∀ ref, (s.frame ref).Distinct) (ref : FrameRef) :
    ((c.leave working s).frame ref).Distinct := by
  rw [leave, Store.frame_modifyFrame]
  split
  · exact (Store.distinct_release hs working ref).commit _
  · exact Store.distinct_release hs working ref

/-- Leaving a call reaches other frames than the working copy only by the commit. -/
theorem Closure.frame_leave (c : Closure) {working ref : FrameRef} {s : Store}
    (hne : working ≠ ref) (href : ref < s.frames.size) :
    (c.leave working s).frame ref =
      Change.make ref (s.frame ref) (.committed c (s.frame working)) := by
  rw [leave, Store.frame_modifyFrame, Store.size_release, Store.frame_release_of_ne hne]
  by_cases hframe : c.frame = ref
  · simp only [Change.make, hframe, href, true_and, if_true]
  · simp only [Change.make, hframe, false_and, if_false]

namespace Traced

/-- A call whose body completes completes, and ends with the commit. -/
theorem invoke_of_ok {next : Task → Traced Value} {c : Closure} {args : List Value} {v : Value}
    {s s' : Store} (h : (next (.eval (c.inside s) c.body)).run (c.enter args s) = .ok v s') :
    (invoke next c args).run s = .ok v (c.leave s.frames.size s') ∧
      (invoke next c args).log s = (next (.eval (c.inside s) c.body)).log (c.enter args s) ++
        [.committed c (s'.frame s.frames.size)] := by
  let body := (next (.eval (c.inside s) c.body)).onFault fun fault => do
    modify (·.release s.frames.size)
    throw fault
  have hbody : body.run (c.enter args s) = .ok v s' := by
    show (next (.eval (c.inside s) c.body)).run.onFault _ (c.enter args s) = _
    simp only [Run.onFault, h]
  constructor
  · show (body.run >>= _) (c.enter args s) = _
    rw [Run.bind_of_ok hbody]
    rfl
  · show (body >>= _).log (c.enter args s) = _
    rw [(bind_of_ok hbody).2]
    rfl

theorem invoke_of_error {next : Task → Traced Value} {c : Closure} {args : List Value}
    {fault : Fault} {s s' : Store}
    (h : (next (.eval (c.inside s) c.body)).run (c.enter args s) = .error fault s') :
    (invoke next c args).run s = .error fault (s'.release s.frames.size) ∧
      (invoke next c args).log s =
        (next (.eval (c.inside s) c.body)).log (c.enter args s) := by
  let body := (next (.eval (c.inside s) c.body)).onFault fun fault => do
    modify (·.release s.frames.size)
    throw fault
  have hbody : body.run (c.enter args s) = .error fault (s'.release s.frames.size) := by
    show (next (.eval (c.inside s) c.body)).run.onFault _ (c.enter args s) = _
    simp only [Run.onFault, h]
    rfl
  constructor
  · show (body.run >>= _) (c.enter args s) = _
    exact Run.bind_of_error hbody
  · show (body >>= _).log (c.enter args s) = _
    rw [(bind_of_error hbody).2]
    rfl

/-! ## Accounts -/

/-- From a store the log accounts for every frame that existed: the changes in it
lead from what the frame was to what is left in it, assignments go to a frame of
`own` or to one that did not exist, and no frame comes to bind a name twice. -/
structure AccountsFrom {α : Type} (own : FrameRef → Prop) (t : Traced α) (s : Store) : Prop where
  grows : s.frames.size ≤ (t.run.after s).frames.size
  distinct (h : ∀ ref, (s.frame ref).Distinct) (ref : FrameRef) :
    ((t.run.after s).frame ref).Distinct
  leads {ref : FrameRef} (h : ref < s.frames.size) :
    Change.Leads ref (s.frame ref) (t.log s) ((t.run.after s).frame ref)
  assigns {ref : FrameRef} {name : String} {value : Value}
    (h : .assigned ref name value ∈ t.log s) : own ref ∨ s.frames.size ≤ ref

/-- The log accounts for every frame from every store. -/
def Accounts {α : Type} (own : FrameRef → Prop) (t : Traced α) : Prop :=
  ∀ s, AccountsFrom own t s

section Rules

variable {α β : Type} {own : FrameRef → Prop} {t : Traced α}

theorem Accounts.quietly {m : Run α} (h : m.Spares) : Accounts own (quietly m) := by
  intro s
  have hframe (ref : FrameRef) : (m.after s).frame ref = s.frame ref :=
    congrArg (·.getD ref {}) (h s)
  refine ⟨Nat.le_of_eq (congrArg Array.size (h s)).symm, ?_, ?_, nofun⟩
  · intro hs ref
    exact (hframe ref).symm ▸ hs ref
  · intro ref _
    exact (hframe ref).symm ▸ .nil _

theorem Accounts.binding {change : Change} {m : Run α} {frame : FrameRef} {name : String}
    {value : Value} (hm : ∀ s, m.after s = s.modifyFrame frame (·.insert name value))
    (hchange : change = .assigned frame name value ∧ own frame ∨
      change = .stored frame name value) : Accounts own (noting change m) := by
  intro s
  have hmake (ref : FrameRef) (bindings : Frame) : change.On ref bindings ∧
      Change.make ref bindings change =
        if frame = ref then bindings.insert name value else bindings := by
    rcases hchange with ⟨rfl, -⟩ | rfl
    · exact ⟨trivial, rfl⟩
    · exact ⟨trivial, rfl⟩
  refine ⟨?_, ?_, ?_, ?_⟩
  · have hsize : (m.after s).frames.size = s.frames.size := by
      rw [hm, Store.size_modifyFrame]
    exact Nat.le_of_eq hsize.symm
  · intro hs ref
    show ((m.after s).frame ref).Distinct
    rw [hm, Store.frame_modifyFrame]
    split
    · exact (hs ref).insert name value
    · exact hs ref
  · intro ref href
    obtain ⟨hon, hmake⟩ := hmake ref (s.frame ref)
    show Change.Leads ref (s.frame ref) [change] ((m.after s).frame ref)
    refine .cons hon ?_
    rw [hmake, hm, Store.frame_modifyFrame]
    by_cases hframe : frame = ref
    · simp only [hframe, href, true_and, if_true]
      exact .nil _
    · simp only [hframe, false_and, if_false]
      exact .nil _
  · intro ref other v hmem
    rcases hchange with ⟨rfl, hown⟩ | rfl
    · cases List.mem_singleton.1 hmem
      exact .inl hown
    · cases List.mem_singleton.1 hmem

/-- What the host does to the store is accounted for by the change that keeps both stores. -/
theorem accounts_exchange (edit : Edit) :
    Accounts own ⟨Run.exchange edit.make, fun s => [.hosted s (edit.make s)]⟩ := by
  intro s
  refine ⟨edit.grows s, edit.distinct s, ?_, ?_⟩
  · intro ref _
    exact .cons rfl (.nil _)
  · intro ref name value hmem
    cases List.mem_singleton.1 hmem

theorem Accounts.pure (a : α) : Accounts own (Pure.pure a) := .quietly fun _ => rfl

theorem Accounts.bind {f : α → Traced β} (ht : Accounts own t) (hf : ∀ a, Accounts own (f a)) :
    Accounts own (t >>= f) := by
  intro s
  obtain ⟨hgrows, hdistinct, hleads, hassigns⟩ := ht s
  cases h : t.run s with
  | ok a s' =>
      obtain ⟨hafter, hlog⟩ := bind_of_ok (f := f) h
      rw [Run.after_of_ok h] at hgrows hdistinct hleads
      refine ⟨?_, ?_, ?_, ?_⟩
      · rw [hafter]
        exact Nat.le_trans hgrows (hf a s').grows
      · rw [hafter]
        exact fun hs => (hf a s').distinct (hdistinct hs)
      · intro ref href
        rw [hafter, hlog]
        exact (hleads href).append ((hf a s').leads (Nat.lt_of_lt_of_le href hgrows))
      · intro ref name value hmem
        rw [hlog] at hmem
        rcases List.mem_append.1 hmem with hmem | hmem
        · exact hassigns hmem
        · exact ((hf a s').assigns hmem).imp_right (Nat.le_trans hgrows)
  | error fault s' =>
      obtain ⟨hafter, hlog⟩ := bind_of_error (f := f) h
      rw [Run.after_of_error h] at hgrows hdistinct hleads
      refine ⟨?_, ?_, ?_, ?_⟩
      · rwa [hafter]
      · rwa [hafter]
      · intro ref href
        rw [hafter, hlog]
        exact hleads href
      · intro ref name value hmem
        rw [hlog] at hmem
        exact hassigns hmem

/-- A computation that leaves the frames of another one accounts for them alike. -/
theorem Accounts.congr {u : Traced β} (ht : Accounts own t) (hlog : u.log = t.log)
    (hrun : ∀ s, (u.run.after s).frames = (t.run.after s).frames) : Accounts own u := by
  intro s
  obtain ⟨hgrows, hdistinct, hleads, hassigns⟩ := ht s
  have hframe (ref : FrameRef) : (u.run.after s).frame ref = (t.run.after s).frame ref :=
    congrArg (·.getD ref {}) (hrun s)
  refine ⟨?_, ?_, ?_, ?_⟩
  · rwa [hrun]
  · intro hs ref
    rw [hframe]
    exact hdistinct hs ref
  · intro ref href
    rw [hframe, hlog]
    exact hleads href
  · rw [hlog]
    exact hassigns

theorem Accounts.settle (ht : Accounts own t) : Accounts own t.settle := by
  refine ht.congr rfl ?_
  intro s
  show (t.run.settle.after s).frames = _
  cases h : t.run s with
  | ok a s' => simp only [Run.after, Run.settle, h]
  | error fault s' => simp only [Run.after, Run.settle, h]

theorem after_onFault {handler : Fault → Run α} (h : ∀ fault, (handler fault).Spares)
    (m : Run α) (s : Store) : ((m.onFault handler).after s).frames = (m.after s).frames := by
  cases hm : m s with
  | ok a s' =>
      have hrun : m.onFault handler s = .ok a s' := by simp only [Run.onFault, hm]
      rw [Run.after_of_ok hrun, Run.after_of_ok hm]
  | error fault s' =>
      have hrun : m.onFault handler s = handler fault s' := by simp only [Run.onFault, hm]
      have hafter : (m.onFault handler).after s = (handler fault).after s' := by
        simp only [Run.after, hrun]
      rw [hafter, h fault s', Run.after_of_error hm]

theorem Accounts.onFault {handler : Fault → Run α} (ht : Accounts own t)
    (h : ∀ fault, (handler fault).Spares) : Accounts own (t.onFault handler) :=
  ht.congr rfl (after_onFault h t.run)

theorem Accounts.mono {own' : FrameRef → Prop} (ht : Accounts own t)
    (h : ∀ ref, own ref → own' ref) : Accounts own' t := by
  intro s
  obtain ⟨hgrows, hdistinct, hleads, hassigns⟩ := ht s
  refine ⟨hgrows, hdistinct, hleads, ?_⟩
  intro ref name value hmem
  exact (hassigns hmem).imp_left (h ref)

end Rules

/-! ## What each part of the evaluator accounts for -/

section Evaluator

variable {own : FrameRef → Prop} {next : Task → Traced Value} {scope : Scope}

theorem accounts_evalAll (h : ∀ node, Accounts own (next (.eval scope node))) (nodes : List Node) :
    Accounts own (evalAll next scope nodes) := by
  induction nodes with
  | nil => exact .pure []
  | cons node rest ih => exact (h node).bind fun v => ih.bind fun vs => .pure (v :: vs)

theorem accounts_evalStatements (h : ∀ node, Accounts own (next (.eval scope node)))
    (last : Value) (nodes : List Node) :
    Accounts own (evalStatements next scope last nodes) := by
  induction nodes generalizing last with
  | nil => exact .pure last
  | cons node rest ih => exact (h node).bind fun v => ih v

theorem accounts_evalCall (h : ∀ node, Accounts own (next (.eval scope node)))
    (happly : ∀ f args, Accounts own (next (.apply f args))) (callee : String)
    (args : List Node) (location : Location) :
    Accounts own (evalCall next scope callee args location) := by
  refine (Accounts.quietly fun _ => rfl).bind ?_
  intro f
  split
  · exact .quietly fun _ => rfl
  · refine (accounts_evalAll h args).bind ?_
    intro values
    refine (happly f values).onFault ?_
    intro fault
    cases fault with
    | _ => exact fun _ => rfl

theorem accounts_invoke (h : ∀ scope node, Accounts (· = scope.frame) (next (.eval scope node)))
    (c : Closure) (args : List Value) : Accounts (fun _ => False) (invoke next c args) := by
  intro s
  obtain ⟨hgrows, hdistinct, hleads, hassigns⟩ := h (c.inside s) c.body (c.enter args s)
  rw [Closure.size_enter] at hgrows hleads hassigns
  have hle := Nat.le_of_succ_le hgrows
  have hbefore {ref : FrameRef} (href : ref < s.frames.size) := by
    have hbody := hleads (Nat.lt_succ_of_lt href)
    rwa [Closure.frame_enter_of_lt href] at hbody
  have hinner (hs : ∀ ref, (s.frame ref).Distinct) :=
    hdistinct (Store.distinct_addFrame hs ((hs c.frame).bindParams c.params args))
  -- An assignment in the body goes to the working copy or to a later frame.
  have hinside {ref : FrameRef} {name : String} {value : Value}
      (hmem : .assigned ref name value ∈
        (next (.eval (c.inside s) c.body)).log (c.enter args s)) : s.frames.size ≤ ref := by
    rcases hassigns hmem with rfl | hlater
    · exact Nat.le_refl _
    · exact Nat.le_of_succ_le hlater
  -- Giving up the copy reaches no older frame; a completed call also commits.
  cases hr : (next (.eval (c.inside s) c.body)).run (c.enter args s) with
  | ok v s' =>
      obtain ⟨hrun, hlog⟩ := invoke_of_ok hr
      have hafter := Run.after_of_ok hrun
      rw [Run.after_of_ok hr] at hle
      refine ⟨?_, ?_, ?_, ?_⟩
      · rwa [hafter, Closure.size_leave]
      · intro hs ref
        rw [hafter]
        have hdone := hinner hs
        rw [Run.after_of_ok hr] at hdone
        exact Closure.distinct_leave hdone ref
      · intro ref href
        have hframe := hbefore href
        rw [Run.after_of_ok hr] at hframe
        rw [hafter, hlog]
        refine hframe.append (.cons trivial ?_)
        rw [← c.frame_leave (Nat.ne_of_gt href) (Nat.lt_of_lt_of_le href hle)]
        exact .nil _
      · intro ref name value hmem
        rw [hlog] at hmem
        rcases List.mem_append.1 hmem with hmem | hmem
        · exact .inr (hinside hmem)
        · cases List.mem_singleton.1 hmem
  | error fault s' =>
      obtain ⟨hrun, hlog⟩ := invoke_of_error hr
      have hafter := Run.after_of_error hrun
      rw [Run.after_of_error hr] at hle
      refine ⟨?_, ?_, ?_, ?_⟩
      · rwa [hafter, Store.size_release]
      · intro hs ref
        rw [hafter]
        have hdone := hinner hs
        rw [Run.after_of_error hr] at hdone
        exact Store.distinct_release hdone _ ref
      · intro ref href
        have hframe := hbefore href
        rw [Run.after_of_error hr] at hframe
        rwa [hafter, hlog, Store.frame_release_of_ne (Nat.ne_of_gt href)]
      · intro ref name value hmem
        rw [hlog] at hmem
        exact .inr (hinside hmem)

theorem spares_load (source : Source) : (Evaluator.load source).Spares := by
  intro s
  unfold Evaluator.load
  split
  · rfl
  · rfl
  · split
    · rfl
    · rfl

theorem spares_fetch (scope : Scope) (path : String) : (Evaluator.fetch scope path).Spares := by
  intro s
  unfold Evaluator.fetch Run.after
  dsimp only
  split
  · rfl
  · rfl

theorem accounts_evalInclude
    (h : ∀ source node, Accounts own (next (.eval { scope with source := source } node)))
    (args : List Node) (location : Location) :
    Accounts own (evalInclude next scope args location) := by
  refine (accounts_evalAll (h scope.source) args).bind ?_
  intro values
  split
  · exact .quietly fun _ => rfl
  · next path _ =>
      refine (Accounts.quietly (spares_fetch scope path)).bind ?_
      intro found
      split
      · exact .quietly fun _ => rfl
      · next source =>
          refine Accounts.onFault ?_ ?_
          · exact (Accounts.quietly (spares_load source)).bind fun loaded => h source loaded.2
          · intro fault
            cases fault with
            | _ => exact fun _ => rfl

theorem accounts_evalNode
    (h : ∀ scope node, Accounts (· = scope.frame) (next (.eval scope node)))
    (happly : ∀ f args, Accounts (fun _ => False) (next (.apply f args))) (node : Node) :
    Accounts (· = scope.frame) (evalNode next scope node) := by
  cases node with
  | literal value span => exact .pure _
  | comment text span => exact .pure _
  | identifier name span => exact .quietly fun _ => rfl
  | assignment name value span =>
      refine (h scope value).bind fun v => Accounts.bind ?_ fun _ => .pure v
      exact .binding (fun _ => rfl) (.inl ⟨rfl, rfl⟩)
  | statements items span => exact accounts_evalStatements (h scope) .nothing items
  | block items inner span => exact accounts_evalStatements (h scope) .nothing items
  | list items span =>
      exact (accounts_evalAll (h scope) items).bind fun values => .quietly fun _ => rfl
  | call callee args span =>
      unfold evalNode
      dsimp only
      split
      · refine accounts_evalInclude ?_ args _
        intro source
        exact h ⟨scope.frame, source, scope.recorder⟩
      · refine accounts_evalCall (h scope) ?_ callee args _
        intro f args
        refine (happly f args).mono ?_
        intro ref hfalse
        exact hfalse.elim
  | function params body span => exact .quietly fun _ => rfl

end Evaluator

/-! ## What the library and the host account for -/

section Library

variable {own : FrameRef → Prop} {call : Value → List Value → Traced Value}

theorem accounts_choose (h : ∀ f args, Accounts own (call f args)) (cond then_ else_ : Value) :
    Accounts own (choose call cond then_ else_) := by
  refine (Accounts.quietly (Run.spares_ask _)).bind ?_
  intro b
  split
  · exact h then_ []
  · split
    · exact .pure _
    · exact h else_ []

theorem accounts_callEach (h : ∀ f args, Accounts own (call f args)) (f : Value) (index : Nat)
    (items : List Value) : Accounts own (callEach call f index items) := by
  induction items generalizing index with
  | nil => exact .pure _
  | cons item rest ih => exact (h f _).bind fun _ => ih (index + 1)

theorem accounts_each (h : ∀ f args, Accounts own (call f args)) (items f : Value) :
    Accounts own (each call items f) :=
  (Accounts.quietly (Run.spares_ask _)).bind fun found =>
    (accounts_callEach h f 0 found).bind fun _ => .pure _

theorem accounts_runLibrary (h : ∀ f args, Accounts own (call f args)) (recorder : RecorderRef)
    (f : LibraryFunction) (args : List Value) :
    Accounts own (runLibrary call recorder f args) := by
  unfold runLibrary
  split
  · exact accounts_choose h _ _ _
  · exact accounts_choose h _ _ _
  · exact .pure _
  · exact accounts_each h _ _
  · exact .pure _
  · exact .binding (fun _ => rfl) (.inr rfl)
  · next hif heach _ _ _ hset =>
      refine .quietly (Run.spares_of_keeps ?_)
      intro frames
      exact keeps_run hereditary_true (fun _ _ => trivial) hif heach
        fun hf ref name v hargs => hset ref name v hf hargs

/-- Whatever a function of the host does, the log accounts for it. -/
theorem accounts_conduct (h : ∀ f args, Accounts own (call f args)) (conduct : Conduct) :
    Accounts own (Traced.conduct call conduct) := by
  induction conduct with
  | finish outcome =>
      refine .quietly ?_
      intro s
      cases outcome with
      | _ => rfl
  | act edit next ih => exact (accounts_exchange edit).bind ih
  | call f args next ih => exact (h f args).settle.bind ih

theorem accounts_checked {t : Traced Value} (h : Accounts own t) (sig : Option Signature)
    (args : List Value) : Accounts own (checked sig args t) := by
  refine (Accounts.quietly ?_).bind fun _ => h
  cases sig with
  | none => exact fun _ => rfl
  | some sig => exact Run.spares_of_keeps fun _ => keeps_check sig args

end Library

/-! ## What tasks account for -/

end Traced

/-- The frame that a task may assign to: an evaluation its own, an application none. -/
def Task.Own : Task → FrameRef → Prop
  | .eval scope _, ref => ref = scope.frame
  | .apply _ _, _ => False

namespace Traced

theorem accounts_applyValue (host : Host) {next : Task → Traced Value}
    (h : ∀ task, Accounts task.Own (next task)) (f : Value) (args : List Value) :
    Accounts (fun _ => False) (applyValue host next f args) := by
  have call (g : Value) (xs : List Value) := h (.apply g xs)
  unfold applyValue
  dsimp only
  split
  · exact accounts_invoke (fun scope node => h (.eval scope node)) _ args
  · exact accounts_checked (accounts_runLibrary call _ _ args) _ args
  · exact accounts_conduct call _
  · exact .quietly fun _ => rfl

theorem accounts_step {next : Task → Traced Value} (host : Host)
    (h : ∀ task, Accounts task.Own (next task)) (task : Task) :
    Accounts task.Own (step host next task) := by
  cases task with
  | eval scope node =>
      exact accounts_evalNode (fun scope node => h (.eval scope node))
        (fun f args => h (.apply f args)) node
  | apply f args => exact accounts_applyValue host h f args

/-- The history of every task accounts for every frame that existed before. -/
theorem perform_accounts (host : Host) (depth : Nat) (task : Task) :
    Accounts task.Own (perform host depth task) := by
  induction depth generalizing task with
  | zero => exact .quietly fun _ => rfl
  | succ depth ih => exact accounts_step host ih task

end Traced

theorem perform_grows (host : Host) (depth : Nat) (task : Task) (s : Store) :
    s.frames.size ≤ ((Evaluator.perform host depth task).after s).frames.size := by
  rw [← Traced.perform_run]
  exact (Traced.perform_accounts host depth task s).grows

end Scriptlet
