/-
# Values that fit their store

A closure remembers the frame that it was made in by reference, and a frame can
itself be a value, if the embedding program hands one out.  `Value.Fits` says
that the closures reachable in a value remember frames that exist, and that its
frame values are among those that were `shown`; `Store.Sound` says so of
everything in a store, and that each frame binds each name once.

Evaluation keeps all of it: `perform_safe` is one walk over the tasks, in which
the number of frames only grows, so a value that fitted once fits later too.
The walk also watches the log, for a name can be bound through a frame value
only where that frame was shown.  Every store that runners reach is sound
(`Reached`).

## The host

A host may make frames of its own and use them as it likes, and it may change those that are
shown.  What it may not do is change any other frame by its own hand, or hand on a value that
does not fit; that is the contract `Contract.fitting`, and a host that is given nothing but
what fits has no other frame to change.

With no frame shown at all, this is what is meant by a host that holds no frame.
-/
import Scriptlet.Proofs.Evaluation.Contract
import Scriptlet.Proofs.Evaluation.Holdings
import Scriptlet.Proofs.Evaluation.Replay
import Scriptlet.Runner.Basic

namespace Scriptlet

/-! ## Fitting -/

/-- The closures in the value remember frames below `n`, and its frame values
are `shown`. -/
inductive Value.Fits (shown : FrameRef → Prop) (n : Nat) : Value → Prop
  | plain {v : Value} (h : v.isPlain = true) : Fits shown n v
  | closure {c : Closure} (h : c.frame < n) : Fits shown n (.function (.closure c))
  | library (recorder : RecorderRef) (f : LibraryFunction) :
      Fits shown n (.function (.library recorder f))
  | host (f : HostFunction) : Fits shown n (.function (.host f))
  | frame {ref : FrameRef} (h : shown ref) : Fits shown n (.frame ref)
  | tuple {id : Nat} {items : List Value} (h : ∀ v ∈ items, Fits shown n v) :
      Fits shown n (.tuple id items)

/-- The values of a row fit. -/
def FitAll (shown : FrameRef → Prop) (n : Nat) (vs : List Value) : Prop :=
  ∀ v ∈ vs, v.Fits shown n

/-- The task is in a frame below `n`, and its values fit. -/
def Task.Fits (shown : FrameRef → Prop) (n : Nat) : Task → Prop
  | .eval scope _ => scope.frame < n
  | .apply f args => f.Fits shown n ∧ FitAll shown n args

section Fits

variable {shown : FrameRef → Prop} {n m : Nat}

theorem Value.Fits.mono (hnm : n ≤ m) {v : Value} (h : v.Fits shown n) : v.Fits shown m := by
  induction h with
  | plain h => exact .plain h
  | closure h => exact .closure (Nat.lt_of_lt_of_le h hnm)
  | library recorder f => exact .library recorder f
  | host f => exact .host f
  | frame h => exact .frame h
  | tuple _ ih => exact .tuple ih

theorem FitAll.mono (hnm : n ≤ m) {vs : List Value} (h : FitAll shown n vs) :
    FitAll shown m vs := by
  intro v hv
  exact (h v hv).mono hnm

theorem fitAll_nil : FitAll shown n [] := by
  intro v hv
  cases hv

theorem FitAll.cons {v : Value} {vs : List Value} (hv : v.Fits shown n) (hvs : FitAll shown n vs) :
    FitAll shown n (v :: vs) := by
  intro w hw
  exact (List.mem_cons.1 hw).elim (· ▸ hv) (hvs _)

theorem FitAll.head {v : Value} {vs : List Value} (h : FitAll shown n (v :: vs)) :
    v.Fits shown n := h v List.mem_cons_self

theorem FitAll.tail {v : Value} {vs : List Value} (h : FitAll shown n (v :: vs)) :
    FitAll shown n vs := by
  intro w hw
  exact h w (List.mem_cons_of_mem _ hw)

theorem hereditary_fits : Hereditary (Value.Fits shown n) where
  plain := .plain
  tuple {id items} := by
    refine ⟨?_, .tuple⟩
    intro h
    cases h with
    | plain h => cases h
    | tuple h => exact h

theorem fits_shown {ref : FrameRef} (h : (Value.frame ref).Fits shown n) : shown ref := by
  cases h with
  | plain h => cases h
  | frame h => exact h

end Fits

/-! ## Sound stores -/

/-- Everything in the store fits it, and each frame binds each name once. -/
structure Store.Sound (shown : FrameRef → Prop) (s : Store) : Prop where
  holds : s.Holds (Value.Fits shown s.frames.size) s.frames
  distinct (ref : FrameRef) : (s.frame ref).Distinct

def Frame.Fits (shown : FrameRef → Prop) (n : Nat) (frame : Frame) : Prop :=
  ∀ name v, frame.get? name = some v → v.Fits shown n

section Sound

variable {shown : FrameRef → Prop} {s : Store} {n : Nat}

theorem Store.Sound.frameFits (hs : s.Sound shown) (ref : FrameRef) :
    (s.frame ref).Fits shown s.frames.size := by
  intro _ _
  exact hs.holds.bound

theorem Frame.Fits.insert {frame : Frame} (h : frame.Fits shown n) {v : Value}
    (hv : v.Fits shown n) (name : String) : (frame.insert name v).Fits shown n :=
  Frame.Binds.insert h hv name

theorem Frame.Fits.commit {frame working : Frame} (h : frame.Fits shown n)
    (hworking : working.Fits shown n) (hd : working.Distinct) :
    (frame.commit working).Fits shown n :=
  Frame.Binds.commit h hworking hd

theorem Frame.Fits.bindParams {frame : Frame} (h : frame.Fits shown n) (params : List String)
    {args : List Value} (hargs : FitAll shown n args) :
    (frame.bindParams params args).Fits shown n :=
  Frame.Binds.bindParams hereditary_fits h params hargs

theorem Frame.Fits.mono {m : Nat} (hnm : n ≤ m) {frame : Frame} (h : frame.Fits shown n) :
    frame.Fits shown m := by
  intro name v hv
  exact (h name v hv).mono hnm

theorem Store.Sound.held (hs : s.Sound shown) {m : Nat} (hm : s.frames.size ≤ m) :
    s.Held (Value.Fits shown m) :=
  Store.Held.mono ⟨hs.holds, hs.distinct⟩ fun _ hv => hv.mono hm

theorem Store.Held.sound (h : s.Held (Value.Fits shown n)) (hn : s.frames.size = n) :
    s.Sound shown :=
  ⟨hn ▸ h.holds, h.distinct⟩

theorem Store.Sound.withFrames (hs : s.Sound shown) {s' : Store}
    (hlists : s'.lists = s.lists) (hobjects : s'.objects = s.objects)
    (hhosted : s'.hosted = s.hosted) (hsize : s.frames.size ≤ s'.frames.size)
    (hfits : ∀ ref, (s'.frame ref).Fits shown s'.frames.size)
    (hdistinct : ∀ ref, (s'.frame ref).Distinct) : s'.Sound shown :=
  ((hs.held hsize).withFrames hlists hobjects hhosted hfits hdistinct).sound rfl

theorem Store.Sound.modifyFrame (hs : s.Sound shown) (ref : FrameRef) {f : Frame → Frame}
    (hfits : (f (s.frame ref)).Fits shown s.frames.size) (hdistinct : (f (s.frame ref)).Distinct) :
    (s.modifyFrame ref f).Sound shown :=
  ((hs.held (Nat.le_refl _)).modifyFrame ref hfits hdistinct).sound (Store.size_modifyFrame ..)

theorem Store.Sound.addFrame (hs : s.Sound shown) {frame : Frame}
    (hfits : frame.Fits shown s.frames.size) (hdistinct : frame.Distinct) :
    (s.addFrame frame).Sound shown := by
  have hle : s.frames.size ≤ (s.addFrame frame).frames.size := by simp
  exact ((hs.held hle).addFrame (hfits.mono hle) hdistinct).sound rfl

theorem Store.Sound.release (hs : s.Sound shown) (ref : FrameRef) :
    (s.release ref).Sound shown :=
  ((hs.held (Nat.le_refl _)).release ref).sound (Store.size_release ..)

end Sound

/-! ## Hosts that hold no frame but shown ones -/

/-- Values are passed about that fit, and the host changes no frame by its own hand but
those that are shown and those that it makes. -/
def Contract.fitting (shown : FrameRef → Prop) : Contract where
  store := Store.Sound shown
  change s s' := ∀ ref < s.frames.size, ¬ shown ref → s'.frame ref = s.frame ref
  value := Value.Fits shown

/-- The functions of the host hold no frame but shown ones. -/
def Host.Fits (shown : FrameRef → Prop) (host : Host) : Prop := host.Honours (.fitting shown)

/-! ## Safe computations -/

namespace Traced

/-- The change goes, by way of a frame value or by the hand of the host, to a frame that is
shown, or else to one that is not below `n`. -/
def GoesToShown (shown : FrameRef → Prop) (n : Nat) : Change → Prop
  | .stored ref _ _ => shown ref
  | .hosted before after => ∀ ref < n, ¬ shown ref → after.frame ref = before.frame ref
  | _ => True

/-- From a store the computation leaves a sound one with no frame less; its value,
if it has one, satisfies `Q` at the number of frames that it leaves; and other than by
assignments and commits it changes only frames that are shown. -/
structure SafeFrom {α : Type} (shown : FrameRef → Prop) (Q : Nat → α → Prop) (t : Traced α)
    (s : Store) : Prop where
  sound : (t.run.after s).Sound shown
  grows : s.frames.size ≤ (t.run.after s).frames.size
  value {a : α} {s' : Store} (h : t.run s = .ok a s') : Q s'.frames.size a
  goesToShown : ∀ change ∈ t.log s, GoesToShown shown s.frames.size change

/-- The computation is safe from every sound store with at least `n` frames. -/
def Safe {α : Type} (shown : FrameRef → Prop) (n : Nat) (Q : Nat → α → Prop) (t : Traced α) :
    Prop :=
  ∀ s, s.Sound shown → n ≤ s.frames.size → SafeFrom shown Q t s

section Rules

variable {α β : Type} {shown : FrameRef → Prop} {n : Nat} {Q : Nat → α → Prop}
  {R : Nat → β → Prop} {t : Traced α}

theorem GoesToShown.mono {m : Nat} {change : Change} (h : GoesToShown shown m change)
    (hnm : n ≤ m) : GoesToShown shown n change := by
  cases change with
  | hosted before after => exact fun ref href => h ref (Nat.lt_of_lt_of_le href hnm)
  | _ => exact h

theorem Safe.quietly {m : Run α}
    (h : ∀ frames : Array Frame, n ≤ frames.size →
      Run.Keeps (Store.Holds (Value.Fits shown frames.size) frames) (Q frames.size) m) :
    Safe shown n Q (quietly m) := by
  intro s hs hn
  have hkeeps := h s.frames hn s hs.holds
  have kept (s' : Store) (hs' : s'.Holds (Value.Fits shown s.frames.size) s.frames) :
      s'.Sound shown := by
    refine ⟨?_, ?_⟩
    · rw [hs'.frames]
      exact hs'
    · intro ref
      rw [Store.frame, hs'.frames]
      exact hs.distinct ref
  have unlogged : ∀ change ∈ (Traced.quietly m).log s, GoesToShown shown s.frames.size change := by
    intro change hchange
    cases hchange
  cases hm : m s with
  | ok a s' =>
      rw [hm] at hkeeps
      have hafter : (Traced.quietly m).run.after s = s' := Run.after_of_ok hm
      refine ⟨hafter ▸ kept s' hkeeps.1, ?_, ?_, unlogged⟩
      · exact Nat.le_of_eq (by rw [hafter, hkeeps.1.frames])
      · intro b sb hb
        cases hm.symm.trans hb
        rw [hkeeps.1.frames]
        exact hkeeps.2
  | error fault s' =>
      rw [hm] at hkeeps
      have hafter : (Traced.quietly m).run.after s = s' := Run.after_of_error hm
      refine ⟨hafter ▸ kept s' hkeeps, ?_, ?_, unlogged⟩
      · exact Nat.le_of_eq (by rw [hafter, hkeeps.frames])
      · intro b sb hb
        cases hm.symm.trans hb

theorem Safe.pure {a : α} (h : ∀ m, n ≤ m → Q m a) : Safe shown n Q (Pure.pure a) :=
  .quietly fun frames hn => .pure (h frames.size hn)

theorem Safe.bind {f : α → Traced β} (ht : Safe shown n Q t)
    (hf : ∀ a m, n ≤ m → Q m a → Safe shown m R (f a)) : Safe shown n R (t >>= f) := by
  intro s hs hn
  obtain ⟨hsound, hgrows, hvalue, hshown⟩ := ht s hs hn
  cases h : t.run s with
  | ok a s' =>
      rw [Run.after_of_ok h] at hsound hgrows
      -- The second computation starts with as many frames as the first one leaves.
      have next := hf a s'.frames.size (Nat.le_trans hn hgrows) (hvalue h) s' hsound (Nat.le_refl _)
      obtain ⟨hafter, hlog⟩ := bind_of_ok (f := f) h
      have hrun : (t >>= f).run s = (f a).run s' := Run.bind_of_ok h
      refine ⟨hafter ▸ next.sound, hafter ▸ Nat.le_trans hgrows next.grows,
        fun hb => next.value (hrun ▸ hb), ?_⟩
      rw [hlog]
      refine List.forall_mem_append.2 ⟨hshown, ?_⟩
      intro change hmem
      exact (next.goesToShown change hmem).mono hgrows
  | error fault s' =>
      rw [Run.after_of_error h] at hsound hgrows
      obtain ⟨hafter, hlog⟩ := bind_of_error (f := f) h
      have hrun : (t >>= f).run s = .error fault s' := Run.bind_of_error h
      refine ⟨hafter ▸ hsound, hafter ▸ hgrows, ?_, hlog ▸ hshown⟩
      intro b sb hb
      cases hrun.symm.trans hb

theorem Safe.mono {n' : Nat} (h : Safe shown n Q t) (hn : n ≤ n') : Safe shown n' Q t := by
  intro s hs hn'
  exact h s hs (Nat.le_trans hn hn')

theorem Safe.onFault {handler : Fault → Run α} (ht : Safe shown n Q t)
    (h : ∀ fault, Safe shown n Q (Traced.quietly (handler fault))) :
    Safe shown n Q (t.onFault handler) := by
  intro s hs hn
  obtain ⟨hsound, hgrows, hvalue, hshown⟩ := ht s hs hn
  cases hm : t.run s with
  | ok a s' =>
      have hrun : (t.onFault handler).run s = .ok a s' := by
        simp only [Traced.onFault, Run.onFault, hm]
      rw [Run.after_of_ok hm] at hsound hgrows
      have hafter := Run.after_of_ok hrun
      refine ⟨hafter ▸ hsound, hafter ▸ hgrows, ?_, hshown⟩
      intro b sb hb
      cases hrun.symm.trans hb
      exact hvalue hm
  | error fault s' =>
      have hrun : (t.onFault handler).run s = handler fault s' := by
        simp only [Traced.onFault, Run.onFault, hm]
      rw [Run.after_of_error hm] at hsound hgrows
      have next := h fault s' hsound (Nat.le_trans hn hgrows)
      have hafter : (t.onFault handler).run.after s = (handler fault).after s' := by
        simp only [Run.after, hrun]
      exact ⟨hafter ▸ next.sound, hafter ▸ Nat.le_trans hgrows next.grows,
        fun hb => next.value (hrun.symm.trans hb), hshown⟩

/-- What comes of a computation is safe to go on from. -/
theorem Safe.settle (ht : Safe shown n Q t) :
    Safe shown n (fun k outcome => ∀ a, outcome = .ok a → Q k a) t.settle := by
  intro s hs hn
  obtain ⟨hsound, hgrows, hvalue, hshown⟩ := ht s hs hn
  have hrun : t.settle.run s = t.run.settle s := rfl
  unfold Run.settle at hrun
  cases hm : t.run s with
  | ok a s' =>
      rw [hm] at hrun
      rw [Run.after_of_ok hm] at hsound hgrows
      have hafter := Run.after_of_ok hrun
      refine ⟨hafter ▸ hsound, hafter ▸ hgrows, ?_, hshown⟩
      intro b sb hb
      cases hrun.symm.trans hb
      rintro _ ⟨⟩
      exact hvalue hm
  | error fault s' =>
      rw [hm] at hrun
      rw [Run.after_of_error hm] at hsound hgrows
      have hafter := Run.after_of_ok hrun
      refine ⟨hafter ▸ hsound, hafter ▸ hgrows, ?_, hshown⟩
      intro b sb hb
      cases hrun.symm.trans hb
      exact nofun

/-- Binding a name to a value that fits is safe, if the log may say so. -/
theorem Safe.noting {change : Change} {m : Run α} {name : String} {v : Value} {ref : FrameRef}
    (hv : ∀ k, n ≤ k → v.Fits shown k) {a : α} (ha : ∀ k, n ≤ k → Q k a)
    (hm : ∀ s, m s = .ok a (s.modifyFrame ref (·.insert name v)))
    (hshown : ∀ n, GoesToShown shown n change) : Safe shown n Q (noting change m) := by
  intro s hs hn
  have hafter : (Traced.noting change m).run.after s = s.modifyFrame ref (·.insert name v) :=
    Run.after_of_ok (hm s)
  refine ⟨?_, ?_, ?_, List.forall_mem_singleton.2 (hshown _)⟩
  · rw [hafter]
    exact hs.modifyFrame ref ((hs.frameFits ref).insert (hv _ hn) name)
      ((hs.distinct ref).insert name v)
  · exact Nat.le_of_eq (by rw [hafter, Store.size_modifyFrame])
  · intro b sb hb
    cases (hm s).symm.trans hb
    rw [Store.size_modifyFrame]
    exact ha _ hn

end Rules

/-! ## Tasks are safe -/

section Evaluator

variable {shown : FrameRef → Prop} {n : Nat} {next : Task → Traced Value} {scope : Scope}

variable (hnext : ∀ (n : Nat) (task : Task), task.Fits shown n →
  Safe shown n (Value.Fits shown) (next task))

include hnext

theorem safe_evalAll (hscope : scope.frame < n) (nodes : List Node) :
    Safe shown n (FitAll shown) (evalAll next scope nodes) := by
  induction nodes generalizing n with
  | nil => exact .pure fun _ _ => fitAll_nil
  | cons node rest ih =>
      refine (hnext n (.eval scope node) hscope).bind ?_
      intro v k hk hv
      refine (ih (Nat.lt_of_lt_of_le hscope hk)).bind ?_
      intro vs j hj hvs
      refine .pure ?_
      intro i hi
      exact .cons (hv.mono (Nat.le_trans hj hi)) (hvs.mono hi)

theorem safe_evalStatements (hscope : scope.frame < n) {last : Value} (hlast : last.Fits shown n)
    (nodes : List Node) :
    Safe shown n (Value.Fits shown) (evalStatements next scope last nodes) := by
  induction nodes generalizing n last with
  | nil => exact .pure fun _ hk => hlast.mono hk
  | cons node rest ih =>
      exact (hnext n (.eval scope node) hscope).bind fun v k hk hv =>
        ih (Nat.lt_of_lt_of_le hscope hk) hv

omit hnext in
theorem safe_refused (fault : Fault) :
    Safe shown n (Value.Fits shown) (Traced.quietly (throw fault)) :=
  .quietly fun _ _ => .throw fault

theorem safe_evalCall (hscope : scope.frame < n) (callee : String) (args : List Node)
    (location : Location) :
    Safe shown n (Value.Fits shown) (evalCall next scope callee args location) := by
  refine Safe.bind (.quietly fun _ _ => keeps_lookup hereditary_fits scope.frame callee)
    ?_
  intro f k hk hf
  split
  · exact safe_refused _
  · refine (safe_evalAll hnext (Nat.lt_of_lt_of_le hscope hk) args).bind ?_
    intro vs j hj hvs
    refine (hnext j (.apply f vs) ⟨hf.mono hj, hvs⟩).onFault ?_
    intro fault
    cases fault with
    | _ => exact safe_refused _

theorem safe_invoke (c : Closure) {args : List Value} (hargs : FitAll shown n args) :
    Safe shown n (Value.Fits shown) (invoke next c args) := by
  intro s hs hn
  -- The working copy fits because the captured frame and the arguments do.
  have hentered : (c.enter args s).Sound shown :=
    hs.addFrame ((hs.frameFits c.frame).bindParams c.params (hargs.mono hn))
      ((hs.distinct c.frame).bindParams c.params args)
  have hsize := c.size_enter args s
  obtain ⟨hsound, hgrows, hvalue, hshown⟩ :=
    hnext (s.frames.size + 1) (.eval (c.inside s) c.body) (Nat.lt_succ_self _) _ hentered
      (Nat.le_of_eq hsize.symm)
  have hle : s.frames.size ≤ (c.enter args s).frames.size := hsize ▸ Nat.le_succ _
  have hinner := fun change hmem => (hshown change hmem).mono hle
  cases hr : (next (.eval (c.inside s) c.body)).run (c.enter args s) with
  | ok v s' =>
      obtain ⟨hrun, hlog⟩ := invoke_of_ok hr
      rw [Run.after_of_ok hr] at hsound hgrows
      have hafter := Run.after_of_ok hrun
      refine ⟨?_, ?_, ?_, ?_⟩
      · rw [hafter]
        refine (hsound.release s.frames.size).modifyFrame c.frame ?_ ?_
        · rw [Store.size_release]
          refine Frame.Fits.commit ?_ (hsound.frameFits _) (hsound.distinct _)
          have := (hsound.release s.frames.size).frameFits c.frame
          rwa [Store.size_release] at this
        · exact ((hsound.release s.frames.size).distinct c.frame).commit _
      · rw [hafter, Closure.size_leave]
        exact Nat.le_trans hle hgrows
      · intro b sb hb
        cases hrun.symm.trans hb
        rw [Closure.size_leave]
        exact hvalue hr
      · rw [hlog]
        exact List.forall_mem_append.2 ⟨hinner, List.forall_mem_singleton.2 trivial⟩
  | error fault s' =>
      obtain ⟨hrun, hlog⟩ := invoke_of_error hr
      rw [Run.after_of_error hr] at hsound hgrows
      have hafter := Run.after_of_error hrun
      refine ⟨hafter ▸ hsound.release s.frames.size, ?_, ?_, ?_⟩
      · rw [hafter, Store.size_release]
        exact Nat.le_trans hle hgrows
      · intro b sb hb
        cases hrun.symm.trans hb
      · exact hlog ▸ hinner

omit hnext in
theorem keeps_load {P : Store → Prop} (source : Source) :
    Run.Keeps P (fun _ => True) (Evaluator.load source) := by
  unfold Evaluator.load
  split
  · exact .throw _
  · exact .throw _
  · split
    · exact .throw _
    · exact .pure trivial

omit hnext in
theorem keeps_fetch {P : Value → Prop} {frames : Array Frame} (scope : Scope) (path : String) :
    Run.Keeps (Store.Holds P frames) (fun _ => True) (Evaluator.fetch scope path) := by
  intro s hs
  unfold Evaluator.fetch
  dsimp only
  split
  · exact ⟨⟨hs.frames, hs.bound, hs.listed, hs.keyed, hs.kept, hs.hosted⟩, trivial⟩
  · exact ⟨hs, trivial⟩

theorem safe_evalInclude (hscope : scope.frame < n) (args : List Node) (location : Location) :
    Safe shown n (Value.Fits shown) (evalInclude next scope args location) := by
  refine (safe_evalAll hnext hscope args).bind ?_
  intro values k hk _
  have hscope' := Nat.lt_of_lt_of_le hscope hk
  split
  · exact safe_refused _
  · next path _ =>
      refine Safe.bind (Q := fun _ _ => True) (.quietly fun _ _ => keeps_fetch scope path) ?_
      intro found j hj _
      split
      · exact safe_refused _
      · next source =>
          refine Safe.onFault ?_ ?_
          · refine Safe.bind (Q := fun _ _ => True) (.quietly fun _ _ => keeps_load source) ?_
            intro loaded l hl _
            exact hnext l (.eval ⟨scope.frame, source, scope.recorder⟩ loaded.2)
              (Nat.lt_of_lt_of_le hscope' (Nat.le_trans hj hl))
          · intro fault
            cases fault with
            | _ => exact safe_refused _

theorem safe_evalNode (hscope : scope.frame < n) (node : Node) :
    Safe shown n (Value.Fits shown) (evalNode next scope node) := by
  cases node with
  | literal value span => exact .pure fun _ _ => .plain (isPlain_ofLiteral value)
  | comment text span => exact .pure fun _ _ => .plain rfl
  | identifier name span => exact .quietly fun _ _ => keeps_lookup hereditary_fits _ _
  | assignment name value span =>
      refine (hnext n (.eval scope value) hscope).bind ?_
      intro v k _ hv
      refine Safe.bind (Q := fun _ _ => True) ?_ fun _ j hj _ =>
        .pure fun i hi => hv.mono (Nat.le_trans hj hi)
      exact .noting (fun _ hk => hv.mono hk) (fun _ _ => trivial) (fun _ => rfl) fun _ => trivial
  | statements items span => exact safe_evalStatements hnext hscope (.plain rfl) items
  | block items inner span => exact safe_evalStatements hnext hscope (.plain rfl) items
  | list items span =>
      refine (safe_evalAll hnext hscope items).bind ?_
      intro values k _ hvalues
      refine .quietly fun frames hk => keeps_newList (fun v hv => ?_) hereditary_fits
      exact (hvalues v (List.mem_toArray.1 hv)).mono hk
  | call callee args span =>
      unfold evalNode
      dsimp only
      split
      · exact safe_evalInclude hnext hscope args _
      · exact safe_evalCall hnext hscope callee args _
  | function params body span =>
      refine .quietly ?_
      intro frames hk
      refine keeps_freshMark.bind ?_
      intro id _
      refine Run.Keeps.andThen (.modify ?_ trivial) (.pure ?_)
      · intro s hs
        exact ⟨hs.frames, hs.bound, hs.listed, hs.keyed, hs.kept, hs.hosted⟩
      · exact .closure (Nat.lt_of_lt_of_le hscope hk)

end Evaluator

section Library

variable {shown : FrameRef → Prop} {n : Nat} {call : Value → List Value → Traced Value}

variable (hcall : ∀ (n : Nat) (f : Value) (args : List Value), f.Fits shown n →
  FitAll shown n args → Safe shown n (Value.Fits shown) (call f args))

include hcall

theorem safe_choose {cond then_ else_ : Value} (hthen : then_.Fits shown n)
    (helse : else_.Fits shown n) :
    Safe shown n (Value.Fits shown) (choose call cond then_ else_) := by
  refine Safe.bind (Q := fun _ _ => True) (.quietly fun _ _ => keeps_asked _) ?_
  intro b k hk _
  split
  · exact hcall k then_ [] (hthen.mono hk) fitAll_nil
  · split
    · exact .pure fun _ _ => .plain rfl
    · exact hcall k else_ [] (helse.mono hk) fitAll_nil

omit hcall in
theorem keeps_iterate {P : Value → Prop} {frames : Array Frame} (hP : Hereditary P) {items : Value}
    (hitems : P items) : Run.Keeps (Store.Holds P frames) (fun found => ∀ v ∈ found, P v)
      (Library.ask fun s => Library.iterate s items) := by
  refine .ask ?_
  intro s hs found hfound v hv
  unfold Library.iterate at hfound
  split at hfound
  · cases hfound
    exact hs.listed (Array.mem_toList_iff.1 hv)
  · cases hfound
    obtain ⟨c, -, rfl⟩ := List.mem_map.1 hv
    exact hP.plain rfl
  · cases hfound
    exact hs.keyed (Array.mem_toList_iff.1 hv)
  · cases hfound
    obtain ⟨name, -, rfl⟩ := List.mem_map.1 hv
    exact hP.plain rfl
  · cases hfound
    exact hP.tuple.1 hitems v hv
  · cases hfound

theorem safe_callEach {f : Value} (hf : f.Fits shown n) (index : Nat) {items : List Value}
    (hitems : FitAll shown n items) :
    Safe shown n (fun _ _ => True) (callEach call f index items) := by
  induction items generalizing n index with
  | nil => exact .pure fun _ _ => trivial
  | cons item rest ih =>
      refine (hcall n f [item, .int index] hf ?_).bind fun _ k hk _ =>
        ih (hf.mono hk) (index + 1) (hitems.tail.mono hk)
      exact .cons hitems.head (.cons (.plain rfl) fitAll_nil)

theorem safe_each {items f : Value} (hitems : items.Fits shown n) (hf : f.Fits shown n) :
    Safe shown n (Value.Fits shown) (each call items f) := by
  refine Safe.bind (Q := FitAll shown)
    (.quietly fun _ hk => keeps_iterate hereditary_fits (hitems.mono hk)) ?_
  intro found k hk hfound
  exact (safe_callEach hcall (hf.mono hk) 0 hfound).bind fun _ _ _ _ =>
    .pure fun _ _ => .plain rfl

theorem safe_runLibrary (recorder : RecorderRef) (f : LibraryFunction) {args : List Value}
    (hargs : FitAll shown n args) :
    Safe shown n (Value.Fits shown) (runLibrary call recorder f args) := by
  unfold runLibrary
  split
  · exact safe_choose hcall hargs.tail.head (.plain rfl)
  · exact safe_choose hcall hargs.tail.head hargs.tail.tail.head
  · exact .pure fun _ _ => .plain rfl
  · exact safe_each hcall hargs.head hargs.tail.head
  · exact .pure fun _ _ => .plain rfl
  · have hvalue := hargs.tail.tail.head
    exact .noting (fun _ hk => hvalue.mono hk) (fun _ hk => hvalue.mono hk) (fun _ => rfl)
      fun _ => fits_shown hargs.head
  · next hif heach _ _ _ hset =>
      exact .quietly fun _ hk => keeps_run hereditary_fits (hargs.mono hk) hif heach
        fun hf ref name v hargs => hset ref name v hf hargs

theorem safe_conduct {conduct : Conduct} (h : conduct.Honours (.fitting shown) n) :
    Safe shown n (Value.Fits shown) (Traced.conduct call conduct) := by
  induction h with
  | done hv => exact .pure fun _ hk => Value.Fits.mono hk hv
  | stopped => exact safe_refused _
  | @act n edit next hstore hchange _ ih =>
      -- The rest is right by the number of frames that the change leaves.
      refine Safe.bind (Q := fun k before => before.Sound shown ∧ n ≤ before.frames.size ∧
        (edit.make before).frames.size = k) ?_ ?_
      · intro s hs hn
        refine ⟨hstore s hs hn, edit.grows s, ?_, ?_⟩
        · rintro before s' ⟨⟩
          exact ⟨hs, hn, rfl⟩
        · exact List.forall_mem_singleton.2 (hchange s hs hn)
      · rintro before k - ⟨hs, hn, rfl⟩
        exact ih before hs hn
  | @call n f args next hf hargs _ _ ihdone ihstopped =>
      refine (hcall n f args hf hargs).settle.bind ?_
      intro outcome k hk hvalue
      cases outcome with
      | ok v => exact ihdone k v hk (hvalue v rfl)
      | error fault => exact ihstopped k fault hk trivial

omit hcall in
theorem safe_checked {t : Traced Value} (ht : Safe shown n (Value.Fits shown) t)
    (sig : Option Signature) (args : List Value) :
    Safe shown n (Value.Fits shown) (checked sig args t) := by
  refine Safe.bind (Q := fun _ _ => True) (.quietly ?_) fun _ k hk _ => ht.mono hk
  intro _ _
  cases sig with
  | none => exact .pure trivial
  | some sig => exact keeps_check sig args

end Library

section Tasks

variable {shown : FrameRef → Prop}

theorem safe_step {host : Host} (hhost : host.Fits shown) {next : Task → Traced Value}
    (hnext : ∀ n task, task.Fits shown n → Safe shown n (Value.Fits shown) (next task)) {n : Nat}
    {task : Task} (htask : task.Fits shown n) :
    Safe shown n (Value.Fits shown) (step host next task) := by
  cases task with
  | eval scope node => exact safe_evalNode hnext htask node
  | apply f args =>
      obtain ⟨-, hargs⟩ := htask
      have hcall (k : Nat) (g : Value) (xs : List Value) (hg : g.Fits shown k)
          (hxs : FitAll shown k xs) := hnext k (.apply g xs) ⟨hg, hxs⟩
      cases f with
      | function f =>
          cases f with
          | closure c => exact safe_invoke hnext c hargs
          | library recorder g =>
              exact safe_checked (safe_runLibrary hcall recorder g hargs) _ args
          | host g => exact safe_conduct hcall (hhost n g args hargs)
      | _ => exact safe_refused _

/-- A task that fits its store leaves a sound store, and a value that fits it. -/
theorem perform_safe {host : Host} (hhost : host.Fits shown) (depth n : Nat) {task : Task}
    (htask : task.Fits shown n) : Safe shown n (Value.Fits shown) (perform host depth task) := by
  induction depth generalizing n task with
  | zero => exact safe_refused _
  | succ depth ih => exact safe_step hhost (fun k _ => ih k) htask

end Tasks

end Traced

/-! ## Reached stores -/

/-- The stores that an embedding program reaches: it starts with nothing but a world, makes
runners, with bindings that fit, has them run sources, and has programs
evaluated and functions called as it likes. -/
inductive Reached (shown : FrameRef → Prop) (host : Host) : Store → Prop
  | start (world : World) : Reached shown host { world := world }
  | created {s : Store} (options : Runner.Options) (h : Reached shown host s)
      (hmembers : ∀ m ∈ options.members, m.value.Fits shown s.frames.size)
      (hbindings : ∀ b ∈ options.bindings, b.2.Fits shown s.frames.size) :
      Reached shown host ((Runner.create options).after s)
  | ran {s : Store} (runner : Runner) (source : Source) (h : Reached shown host s)
      (hroot : runner.root < s.frames.size) :
      Reached shown host ((runner.handle host source).after s)
  | did {s : Store} (depth : Nat) (task : Task) (h : Reached shown host s)
      (htask : task.Fits shown s.frames.size) :
      Reached shown host ((Evaluator.perform host depth task).after s)

section Reached

variable {shown : FrameRef → Prop} {host : Host} {s : Store}

theorem sound_empty (world : World) : ({ world := world } : Store).Sound shown :=
  (Store.held_empty world).sound rfl

/-- A new runner binds functions of the library, members of the host, and what it is given. -/
theorem Store.Held.create {P : Value → Prop} (hs : s.Held P)
    (hlibrary : ∀ recorder f, P (.function (.library recorder f))) (options : Runner.Options)
    (hmembers : ∀ m ∈ options.members, P m.value) (hbindings : ∀ b ∈ options.bindings, P b.2) :
    ((Runner.create options).after s).Held P := by
  have hrecorder : { s with recorders := s.recorders.push {} }.Held P :=
    hs.withFrames rfl rfl rfl hs.binds hs.distinct
  refine hrecorder.addFrame (Frame.binds_ofBindings ?_) (Frame.distinct_ofBindings _)
  intro b hb
  rcases List.mem_append.1 hb with hb | hb
  · rcases List.mem_append.1 hb with hb | hb
    · split at hb
      · rcases List.mem_append.1 hb with hb | hb
        · obtain ⟨f, -, rfl⟩ := List.mem_map.1 hb
          exact hlibrary _ f
        · obtain ⟨⟨symbol, f⟩, -, rfl⟩ := List.mem_map.1 hb
          exact hlibrary _ f
      · cases hb
    · obtain ⟨m, hm, rfl⟩ := List.mem_map.1 hb
      exact hmembers m (List.mem_filter.1 hm).1
  · exact hbindings b hb

/-- What holds of stores whatever was heard, and is kept by evaluating nodes in the frame of
a runner, is kept by what the runner runs. -/
theorem keeps_handle {I : Store → Prop} {runner : Runner}
    (hrecorders : ∀ (s : Store) recorders, I s → I { s with recorders := recorders })
    (hperform : ∀ source depth node, Run.Keeps I (fun _ => True)
      (Evaluator.perform host depth (.eval ⟨runner.root, source, runner.recorder⟩ node)))
    (source : Source) : Run.Keeps I (fun _ => True) (runner.handle host source) := by
  have start (program : Node) : Run.Keeps I (fun _ => True)
      (runner.start host source program) := by
    intro s hs
    refine Run.Keeps.onFault (hperform source s.world.limits.tasks program) ?_ s hs
    intro fault
    cases fault with
    | _ => exact .throw _
  have heard (effect : Effect) : Run.Keeps I (fun _ => True)
      (modify (·.record runner.recorder effect) : Run PUnit) :=
    .modify (fun s hs => hrecorders s _ hs) trivial
  have evaluated : Run.Keeps I (fun _ => True) (runner.evaluate host source) := by
    refine (Traced.keeps_load source).bind ?_
    intro loaded _
    exact .ite (((heard _).andThen (heard _)).andThen (start _)) (start _)
  have reset : Run.Keeps I (fun _ => True) runner.reset := fun s hs => ⟨hrecorders s _ hs, trivial⟩
  intro s hs
  have hrun := reset.andThen evaluated s hs
  unfold Runner.handle
  dsimp only
  generalize (runner.reset >>= fun _ => runner.evaluate host source) s = outcome at hrun ⊢
  cases outcome with
  | ok v s' => exact hrun
  | error fault s' =>
      cases fault with
      | script d => exact ⟨hrecorders s' _ hrun, trivial⟩
      | _ => exact hrun

/-- The store is sound, and has the given frame. -/
def Store.SoundWith (shown : FrameRef → Prop) (root : FrameRef) (s : Store) : Prop :=
  s.Sound shown ∧ root < s.frames.size

theorem keepsSound_perform (hhost : host.Fits shown) (depth : Nat) (scope : Scope) (node : Node) :
    Run.Keeps (Store.SoundWith shown scope.frame) (fun _ => True)
      (Evaluator.perform host depth (.eval scope node)) := by
  intro s hs
  have htask : (Task.eval scope node).Fits shown s.frames.size := hs.2
  obtain ⟨hsound, hgrows, -, -⟩ :=
    Traced.perform_safe hhost depth _ htask s hs.1 (Nat.le_refl _)
  rw [Traced.perform_run] at hsound hgrows
  cases hm : Evaluator.perform host depth (.eval scope node) s with
  | ok v s' =>
      rw [Run.after_of_ok hm] at hsound hgrows
      exact ⟨⟨hsound, Nat.lt_of_lt_of_le hs.2 hgrows⟩, trivial⟩
  | error fault s' =>
      rw [Run.after_of_error hm] at hsound hgrows
      exact ⟨hsound, Nat.lt_of_lt_of_le hs.2 hgrows⟩

/-- Where the host holds no frame but shown ones, every store that runners reach is sound:
its closures remember frames that exist, and each frame binds each name once. -/
theorem Reached.sound (hhost : host.Fits shown) (h : Reached shown host s) : s.Sound shown := by
  induction h with
  | start world => exact sound_empty world
  | @created s options _ hmembers hbindings ih =>
      have hle := Nat.le_succ s.frames.size
      have hheld := (ih.held hle).create .library options
        (fun m hm => (hmembers m hm).mono hle) fun b hb => (hbindings b hb).mono hle
      exact hheld.sound (Array.size_push ..)
  | ran runner source _ hroot ih =>
      have hkept (s : Store) (recorders : Array Recorder)
          (hs : s.SoundWith shown runner.root) :
          { s with recorders := recorders }.SoundWith shown runner.root :=
        ⟨hs.1.withFrames rfl rfl rfl (Nat.le_refl _) hs.1.frameFits hs.1.distinct, hs.2⟩
      exact ((keeps_handle hkept (fun source depth node =>
        keepsSound_perform hhost depth ⟨runner.root, source, runner.recorder⟩ node)
          source).after ⟨ih, hroot⟩).1
  | did depth task _ htask ih =>
      rw [← Traced.perform_run]
      exact (Traced.perform_safe hhost depth _ htask _ ih (Nat.le_refl _)).sound

/-- Every frame binds each name once. -/
def Store.Distinct (s : Store) : Prop := ∀ ref, (s.frame ref).Distinct

/-- Whatever the host does, each frame of a store that runners reach binds each name once. -/
theorem Reached.distinct (h : Reached shown host s) : s.Distinct := by
  have performed (depth : Nat) (task : Task) {s : Store} (hs : s.Distinct) :
      ((Evaluator.perform host depth task).after s).Distinct := by
    rw [← Traced.perform_run]
    exact (Traced.perform_accounts host depth task s).distinct hs
  induction h with
  | start world => exact (Store.held_empty (P := fun _ => True) world).distinct
  | created options _ _ _ ih =>
      exact Store.distinct_addFrame ih (Frame.distinct_ofBindings _)
  | ran runner source _ _ ih =>
      exact (keeps_handle (I := Store.Distinct) (fun _ _ hs => hs)
        (fun _ depth _ => .of_after fun _ hs => performed depth _ hs) source).after ih
  | did depth task _ _ ih => exact performed depth task ih

end Reached

end Scriptlet
