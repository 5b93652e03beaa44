/-
# Evaluation side by side

Evaluating trees of the same shape in alike scopes, or applying alike functions
to alike arguments, comes to the same: layout never shows.  `perform_twins` is
the induction on the depth of tasks, and one task at a time is `twins_step`.

Scopes are alike when they have the same frame, the same runner and sources under one name;
the texts of the sources may differ, and with them every place.

Places leave the evaluator in one way only.  A diagnostic carries its place to
whoever looks at faults, an `include` among them, which writes the place into the
message of a diagnostic of its own; but such a message is part of a diagnostic
again.  Values never depend on it, except through a function of the host that
reads the fault of a call: hence the hypothesis that the host overlooks places
(`Host.Overlooks`).
-/
import Scriptlet.Eval.Evaluator
import Scriptlet.Proofs.Evaluation.TwinLibrary

namespace Scriptlet

open Run Evaluator

/-! ## Tasks -/

/-- The same frame, the same runner, and sources under one name. -/
structure Scope.Alike (a b : Scope) : Prop where
  frame : a.frame = b.frame
  source : a.source.Alike b.source
  recorder : a.recorder = b.recorder

/-- Trees of the same shape in alike scopes, or alike functions and arguments. -/
inductive Task.Alike : Task → Task → Prop
  | eval {scope scope' : Scope} {node node' : Node} (hscope : scope.Alike scope')
      (hnode : node.shape = node'.shape) : Alike (.eval scope node) (.eval scope' node')
  | apply {f f' : Value} {xs ys : List Value} (hf : f.Alike f') (hargs : AlikeAll xs ys) :
      Alike (.apply f xs) (.apply f' ys)

/-! ## Nodes -/

abbrev SameShapes : List Node → List Node → Prop := List.Forall₂ fun a b => a.shape = b.shape

theorem sameShapes_of_shapes {nodes nodes' : List Node}
    (h : Node.shapes nodes = Node.shapes nodes') : SameShapes nodes nodes' := by
  induction nodes generalizing nodes' with
  | nil =>
      cases nodes' with
      | nil => exact .nil
      | cons node' rest' => cases h
  | cons node rest ih =>
      cases nodes' with
      | nil => cases h
      | cons node' rest' =>
          rw [Node.shapes, Node.shapes, List.cons.injEq] at h
          exact .cons h.1 (ih h.2)

section Evaluator

variable {pairing : Pairing} {next next' : Task → Run Value}
  {scope scope' : Scope}

/-- The two ways to do the tasks inside are twins on alike tasks. -/
def TasksAlike (pairing : Pairing) (next next' : Task → Run Value) : Prop :=
  ∀ {task task' : Task}, task.Alike task' → CallTwins pairing (next task) (next' task')

theorem twins_report {α β : Type} {Q : α → β → Prop} {cause cause' : Cause}
    (h : cause.Alike cause') (location location' : Location) :
    Twins pairing Q (Run.report cause location) (Run.report cause' location') :=
  .throw (.script ⟨rfl, h⟩)

theorem twins_frame (ref : FrameRef) :
    Twins pairing Frame.Alike (Run.frame ref) (Run.frame ref) := by
  intro s t hs
  exact .ok hs (hs.frame ref)

theorem twins_newFrame {f g : Frame} (h : f.Alike g) :
    SameTwins pairing (Run.newFrame f) (Run.newFrame g) := by
  intro s t hs
  exact .ok (hs.addFrame h) (Rows.size_eq hs.frames)

variable (hnext : TasksAlike pairing next next') (hscope : scope.Alike scope')

include hnext hscope

theorem twins_evalAll {nodes nodes' : List Node} (h : SameShapes nodes nodes') :
    Twins pairing AlikeAll
      (evalAll next scope nodes) (evalAll next' scope' nodes') := by
  induction h with
  | nil => exact .pure .nil
  | cons hfirst _ ih =>
      refine (hnext (.eval hscope hfirst)).bind fun v v' hv => ?_
      refine ih.bind fun vs vs' hvs => ?_
      exact .pure (.cons hv hvs)

theorem twins_evalStatements {nodes nodes' : List Node} (h : SameShapes nodes nodes')
    {last last' : Value} (hlast : last.Alike last') :
    CallTwins pairing (evalStatements next scope last nodes)
      (evalStatements next' scope' last' nodes') := by
  induction h generalizing last last' with
  | nil => exact .pure hlast
  | cons hfirst _ ih => exact (hnext (.eval hscope hfirst)).bind fun v v' hv => ih hv

/-! ## Calls -/

omit hnext hscope in
theorem twins_blameCall (callee : String) (location location' : Location) {e f : Fault}
    (h : e.Alike f) :
    CallTwins pairing (blameCall callee location e) (blameCall callee location' f) := by
  cases h with
  | script h => exact .throw (.script h)
  | same =>
      cases e with
      | raised mishap => exact twins_report (.same _) _ _
      | exhausted => exact twins_report (.same _) _ _
      | _ => exact .throw (.same _)

theorem twins_evalCall (callee : String) {args args' : List Node} (h : SameShapes args args')
    (location location' : Location) :
    CallTwins pairing (evalCall next scope callee args location)
      (evalCall next' scope' callee args' location') := by
  unfold evalCall
  rw [hscope.frame]
  refine (twins_lookup scope'.frame callee).bind ?_
  intro f f' hf
  have hcallable : f.callable?.isSome = f'.callable?.isSome := by
    cases hf <;> rfl
  have hkind : f.kindWord = f'.kindWord := by
    cases hf <;> rfl
  cases hleft : f.callable? with
  | none =>
      rw [hleft] at hcallable
      rw [Option.not_isSome_iff_eq_none.1 (Bool.eq_false_iff.1 hcallable.symm), hkind]
      exact twins_report (.same _) _ _
  | some g =>
      rw [hleft] at hcallable
      obtain ⟨g', hright⟩ := Option.isSome_iff_exists.1 hcallable.symm
      rw [hright]
      refine (twins_evalAll hnext hscope h).bind ?_
      intro values values' hvalues
      refine (hnext (.apply hf hvalues)).onFault ?_
      intro e e' hlike
      exact twins_blameCall callee location location' hlike

omit hscope in
theorem twins_invoke {c d : Closure} (hc : c.Alike d) {xs ys : List Value}
    (hargs : AlikeAll xs ys) :
    CallTwins pairing (invoke next c xs) (invoke next' d ys) := by
  unfold invoke
  rw [hc.params, hc.frame]
  refine (twins_frame d.frame).bind ?_
  intro captured captured' hcaptured
  refine (twins_newFrame (hcaptured.bindParams d.params hargs)).bind ?_
  rintro working _ rfl
  refine Twins.bind (Q := Value.Alike) ?_ ?_
  · have hinside : Scope.Alike ⟨working, c.source, c.recorder⟩ ⟨working, d.source, d.recorder⟩ :=
      ⟨rfl, hc.source, hc.recorder⟩
    refine (hnext (.eval hinside hc.body)).onFault ?_
    intro e f hlike
    exact Twins.andThen (Q := Eq) (.modify (fun s t hs => hs.release working) rfl) (.throw hlike)
  · intro result result' hresult
    refine (twins_frame working).bind ?_
    intro committed committed' hcommitted
    refine Twins.andThen (Q := Eq) (.modify ?_ rfl) (.pure hresult)
    intro s t hs
    exact (hs.release working).modifyFrame d.frame fun _ _ hframe => hframe.commit hcommitted

omit hnext in
theorem twins_makeClosure (params : List String) {body body' : Node}
    (hbody : body.shape = body'.shape) :
    CallTwins pairing (makeClosure scope params body) (makeClosure scope' params body') := by
  unfold makeClosure
  rw [hscope.frame]
  refine twins_freshMark.bind ?_
  rintro id _ rfl
  refine Twins.andThen (Q := Eq) (.modify (fun s t hs => hs.capture scope'.frame) rfl) ?_
  exact .pure (.closure ⟨rfl, rfl, hbody, hscope.source, rfl, hscope.recorder⟩)

/-! ## Including files -/

omit hnext hscope in
theorem twins_load (source : Source) : SameTwins pairing (load source) (load source) := by
  unfold load
  split
  · exact .throw (.same _)
  · exact .raise _
  · split
    · exact .throw (.same _)
    · exact .pure rfl

omit hnext hscope in
theorem twins_blameInclude (path : String) (location location' : Location) {e f : Fault}
    (h : e.Alike f) :
    CallTwins pairing (blameInclude path location e) (blameInclude path location' f) := by
  cases h with
  | script => exact twins_report (.included _ _ _) _ _
  | same =>
      cases e with
      | script d => exact twins_report (.same _) _ _
      | exhausted => exact twins_report (.same _) _ _
      | raised mishap => exact .raise _
      | _ => exact .throw (.same _)

omit hnext hscope in
theorem includePath?_eq {xs ys : List Value} (h : AlikeAll xs ys) :
    includePath? xs = includePath? ys := by
  rcases h with _ | ⟨ha, _ | ⟨_, _⟩⟩
  · rfl
  · cases ha <;> rfl
  · simp only [includePath?]

omit hnext in
theorem twins_fetch (path : String) :
    SameTwins pairing (fetch scope path) (fetch scope' path) := by
  intro s t hs
  have hbase : includeBase s scope = includeBase t scope' := by
    rw [includeBase, includeBase, Source.directory, Source.directory, hscope.source.path,
      hscope.recorder, hs.world, hs.sourceDir_eq]
  unfold fetch
  rw [hbase, hs.world]
  refine .ok ?_ rfl
  split
  · next full _ =>
      exact { hs with requested := congrArg (full :: ·) hs.requested, world := rfl }
  · exact hs

theorem twins_evalInclude {args args' : List Node} (h : SameShapes args args')
    (location location' : Location) :
    CallTwins pairing (evalInclude next scope args location)
      (evalInclude next' scope' args' location') := by
  unfold evalInclude
  refine (twins_evalAll hnext hscope h).bind ?_
  intro values values' hvalues
  rw [includePath?_eq hvalues]
  split
  · exact twins_report (.same _) _ _
  · next path _ =>
      refine (twins_fetch hscope path).bind ?_
      rintro found _ rfl
      split
      · exact twins_report (.same _) _ _
      · next source =>
          have body : CallTwins pairing
              (load source >>= fun loaded => next (.eval { scope with source := source } loaded.2))
              (load source >>= fun loaded =>
                next' (.eval { scope' with source := source } loaded.2)) := by
            refine (twins_load source).bind ?_
            rintro loaded _ rfl
            have hinside : Scope.Alike { scope with source := source }
                { scope' with source := source } := ⟨hscope.frame, .refl source, hscope.recorder⟩
            exact hnext (.eval hinside rfl)
          refine body.onFault ?_
          intro e f hlike
          exact twins_blameInclude path location location' hlike

/-! ## One task, and all of them -/

theorem twins_evalNode {node node' : Node} (h : node.shape = node'.shape) :
    CallTwins pairing (evalNode next scope node) (evalNode next' scope' node') := by
  cases node with
  | comment text span =>
      cases node' with
      | comment text' span' => exact .pure (.plain rfl)
      | _ => cases h
  | literal value span =>
      cases node' with
      | literal value' span' =>
          cases h
          exact .pure (.plain (isPlain_ofLiteral value))
      | _ => cases h
  | identifier name span =>
      cases node' with
      | identifier name' span' =>
          cases h
          rw [evalNode, evalNode, hscope.frame]
          exact twins_lookup scope'.frame name
      | _ => cases h
  | assignment name value span =>
      cases node' with
      | assignment name' value' span' =>
          obtain ⟨rfl, hvalue⟩ := Shape.assignment.inj h
          rw [evalNode, evalNode, hscope.frame]
          refine (hnext (.eval hscope hvalue)).bind ?_
          intro v v' hv
          exact (twins_bindName scope'.frame name hv).andThen (.pure hv)
      | _ => cases h
  | function params body span =>
      cases node' with
      | function params' body' span' =>
          obtain ⟨rfl, hbody⟩ := Shape.function.inj h
          exact twins_makeClosure hscope params hbody
      | _ => cases h
  | call callee args span =>
      cases node' with
      | call callee' args' span' =>
          obtain ⟨rfl, hargs⟩ := Shape.call.inj h
          exact .ite (twins_evalInclude hnext hscope (sameShapes_of_shapes hargs) _ _)
            (twins_evalCall hnext hscope callee (sameShapes_of_shapes hargs) _ _)
      | _ => cases h
  | statements items span =>
      cases node' with
      | statements items' span' =>
          have hitems := sameShapes_of_shapes (Shape.statements.inj h)
          exact twins_evalStatements hnext hscope hitems (.plain rfl)
      | _ => cases h
  | block items inner span =>
      cases node' with
      | block items' inner' span' =>
          have hitems := sameShapes_of_shapes (Shape.block.inj h)
          exact twins_evalStatements hnext hscope hitems (.plain rfl)
      | _ => cases h
  | list items span =>
      cases node' with
      | list items' span' =>
          have hitems := sameShapes_of_shapes (Shape.list.inj h)
          refine (twins_evalAll hnext hscope hitems).bind ?_
          intro values values' hvalues
          exact twins_newList hvalues
      | _ => cases h

omit hscope in
theorem twins_applyValue {host : Host} (hhost : host.Overlooks pairing) {f f' : Value}
    (hf : f.Alike f') {xs ys : List Value} (hargs : AlikeAll xs ys) :
    CallTwins pairing (applyValue host next f xs) (applyValue host next' f' ys) := by
  have hcall : CallsAlike pairing (fun g zs => next (.apply g zs))
      (fun g zs => next' (.apply g zs)) := by
    intro g g' zs zs' hg hzs
    exact hnext (.apply hg hzs)
  cases hf with
  | closure hc => exact twins_invoke hnext hc hargs
  | library recorder g => exact twins_applyLibrary hcall recorder g hargs
  | host g => exact twins_conduct hcall (hhost g _ _ hargs)
  | frame => exact .raise _
  | tuple => exact .raise _
  | plain hplain =>
      cases f with
      | function => cases hplain
      | _ => exact .raise _

omit hscope in
theorem twins_step {host : Host} (hhost : host.Overlooks pairing) {task task' : Task}
    (h : task.Alike task') :
    CallTwins pairing (step host next task) (step host next' task') := by
  cases h with
  | eval hscope hnode => exact twins_evalNode hnext hscope hnode
  | apply hf hargs => exact twins_applyValue hnext hhost hf hargs

end Evaluator

/-- **Alike tasks come to the same**, from alike stores and to any depth: both give
alike values or both stop with alike faults, and leave alike stores. -/
theorem perform_twins {pairing : Pairing} {host : Host} (hhost : host.Overlooks pairing)
    (depth : Nat) {task task' : Task} (h : task.Alike task') :
    CallTwins pairing (perform host depth task) (perform host depth task') := by
  induction depth generalizing task task' with
  | zero => exact .throw (.same _)
  | succ depth ih => exact twins_step (fun h => ih h) hhost h

end Scriptlet
