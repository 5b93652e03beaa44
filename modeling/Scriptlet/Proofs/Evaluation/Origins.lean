/-
# Where evaluation reports errors

Evaluation reports errors at nodes: at a call that cannot be made or that fails, at an
`include`, at a whole program.  The nodes that it comes to are those of the scripts that it
was given, of the files that they include, and of the closures that it finds in the store.
A closure may be much older than the script, and come from another source; it keeps that
source with its body, and the body stems from it (`Value.Rooted`).

## The invariant

Evaluation keeps this of every value in the store (`perform_grounded`), so that each
diagnostic is at a marked span of some source, or else has no place at all (`Fault.Sited`).
One without a place is none of the evaluator's: a function of the host stated it.

A value that is rooted may be anything; it is the closures inside it that have to stem from
the sources they carry, and a closure can be inside a value only where the store has it.  So
it is an invariant of stores (`Store.Held`), and goes through the library by the one walk of
`Library`.

## The host

The host is a party to this.  It may hand back closures that it was given, or make some from
scripts that it reads, and it may state errors at places that it was told of, at places of
scripts of its own, or at none.  What it must not do is make up a place, or a body for a
closure: that is the contract `Contract.rooted`.
-/
import Scriptlet.Proofs.Evaluation.Contract
import Scriptlet.Proofs.Evaluation.Hearing
import Scriptlet.Proofs.Evaluation.Soundness
import Scriptlet.Proofs.Syntax.Stems

namespace Scriptlet

/-! ## Rooted values -/

/-- The closures in the value have bodies that stem from their sources. -/
inductive Value.Rooted : Value → Prop
  | plain {v : Value} (h : v.isPlain = true) : Rooted v
  | closure {c : Closure} (h : c.body.StemsFrom c.source) : Rooted (.function (.closure c))
  | library (recorder : RecorderRef) (f : LibraryFunction) :
      Rooted (.function (.library recorder f))
  | host (f : HostFunction) : Rooted (.function (.host f))
  | frame (ref : FrameRef) : Rooted (.frame ref)
  | tuple {id : Nat} {items : List Value} (h : ∀ v ∈ items, Rooted v) : Rooted (.tuple id items)

/-- The node stems from the source of its scope, and the values are rooted. -/
def Task.Rooted : Task → Prop
  | .eval scope node => node.StemsFrom scope.source
  | .apply f args => f.Rooted ∧ ∀ v ∈ args, v.Rooted

/-- A diagnostic is at a marked span of a source, or has no place. -/
def Fault.Sited : Fault → Prop
  | .script d => (∃ source span, d.location = some (.ofSpan source span) ∧ Marked source span) ∨
      d.location = none
  | _ => True

/-- Values are rooted and errors are sited, on the side of the host as well. -/
def Contract.rooted : Contract where
  store s := s.Held Value.Rooted
  value _ v := v.Rooted
  fault := Fault.Sited

/-- The functions of the host make up no places and no bodies of closures. -/
def Host.Rooted (host : Host) : Prop := host.Honours .rooted

section Rooted

theorem hereditary_rooted : Hereditary Value.Rooted where
  plain := .plain
  tuple {id items} := by
    refine ⟨?_, .tuple⟩
    intro h
    cases h with
    | plain h => cases h
    | tuple h => exact h

theorem Value.Rooted.stems {c : Closure} (h : (Value.function (.closure c)).Rooted) :
    c.body.StemsFrom c.source := by
  cases h with
  | plain h => cases h
  | closure h => exact h

theorem Fault.Unplaced.sited {fault : Fault} (h : fault.Unplaced) : fault.Sited := by
  cases fault with
  | script d => exact absurd h id
  | _ => trivial

theorem Obstacle.sited_fault (why : Obstacle) : why.fault.Sited := by
  cases why with
  | integerTooLong => trivial
  | tooDeep => trivial

end Rooted

/-! ## Grounded computations -/

namespace Run

/-- The computation leaves rooted values in the store, its value satisfies `Q`, and its
fault is sited. -/
def GroundedAt {α : Type} (Q : α → Prop) (m : Run α) (s : Store) : Prop :=
  match m s with
  | .ok a s' => s'.Held Value.Rooted ∧ Q a
  | .error fault s' => s'.Held Value.Rooted ∧ fault.Sited

/-- The computation does so wherever there are rooted values in the store before. -/
def Grounded {α : Type} (Q : α → Prop) (m : Run α) : Prop :=
  ∀ s : Store, s.Held Value.Rooted → GroundedAt Q m s

section Rules

variable {α β : Type} {Q : α → Prop} {R : β → Prop} {m : Run α}

theorem Grounded.pure {a : α} (h : Q a) : Grounded Q (Pure.pure a : Run α) := by
  intro s hs
  exact ⟨hs, h⟩

theorem Grounded.throw {fault : Fault} (h : fault.Sited) :
    Grounded Q (throw fault : Run α) := by
  intro s hs
  exact ⟨hs, h⟩

theorem Grounded.raise (mishap : Mishap) : Grounded Q (raise mishap : Run α) := .throw trivial

theorem Grounded.report {source : Source} {span : Span} (h : Marked source span)
    (cause : Cause) : Grounded Q (report cause (.ofSpan source span) : Run α) :=
  .throw (.inl ⟨source, span, rfl, h⟩)

theorem Grounded.bind {f : α → Run β} (hm : Grounded Q m)
    (hf : ∀ a, Q a → Grounded R (f a)) : Grounded R (m >>= f) := by
  intro s hs
  have hms := hm s hs
  unfold GroundedAt at hms ⊢
  cases h : m s with
  | ok a s' =>
      rw [h] at hms
      rw [bind_of_ok h]
      exact hf a hms.2 s' hms.1
  | error fault s' =>
      rw [h] at hms
      rw [bind_of_error h]
      exact hms

theorem Grounded.onFault {handler : Fault → Run α} (hm : Grounded Q m)
    (h : ∀ fault, fault.Sited → Grounded Q (handler fault)) :
    Grounded Q (m.onFault handler) := by
  intro s hs
  have hms := hm s hs
  unfold GroundedAt at hms ⊢
  unfold Run.onFault
  cases hr : m s with
  | ok a s' =>
      rw [hr] at hms
      exact hms
  | error fault s' =>
      rw [hr] at hms
      exact h fault hms.2 s' hms.1

theorem Grounded.ite {c : Prop} [Decidable c] {m' : Run α} (hm : Grounded Q m)
    (hm' : Grounded Q m') : Grounded Q (if c then m else m') := by
  split
  · exact hm
  · exact hm'

theorem Grounded.modify {f : Store → Store}
    (h : ∀ s : Store, s.Held Value.Rooted → (f s).Held Value.Rooted) :
    Grounded (fun _ => True) (modify f : Run PUnit) := by
  intro s hs
  exact ⟨h s hs, trivial⟩

theorem Grounded.quiet (hkeeps : ∀ frames, Keeps (Store.Holds Value.Rooted frames) Q m)
    (hdeaf : Deaf Fault.Unplaced m) : Grounded Q m := by
  intro s hs
  have hms := hkeeps s.frames s hs.holds
  have held (s' : Store) (hs' : s'.Holds Value.Rooted s.frames) : s'.Held Value.Rooted := by
    refine ⟨hs'.frames.symm ▸ hs', ?_⟩
    intro ref
    rw [Store.frame, hs'.frames]
    exact hs.distinct ref
  unfold GroundedAt
  cases h : m s with
  | ok a s' =>
      rw [h] at hms
      exact ⟨held s' hms.1, hms.2⟩
  | error fault s' =>
      rw [h] at hms
      exact ⟨held s' hms, (hdeaf.faults h).sited⟩

theorem grounded_frame (ref : FrameRef) :
    Grounded (fun frame => frame.Binds Value.Rooted ∧ frame.Distinct) (Run.frame ref) := by
  intro s hs
  exact ⟨hs, hs.binds ref, hs.distinct ref⟩

theorem grounded_newFrame {frame : Frame} (hbinds : frame.Binds Value.Rooted)
    (hdistinct : frame.Distinct) : Grounded (fun _ => True) (Run.newFrame frame) := by
  intro s hs
  exact ⟨hs.addFrame hbinds hdistinct, trivial⟩

theorem grounded_bindName (ref : FrameRef) (name : String) {v : Value} (hv : v.Rooted) :
    Grounded (fun _ => True) (Run.bindName ref name v) := by
  intro s hs
  exact ⟨hs.modifyFrame ref ((hs.binds ref).insert hv name) ((hs.distinct ref).insert name v),
    trivial⟩

theorem grounded_newList {items : Array Value} (h : ∀ v ∈ items, v.Rooted) :
    Grounded Value.Rooted (Run.newList items) :=
  .quiet (fun _ => keeps_newList h hereditary_rooted) (deaf_newList items)

end Rules

end Run

/-! ## Functions -/

section Functions

open Run

variable {call : Value → List Value → Run Value}

variable (hcall : ∀ (f : Value) (args : List Value), f.Rooted → (∀ v ∈ args, v.Rooted) →
  Grounded Value.Rooted (call f args))

include hcall

theorem grounded_choose {cond then_ else_ : Value} (hthen : then_.Rooted) (helse : else_.Rooted) :
    Grounded Value.Rooted (Library.choose call cond then_ else_) := by
  have hask : Grounded (fun _ => True) (Library.ask fun s => .ok (s.isTrue cond)) := by
    refine .quiet (fun _ => keeps_asked _) (deaf_answer fun s ref earlier => ?_)
    cases cond <;> rfl
  refine hask.bind fun _ _ => .ite (hcall then_ [] hthen nofun) ?_
  split
  · exact .pure (.plain rfl)
  · exact hcall else_ [] helse nofun

theorem grounded_callEach {f : Value} (hf : f.Rooted) (index : Nat) {items : List Value}
    (hitems : ∀ v ∈ items, v.Rooted) :
    Grounded (fun _ => True) (Library.callEach call f index items) := by
  induction items generalizing index with
  | nil => exact .pure trivial
  | cons item rest ih =>
      obtain ⟨hitem, hrest⟩ := List.forall_mem_cons.1 hitems
      have hargs : ∀ v ∈ [item, .int index], v.Rooted :=
        List.forall_mem_cons.2 ⟨hitem, List.forall_mem_singleton.2 (.plain rfl)⟩
      exact (hcall f _ hf hargs).bind fun _ _ => ih (index + 1) hrest

theorem grounded_each {items f : Value} (hitems : items.Rooted) (hf : f.Rooted) :
    Grounded Value.Rooted (Library.each call items f) := by
  refine Grounded.bind (.quiet (fun _ => Traced.keeps_iterate hereditary_rooted hitems)
    (deaf_iterate items)) ?_
  intro found hfound
  exact (grounded_callEach hcall hf 0 hfound).bind fun _ _ => .pure (.plain rfl)

theorem grounded_if (recorder : RecorderRef) : ∀ {args : List Value}, (∀ v ∈ args, v.Rooted) →
    Grounded Value.Rooted (LibraryFunction.if.run call recorder args)
  | [], _ => .pure (.plain rfl)
  | [_], _ => .pure (.plain rfl)
  | [cond, then_], h => show Grounded _ (Library.choose call cond then_ .nothing) from
      grounded_choose hcall (h then_ (by simp)) (.plain rfl)
  | [_, then_, else_], h => grounded_choose hcall (h then_ (by simp)) (h else_ (by simp))
  | _ :: _ :: _ :: _ :: _, _ => .pure (.plain rfl)

theorem grounded_eachOf (recorder : RecorderRef) : ∀ {args : List Value},
    (∀ v ∈ args, v.Rooted) →
      Grounded Value.Rooted (LibraryFunction.each.run call recorder args)
  | [], _ => .pure (.plain rfl)
  | [_], _ => .pure (.plain rfl)
  | [items, f], h => grounded_each hcall (h items (by simp)) (h f (by simp))
  | _ :: _ :: _ :: _, _ => .pure (.plain rfl)

theorem grounded_runLibrary (recorder : RecorderRef) (f : LibraryFunction) {args : List Value}
    (hargs : ∀ v ∈ args, v.Rooted) : Grounded Value.Rooted (f.run call recorder args) := by
  by_cases hif : f = .if
  · exact hif ▸ grounded_if hcall recorder hargs
  by_cases heach : f = .each
  · exact heach ▸ grounded_eachOf hcall recorder hargs
  by_cases hset : f = .set ∧ ∃ ref name v, args = [.frame ref, .text name, v]
  · obtain ⟨rfl, ref, name, v, rfl⟩ := hset
    have hv : v.Rooted := hargs v (by simp)
    exact (grounded_bindName ref name hv).bind fun _ _ => .pure hv
  · refine .quiet (fun _ => keeps_run hereditary_rooted hargs hif heach ?_)
      (deaf_runLibrary hif heach)
    intro hf ref name v hargs
    exact hset ⟨hf, ref, name, v, hargs⟩

theorem groundedAt_conduct
    (hgrows : ∀ f args s, s.frames.size ≤ ((call f args).after s).frames.size)
    {conduct : Conduct} {s : Store} (h : conduct.Honours .rooted s.frames.size)
    (hs : s.Held Value.Rooted) : GroundedAt Value.Rooted (conduct.run call) s := by
  have hallowed : Contract.rooted.Allows s.frames.size (conduct.run call s) := by
    refine h.allowed (fun f args s hs hf hargs => ?_) hs rfl
    have hcallee := hcall f args hf hargs s hs
    have hmore := hgrows f args s
    unfold GroundedAt at hcallee
    cases hr : call f args s with
    | ok v s' =>
        rw [hr] at hcallee
        rw [Run.after_of_ok hr] at hmore
        exact ⟨hmore, hcallee⟩
    | error fault s' =>
        rw [hr] at hcallee
        rw [Run.after_of_error hr] at hmore
        exact ⟨hmore, hcallee⟩
  unfold GroundedAt
  cases hr : conduct.run call s with
  | ok v s' =>
      rw [hr] at hallowed
      exact hallowed.2
  | error fault s' =>
      rw [hr] at hallowed
      exact hallowed.2

omit hcall in
theorem grounded_check (sig : Signature) (args : List Value) :
    Grounded (fun _ => True) (sig.check args) :=
  .quiet (fun _ => keeps_check sig args) (deaf_check sig args)

end Functions

/-! ## Tasks -/

section Tasks

open Run Evaluator

/-- What is loaded from a source stems from it, and what is wrong with it is reported there. -/
theorem grounded_load (source : Source) :
    Grounded (fun loaded => loaded.2.StemsFrom source) (load source) := by
  unfold load
  split
  · next d hrefused =>
      obtain ⟨span, hlocation, hmarked⟩ := marked_of_refused hrefused
      exact .throw (.inl ⟨source, span, hlocation, hmarked⟩)
  · exact .raise _
  · next tokens htokens =>
      split
      · next d hparse =>
          obtain ⟨span, hlocation, hmarked⟩ := marked_of_unparsed htokens (.inl hparse)
          exact .throw (.inl ⟨source, span, hlocation, hmarked⟩)
      · next program hparse => exact .pure (.program htokens hparse)

variable {next : Task → Run Value} {scope : Scope}

variable (hnext : ∀ task : Task, task.Rooted → Grounded Value.Rooted (next task))

include hnext

theorem grounded_evalAll {nodes : List Node} (h : ∀ node ∈ nodes, node.StemsFrom scope.source) :
    Grounded (fun vs => ∀ v ∈ vs, v.Rooted) (evalAll next scope nodes) := by
  induction nodes with
  | nil => exact .pure nofun
  | cons node rest ih =>
      obtain ⟨hnode, hrest⟩ := List.forall_mem_cons.1 h
      refine (hnext (.eval scope node) hnode).bind fun v hv => ?_
      exact (ih hrest).bind fun vs hvs => .pure (List.forall_mem_cons.2 ⟨hv, hvs⟩)

theorem grounded_evalStatements {last : Value} (hlast : last.Rooted) {nodes : List Node}
    (h : ∀ node ∈ nodes, node.StemsFrom scope.source) :
    Grounded Value.Rooted (evalStatements next scope last nodes) := by
  induction nodes generalizing last with
  | nil => exact .pure hlast
  | cons node rest ih =>
      obtain ⟨hnode, hrest⟩ := List.forall_mem_cons.1 h
      exact (hnext (.eval scope node) hnode).bind fun v hv => ih hv hrest

theorem grounded_evalCall (callee : String) {args : List Node} {span : Span}
    (h : ∀ node ∈ args, node.StemsFrom scope.source) (hspan : Marked scope.source span) :
    Grounded Value.Rooted (evalCall next scope callee args (.ofSpan scope.source span)) := by
  refine Grounded.bind (.quiet (fun _ => keeps_lookup hereditary_rooted scope.frame callee)
    (deaf_lookup _ _)) fun f hf => ?_
  split
  · exact .report hspan _
  · refine (grounded_evalAll hnext h).bind fun values hvalues => ?_
    refine (hnext (.apply f values) ⟨hf, hvalues⟩).onFault fun fault hfault => ?_
    cases fault with
    | script d => exact .throw hfault
    | raised mishap => exact .report hspan _
    | exhausted => exact .report hspan _
    | interrupted kind => exact .throw trivial
    | wordlessFailure why => exact .throw why.sited_fault
    | wordlessError why => exact .throw trivial

theorem grounded_invoke {c : Closure} (hc : c.body.StemsFrom c.source) {args : List Value}
    (hargs : ∀ v ∈ args, v.Rooted) : Grounded Value.Rooted (invoke next c args) := by
  refine (grounded_frame c.frame).bind fun captured hcaptured => ?_
  refine (grounded_newFrame (hcaptured.1.bindParams hereditary_rooted c.params hargs)
    (hcaptured.2.bindParams c.params args)).bind fun working _ => ?_
  refine Grounded.bind ((hnext (.eval ⟨working, c.source, c.recorder⟩ c.body) hc).onFault
    fun fault hfault => ?_) fun result hresult => ?_
  · exact Grounded.bind (.modify fun s hs => hs.release working) fun _ _ => .throw hfault
  · refine (grounded_frame working).bind fun committed hcommitted => ?_
    refine Grounded.bind (.modify fun s hs => ?_) fun _ _ => .pure hresult
    have hreleased := hs.release working
    exact hreleased.modifyFrame c.frame
      ((hreleased.binds c.frame).commit hcommitted.1 hcommitted.2)
      ((hreleased.distinct c.frame).commit committed)

theorem grounded_evalInclude {args : List Node} {span : Span}
    (h : ∀ node ∈ args, node.StemsFrom scope.source) (hspan : Marked scope.source span) :
    Grounded Value.Rooted (evalInclude next scope args (.ofSpan scope.source span)) := by
  refine (grounded_evalAll hnext h).bind fun values _ => ?_
  split
  · exact .report hspan _
  · next path _ =>
      refine Grounded.bind (.quiet (fun _ => Traced.keeps_fetch scope path) ?_) fun found _ => ?_
      · exact deaf_fetch scope path
      · split
        · exact .report hspan _
        · next source =>
            refine Grounded.onFault ((grounded_load source).bind fun loaded hloaded =>
              hnext (.eval { scope with source := source } loaded.2) hloaded) fun fault hfault => ?_
            cases fault with
            | script d => exact .report hspan _
            | raised mishap => exact .raise mishap
            | exhausted => exact .report hspan _
            | interrupted kind => exact .throw trivial
            | wordlessFailure why => exact .throw trivial
            | wordlessError why => exact .throw why.sited_fault

omit hnext in
theorem grounded_makeClosure {params : List String} {body : Node}
    (h : body.StemsFrom scope.source) :
    Grounded Value.Rooted (makeClosure scope params body) := by
  refine Grounded.bind (.quiet (fun _ => keeps_freshMark) deaf_freshMark) fun id _ => ?_
  refine Grounded.bind (.modify fun s hs => ?_) fun _ _ => .pure (.closure h)
  exact hs.withFrames rfl rfl rfl hs.binds hs.distinct

theorem grounded_evalNode {node : Node} (h : node.StemsFrom scope.source) :
    Grounded Value.Rooted (evalNode next scope node) := by
  cases node with
  | literal value span => exact .pure (.plain (isPlain_ofLiteral value))
  | comment text span => exact .pure (.plain rfl)
  | identifier name span =>
      exact .quiet (fun _ => keeps_lookup hereditary_rooted _ _) (deaf_lookup _ _)
  | assignment name value span =>
      refine (hnext (.eval scope value) (h.part (List.mem_singleton_self _))).bind fun v hv => ?_
      exact (grounded_bindName scope.frame name hv).bind fun _ _ => .pure hv
  | statements items span =>
      exact grounded_evalStatements hnext (.plain rfl) fun _ hitem => h.part hitem
  | block items inner span =>
      have hinner : (Node.statements items inner).StemsFrom scope.source :=
        h.part (List.mem_singleton_self _)
      exact grounded_evalStatements hnext (.plain rfl) fun _ hitem => hinner.part hitem
  | list items span =>
      refine (grounded_evalAll hnext fun _ hitem => h.part hitem).bind fun values hvalues => ?_
      exact grounded_newList fun v hv => hvalues v (List.mem_toArray.1 hv)
  | call callee args span =>
      unfold evalNode
      exact .ite (grounded_evalInclude hnext (fun _ harg => h.part harg) h.marked)
        (grounded_evalCall hnext callee (fun _ harg => h.part harg) h.marked)
  | function params body span =>
      exact grounded_makeClosure (h.part (List.mem_singleton_self _))

variable {host : Host} (hhost : host.Rooted)

include hhost

theorem grounded_step (hgrows : ∀ task s, s.frames.size ≤ ((next task).after s).frames.size)
    {task : Task} (h : task.Rooted) :
    Grounded Value.Rooted (step host next task) := by
  have hcall (f : Value) (args : List Value) (hf : f.Rooted) (hargs : ∀ v ∈ args, v.Rooted) :
      Grounded Value.Rooted (next (.apply f args)) := hnext _ ⟨hf, hargs⟩
  cases task with
  | eval scope node => exact grounded_evalNode hnext h
  | apply f args =>
      obtain ⟨hf, hargs⟩ := h
      cases f with
      | function f =>
          cases f with
          | closure c => exact grounded_invoke hnext hf.stems hargs
          | library recorder g =>
              have hrun := grounded_runLibrary hcall recorder g hargs
              show Grounded Value.Rooted (g.apply _ recorder args)
              unfold LibraryFunction.apply
              split
              · exact (grounded_check _ args).bind fun _ _ => hrun
              · exact hrun
          | host g =>
              intro s hs
              exact groundedAt_conduct hcall (fun f args => hgrows (.apply f args))
                (hhost s.frames.size g args hargs) hs
      | _ => exact .raise _

omit hnext in
/-- A task among rooted values leaves rooted values, and reports errors at marked spans. -/
theorem perform_grounded (depth : Nat) {task : Task} (h : task.Rooted) :
    Grounded Value.Rooted (perform host depth task) := by
  induction depth generalizing task with
  | zero => exact .throw trivial
  | succ depth ih =>
      exact grounded_step (fun _ => ih) hhost (perform_grows host depth) h

omit hnext in
theorem runProgram_grounded (depth : Nat) {scope : Scope} {program : Node}
    (h : program.StemsFrom scope.source) :
    Grounded Value.Rooted (runProgram host depth scope program) := by
  have htask : (Task.eval scope program).Rooted := h
  refine (perform_grounded hhost depth htask).onFault fun fault hfault => ?_
  cases fault with
  | exhausted => exact .report h.marked _
  | _ => exact .throw hfault

end Tasks

end Scriptlet
