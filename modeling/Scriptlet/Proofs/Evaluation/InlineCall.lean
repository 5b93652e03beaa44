/-
# Calls that are their bodies

A call works on a copy of the frame that its closure was made in.  Where nothing
else can get at that frame, working on the copy and committing it comes to the
same as working on the frame itself: a call without parameters is its body,
evaluated in place, except that a call that fails leaves the frame alone
(`call_is_body_in_place`).

## The two evaluations

They go in lockstep.  One works on the frame, the other on a copy that stands behind all
frames; everything else in their stores is the same, and what the frame binds is frameless,
so that no call inside them sees a difference (`Store.Mirrored`).  The frame only gains
names, at its end, which is why the commit of the copy gives back the copy, with the order
of its names.

## What is asked, and what it is for

* The body makes no function and includes nothing (`Node.Inlined`).  A closure that the body
  makes remembers the frame of the body, and so the copy in the one evaluation and the frame
  in the other; and an included file may make closures.
* No closure and no frame can be reached from the frame.  A closure made in the frame, called
  from inside the body, would write to the frame in the one evaluation and under the copy in
  the other.
* Nor can one be reached from what the host keeps.  A host that kept a closure from an earlier
  script could call it at any time.
* The functions of the host are blind (`Host.Blind`): they hold no frame, neither to look at
  nor to write to.  Beyond that they may do what they please.

Nothing is asked of the frames of others, of the values that the body computes, or of how it
ends.  `grow_and_spoil_in_place` has one body that completes and one that fails.
-/
import Scriptlet.Proofs.Evaluation.Blindness
import Scriptlet.Proofs.Evaluation.Calls
import Scriptlet.Proofs.Syntax.Nesting
import Scriptlet.Proofs.Value.Transactions

namespace Scriptlet

open Evaluator Run

/-! ## What can be got at from a frame -/

/-- Values that can be got at from the bindings of a frame, or by the host. -/
inductive Store.Reaches (s : Store) (home : FrameRef) : Value → Prop
  | bound {name : String} {v : Value} (hv : (s.frame home).get? name = some v) : Reaches s home v
  | hosted {name : String} {v : Value} (hv : s.hosted.get? name = some v) : Reaches s home v
  | item {ref : ListRef} {v : Value} (h : Reaches s home (.list ref)) (hv : v ∈ s.list ref) :
      Reaches s home v
  | key {ref : ObjectRef} {k : Value} (h : Reaches s home (.object ref))
      (hk : k ∈ (s.object ref).keys) : Reaches s home k
  | value {ref : ObjectRef} {key v : Value} (h : Reaches s home (.object ref))
      (hv : (s.object ref).get? key = some v) : Reaches s home v
  | member {id : Nat} {items : List Value} {v : Value} (h : Reaches s home (.tuple id items))
      (hv : v ∈ items) : Reaches s home v

def Value.carriesFrame : Value → Bool
  | .function (.closure _) | .frame _ => true
  | _ => false

/-- What can be got at from a frame, and what is not in the store yet. -/
def Store.regionOf (s : Store) (home : FrameRef) : Store.Region where
  lists ref := s.Reaches home (.list ref) ∨ s.lists.size ≤ ref
  objects ref := s.Reaches home (.object ref) ∨ s.objects.size ≤ ref

section Region

variable {s : Store} {home : FrameRef}
  (hclear : ∀ v, s.Reaches home v → v.carriesFrame = false)

include hclear

theorem Store.Reaches.frameless : ∀ {v : Value}, s.Reaches home v →
    v.Frameless (s.regionOf home)
  | .list _, h => .list (.inl h)
  | .object _, h => .object (.inl h)
  | .function f, h => by
      have hf := hclear _ h
      cases f with
      | closure c => cases hf
      | _ => exact .function rfl
  | .frame _, h => nomatch hclear _ h
  | .tuple _ items, h => .tuple fun v hv => (h.member hv).frameless
  | .nothing, _ | .bool _, _ | .int _, _ | .big _, _ | .float _, _ | .notANumber _, _
  | .text _, _ => .scalar rfl
termination_by v => v

theorem Store.frameless_regionOf : s.Frameless (s.regionOf home) where
  listed {ref} href v hv := by
    rcases href with href | href
    · exact (href.item (Array.mem_toList_iff.1 hv)).frameless hclear
    · simp [Store.list, Array.getD_eq_getD_getElem?, Array.getElem?_eq_none href] at hv
  keyed {ref} href k hk := by
    rcases href with href | href
    · exact (href.key (Array.mem_toList_iff.1 hk)).frameless hclear
    · simp [Store.object, Array.getD_eq_getD_getElem?, Array.getElem?_eq_none href] at hk
  kept {ref} href key v hv := by
    rcases href with href | href
    · exact (href.value hv).frameless hclear
    · simp [Store.object, Array.getD_eq_getD_getElem?, Array.getElem?_eq_none href,
        Object.get?] at hv
  newLists href := .inr href
  newObjects href := .inr href
  hosted hv := (Reaches.hosted hv).frameless hclear

end Region

/-! ## A frame and a copy of it -/

/-- The left store works on a frame, the right one on a copy behind all `base` frames. -/
structure Store.Mirrored (base : Array Frame) (home : FrameRef) (region : Store.Region)
    (s t : Store) : Prop where
  known : home < base.size
  inline : s.frames = base.setIfInBounds home (s.frame home)
  copied : t = s.withFrames (base.push (s.frame home))
  frameless : s.Frameless region
  bound : ∀ name v, (s.frame home).get? name = some v → v.Frameless region
  names : (base.getD home {}).names <+: (s.frame home).names
  distinct : (s.frame home).Distinct

section Mirrored

variable {α : Type} {base : Array Frame} {home : FrameRef} {region : Store.Region} {s t : Store}
  {Q : α → Prop}

theorem modify_setIfInBounds (frames : Array Frame) (i : Nat) (frame : Frame) (f : Frame → Frame) :
    (frames.setIfInBounds i frame).modify i f = frames.setIfInBounds i (f frame) := by
  apply Array.ext_getElem?
  intro j
  simp only [Array.getElem?_modify, Array.getElem?_setIfInBounds]
  by_cases hij : i = j
  · by_cases hi : i < frames.size <;> simp [hij]
  · simp [hij]

theorem modify_push_size (frames : Array Frame) (frame : Frame) (f : Frame → Frame) :
    (frames.push frame).modify frames.size f = frames.push (f frame) := by
  apply Array.ext_getElem?
  intro j
  simp only [Array.getElem?_modify, Array.getElem?_push]
  by_cases hj : frames.size = j
  · simp [hj]
  · simp [hj, Ne.symm hj]

theorem Store.Mirrored.frame_copy (h : s.Mirrored base home region t) :
    t.frame base.size = s.frame home := by
  rw [h.copied]
  exact Store.frame_addFrame_self (s.withFrames base) (s.frame home)

/-- Where the copy is worked on, the frame itself is as it was. -/
theorem Store.Mirrored.frame_home (h : s.Mirrored base home region t) :
    t.frame home = base.getD home {} := by
  rw [h.copied]
  exact Store.frame_addFrame_of_lt (s := s.withFrames base) h.known (s.frame home)

theorem Store.Mirrored.insert (h : s.Mirrored base home region t) (name : String) {v : Value}
    (hv : v.Frameless region) :
    (s.modifyFrame home (·.insert name v)).Mirrored base home region
      (t.modifyFrame base.size (·.insert name v)) := by
  have hsize : home < s.frames.size := by
    rw [h.inline, Array.size_setIfInBounds]
    exact h.known
  have hframe := Store.frame_modifyFrame_self hsize (·.insert name v)
  refine ⟨h.known, ?_, ?_, h.frameless.of_contents rfl rfl rfl, ?_, ?_, ?_⟩
  · rw [hframe]
    exact (congrArg (fun frames => frames.modify home (·.insert name v)) h.inline).trans
      (modify_setIfInBounds base home (s.frame home) _)
  · rw [hframe, h.copied]
    exact congrArg s.withFrames (modify_push_size base _ _)
  · intro other w hw
    rw [hframe, Frame.get?_insert] at hw
    split at hw
    · exact Option.some.inj hw ▸ hv
    · exact h.bound other w hw
  · rw [hframe]
    exact h.names.trans (Frame.names_prefix_insert _ name v)
  · rw [hframe]
    exact h.distinct.insert name v

theorem Run.Blind.mirrored {m : Run α}
    (h : ∀ frames frames', Blind ⟨region, frames, frames'⟩ Q m) :
    Lockstep (Store.Mirrored base home region) Q m m := by
  intro s t hs
  have hboth := h s.frames (base.push (s.frame home)) s t ⟨rfl, hs.copied, hs.frameless⟩
  have hkept {s' t' : Store}
      (hs' : s'.Apart ⟨region, s.frames, base.push (s.frame home)⟩ t') :
      s'.Mirrored base home region t' := by
    have hframe : s'.frame home = s.frame home := by rw [Store.frame, hs'.frames, Store.frame]
    refine ⟨hs.known, ?_, ?_, hs'.frameless, ?_, ?_, ?_⟩
    · rw [hframe, hs'.frames]
      exact hs.inline
    · rw [hframe]
      exact hs'.rest
    all_goals rw [hframe]
    · exact hs.bound
    · exact hs.names
    · exact hs.distinct
  generalize m s = left, m t = right at hboth
  cases hboth with
  | ok hs' ha => exact .ok (hkept hs') ha
  | error hs' => exact .error (hkept hs')

/-! ## The body in the frame and in the copy -/

theorem lockstep_lookup (name : String) :
    Lockstep (Store.Mirrored base home region) (Value.Frameless region) (Run.lookup home name)
      (Run.lookup base.size name) := by
  intro s t hs
  unfold Run.lookup
  rw [hs.frame_copy]
  refine .ok hs ?_
  cases hv : (s.frame home).get? name with
  | none => exact .scalar rfl
  | some v => exact hs.bound name v hv

theorem lockstep_bindName (name : String) {v : Value} (hv : v.Frameless region) :
    Lockstep (Store.Mirrored base home region) (fun _ => True) (Run.bindName home name v)
      (Run.bindName base.size name v) :=
  fun _ _ hs => .ok (hs.insert name hv) trivial

end Mirrored

/-- Neither a function nor an `include`. -/
def Node.staysInside : Node → Bool
  | .function .. => false
  | .call callee .. => callee != includeWord
  | _ => true

/-- A tree without functions and without `include`. -/
def Node.Inlined (node : Node) : Prop := ∀ n ∈ node.walk, n.staysInside = true

instance (node : Node) : Decidable node.Inlined :=
  inferInstanceAs (Decidable (∀ n ∈ node.walk, n.staysInside = true))

theorem Node.Inlined.here {node : Node} (h : node.Inlined) : node.staysInside = true :=
  h node (by rw [node.walk_eq]; exact List.mem_cons_self ..)

theorem Node.Inlined.below {node n : Node} (h : node.Inlined) (hn : n ∈ node.children) :
    n.Inlined := by
  intro m hm
  exact h m (Node.walk_subset_of_mem_children hn hm)

section Evaluation

variable {base : Array Frame} {home : FrameRef} {region : Store.Region} {source : Source}
  {recorder : RecorderRef} {next : Task → Run Value}

/-- Evaluating nodes in the frame and in the copy. -/
def EvaluatesAlike (base : Array Frame) (home : FrameRef) (region : Store.Region)
    (source : Source) (recorder : RecorderRef) (next : Task → Run Value) : Prop :=
  ∀ node : Node, node.Inlined → Lockstep (Store.Mirrored base home region)
    (Value.Frameless region) (next (.eval ⟨home, source, recorder⟩ node))
    (next (.eval ⟨base.size, source, recorder⟩ node))

/-- Calls of frameless values see no frame, whatever the frames are. -/
def CallsUnseen (region : Store.Region) (next : Task → Run Value) : Prop :=
  ∀ frames frames', CallsBlind ⟨region, frames, frames'⟩ fun f xs => next (.apply f xs)

variable (hnext : EvaluatesAlike base home region source recorder next)

include hnext

theorem lockstep_evalAll {nodes : List Node} (h : ∀ n ∈ nodes, n.Inlined) :
    Lockstep (Store.Mirrored base home region) (fun values => ∀ v ∈ values, v.Frameless region)
      (evalAll next ⟨home, source, recorder⟩ nodes)
      (evalAll next ⟨base.size, source, recorder⟩ nodes) := by
  induction nodes with
  | nil => exact .pure (by simp)
  | cons node rest ih =>
      rw [List.forall_mem_cons] at h
      refine (hnext node h.1).bind fun v hv => (ih h.2).bind fun vs hvs => .pure ?_
      exact List.forall_mem_cons.2 ⟨hv, hvs⟩

theorem lockstep_evalStatements {nodes : List Node} (h : ∀ n ∈ nodes, n.Inlined) {last : Value}
    (hlast : last.Frameless region) :
    Lockstep (Store.Mirrored base home region) (Value.Frameless region)
      (evalStatements next ⟨home, source, recorder⟩ last nodes)
      (evalStatements next ⟨base.size, source, recorder⟩ last nodes) := by
  induction nodes generalizing last with
  | nil => exact .pure hlast
  | cons node rest ih =>
      rw [List.forall_mem_cons] at h
      exact (hnext node h.1).bind fun v hv => ih h.2 hv

omit hnext in
theorem lockstep_blameCall {R : Store → Store → Prop} {Q : Value → Prop} (callee : String)
    (location : Location) (fault : Fault) :
    Lockstep R Q (blameCall callee location fault) (blameCall callee location fault) := by
  cases fault <;> exact .throw _

theorem lockstep_evalCall (hcalls : CallsUnseen region next) (callee : String)
    {args : List Node} (h : ∀ n ∈ args, n.Inlined) (location : Location) :
    Lockstep (Store.Mirrored base home region) (Value.Frameless region)
      (evalCall next ⟨home, source, recorder⟩ callee args location)
      (evalCall next ⟨base.size, source, recorder⟩ callee args location) := by
  refine (lockstep_lookup callee).bind fun f hf => ?_
  split
  · exact .throw _
  · refine (lockstep_evalAll hnext h).bind fun values hvalues => ?_
    refine Lockstep.onFault ?_ (lockstep_blameCall callee location)
    exact Run.Blind.mirrored fun frames frames' => hcalls frames frames' hf hvalues

theorem lockstep_evalNode (hcalls : CallsUnseen region next) {node : Node}
    (h : node.Inlined) :
    Lockstep (Store.Mirrored base home region) (Value.Frameless region)
      (evalNode next ⟨home, source, recorder⟩ node)
      (evalNode next ⟨base.size, source, recorder⟩ node) := by
  have hbelow : ∀ n ∈ node.children, n.Inlined := fun n hn => h.below hn
  cases node with
  | comment text span => exact .pure (.scalar rfl)
  | literal value span => exact .pure (.scalar (Value.isScalar_ofLiteral value))
  | identifier name span => exact lockstep_lookup name
  | assignment name value span =>
      refine (hnext value (hbelow value (List.mem_singleton_self _))).bind fun v hv => ?_
      exact (lockstep_bindName name hv).andThen (.pure hv)
  | function params body span => exact absurd h.here (by simp [Node.staysInside])
  | call callee args span =>
      have hcallee : (callee == includeWord) = false := by simpa [Node.staysInside] using h.here
      simp only [evalNode, hcallee, Bool.false_eq_true, if_false]
      exact lockstep_evalCall hnext hcalls callee hbelow _
  | statements items span => exact lockstep_evalStatements hnext hbelow (.scalar rfl)
  | block items inner span =>
      -- Between a block and its statements stands the node of the statement list.
      have hinner := hbelow (.statements items inner) (List.mem_singleton_self _)
      exact lockstep_evalStatements hnext (fun n hn => hinner.below hn) (.scalar rfl)
  | list items span =>
      refine (lockstep_evalAll hnext hbelow).bind fun values hvalues => ?_
      exact Run.Blind.mirrored fun _ _ => blind_newList hvalues

omit hnext in
/-- A whole body in the frame and in the copy, however deep it goes. -/
theorem evaluatesAlike_perform {host : Host} (hhost : host.Blind) (source : Source)
    (recorder : RecorderRef) (depth : Nat) :
    EvaluatesAlike base home region source recorder (perform host depth) := by
  induction depth with
  | zero => exact fun _ _ => .throw _
  | succ depth ih =>
      have hcalls : CallsUnseen region (perform host depth) :=
        fun frames frames' => callsBlind_perform hhost depth
      exact fun node hnode => lockstep_evalNode ih hcalls hnode

end Evaluation

/-! ## Calls -/

/-- The evaluation of the body of a closure in the frame that it was made in. -/
def Closure.inPlace (c : Closure) : Task := .eval ⟨c.frame, c.source, c.recorder⟩ c.body

section Calls

variable {host : Host} {depth : Nat} {s s' t : Store} {c : Closure} {args : List Value}
  {v : Value} {fault : Fault} {region : Store.Region}

theorem call_of_body_ok
    (h : perform host depth (c.bodyTask s) (c.enter args s) = .ok v s') :
    perform host (depth + 1) (c.call args) s = .ok v (c.leave s.frames.size s') := by
  rw [← Traced.perform_run] at h ⊢
  exact (Traced.invoke_of_ok h).1

theorem call_of_body_error
    (h : perform host depth (c.bodyTask s) (c.enter args s) = .error fault s') :
    perform host (depth + 1) (c.call args) s = .error fault (s'.release s.frames.size) := by
  rw [← Traced.perform_run] at h ⊢
  exact (Traced.invoke_of_error h).1

theorem Store.mirrored_enter (hparams : c.params = []) (hframe : c.frame < s.frames.size)
    (hd : (s.frame c.frame).Distinct)
    (hclear : ∀ v, s.Reaches c.frame v → v.carriesFrame = false) :
    s.Mirrored s.frames c.frame (s.regionOf c.frame) (c.enter [] s) where
  known := hframe
  inline := by
    apply Array.ext_getElem?
    intro j
    rw [Array.getElem?_setIfInBounds]
    by_cases hj : c.frame = j
    · simp [← hj, hframe, Store.frame, Array.getD_eq_getD_getElem?]
    · simp [hj]
  copied := by
    rw [Closure.enter, hparams]
    rfl
  frameless := Store.frameless_regionOf hclear
  bound name v hv := (Store.Reaches.bound hv).frameless hclear
  names := List.prefix_rfl
  distinct := hd

/-- What the call leaves in the frame when the copy is done: the copy. -/
theorem Store.Mirrored.frame_leave (h : s'.Mirrored s.frames c.frame region t) :
    (c.leave s.frames.size t).frame c.frame = s'.frame c.frame := by
  have hne : s.frames.size ≠ c.frame := Nat.ne_of_gt h.known
  have hsize : c.frame < (t.release s.frames.size).frames.size := by
    rw [Store.size_release, h.copied]
    exact Nat.lt_of_lt_of_eq (Nat.lt_succ_of_lt h.known) (Array.size_push _).symm
  rw [Closure.leave, Store.frame_modifyFrame_self hsize, Store.frame_release_of_ne hne,
    h.frame_copy, h.frame_home]
  exact Frame.commit_of_prefix h.names h.distinct

theorem Store.Mirrored.release_eq (h : s'.Mirrored s.frames c.frame region t) (ref : FrameRef) :
    t.release ref = s'.withFrames (t.release ref).frames := by
  rw [h.copied]
  unfold Store.release
  split
  · rfl
  · rfl

/-- **A call without parameters is its body in place.**  Let no closure and no frame be
reachable from the frame that a closure was made in or by the host, whose functions are
blind, and let the body make no function and include nothing.  Where the body, evaluated in
that frame itself, gives a value, the call gives it too and leaves the same bindings in the
frame, in the same order; where the body stops, the call stops with the same fault and leaves
the frame as it was.  Either way everything else in the store but the frames is the same. -/
theorem call_is_body_in_place (hhost : host.Blind) (depth : Nat) {s : Store} {c : Closure}
    (hparams : c.params = []) (hframe : c.frame < s.frames.size)
    (hd : (s.frame c.frame).Distinct)
    (hclear : ∀ v, s.Reaches c.frame v → v.carriesFrame = false) (hbody : c.body.Inlined) :
    match perform host depth c.inPlace s with
    | .ok v s' => ∃ t, perform host (depth + 1) (c.call []) s = .ok v t ∧
        t.frame c.frame = s'.frame c.frame ∧ t = s'.withFrames t.frames
    | .error fault s' => ∃ t, perform host (depth + 1) (c.call []) s = .error fault t ∧
        t.frame c.frame = s.frame c.frame ∧ t = s'.withFrames t.frames := by
  have hstart := Store.mirrored_enter hparams hframe hd hclear
  have hboth : Run.Same _ _ (perform host depth c.inPlace s)
      (perform host depth (c.bodyTask s) (c.enter [] s)) :=
    evaluatesAlike_perform hhost c.source c.recorder depth c.body hbody s _ hstart
  generalize hcopy : perform host depth (c.bodyTask s) (c.enter [] s) = right at hboth
  generalize perform host depth c.inPlace s = left at hboth ⊢
  cases hboth with
  | ok hs hv =>
      refine ⟨_, call_of_body_ok hcopy, hs.frame_leave, ?_⟩
      rw [Closure.leave, hs.release_eq]
      rfl
  | error hs =>
      refine ⟨_, call_of_body_error hcopy, ?_, hs.release_eq s.frames.size⟩
      rw [Store.frame_release_of_ne (Nat.ne_of_gt hframe), hs.frame_home]
      rfl

end Calls

/-! ## Two bodies in a frame

The frame binds `xs = [5]` and `n = 1` beside `push` and `tell`, a function of the host.
Two closures were made in it that nothing binds:

    grow:   () => { push(xs, n); tell(n); m = n; }
    spoil:  () => { push(xs, n); tell(n); m = n; nope(); }
-/

namespace Shared

def tell : HostFunction := { id := 0, name := "tell" }

/-- The host keeps the last thing that it was told. -/
def told (v : Value) : Edit :=
  .sparing (fun s => { s with hosted := s.hosted.insert "told" v }) fun _ => rfl

def host : Host where
  conduct _ args := .act (told (args.headD .nothing)) fun _ => .finish (.ok .nothing)

theorem host_blind : host.Blind := by
  intro region f args hargs
  have harg : (args.headD .nothing).Frameless region := by
    cases args with
    | nil => exact .scalar rfl
    | cons v rest => exact hargs v (List.mem_cons_self ..)
  refine .act (fun s hs => ⟨rfl, fun _ => rfl, ?_⟩) (fun _ _ _ => rfl) fun _ _ =>
    .done (.scalar rfl)
  refine { hs with hosted := ?_ }
  intro name v hv
  change (s.hosted.insert "told" _).get? name = some v at hv
  rw [Frame.get?_insert] at hv
  split at hv
  · exact Option.some.inj hv ▸ harg
  · exact hs.hosted hv

/-- A list, a function of the library, one of the host, and a number. -/
def bindings : List (String × Value) :=
  [("xs", .list 0), ("push", .function (.library 0 .push)), ("tell", .function (.host tell)),
   ("n", .int 1)]

def store : Store where
  lists := #[#[.int 5]]
  frames := #[⟨bindings⟩]
  recorders := #[{}]

/-- The statements `push(xs, n); tell(n); m = n;`. -/
def statements : List Node :=
  [.call "push" [.identifier "xs" default, .identifier "n" default] default,
   .call "tell" [.identifier "n" default] default,
   .assignment "m" (.identifier "n" default) default]

def grow : Closure := Nest.closure 0 statements

def spoil : Closure := Nest.closure 1 (statements ++ [Nest.callOf "nope"])

theorem reaches_no_frame : ∀ v, store.Reaches 0 v → v.carriesFrame = false := by
  have hreached : ∀ v, store.Reaches 0 v →
      v = .list 0 ∨ (∃ f, v = .function f ∧ f.isClosure = false) ∨ ∃ n, v = .int n := by
    intro v hv
    induction hv with
    | bound hv =>
        change Entries.get? _ _ bindings = _ at hv
        simp only [bindings, Entries.get?] at hv
        repeat' split at hv
        · exact .inl (Option.some.inj hv).symm
        · exact .inr (.inl ⟨_, (Option.some.inj hv).symm, rfl⟩)
        · exact .inr (.inl ⟨_, (Option.some.inj hv).symm, rfl⟩)
        · exact .inr (.inr ⟨1, (Option.some.inj hv).symm⟩)
        · cases hv
    | hosted hv => cases hv
    | item _ hv ih =>
        obtain ⟨rfl⟩ : _ = 0 := by simpa using ih
        exact .inr (.inr ⟨5, Array.mem_singleton.1 hv⟩)
    | key _ _ ih | value _ _ ih | member _ _ ih => simp at ih
  intro v hv
  rcases hreached v hv with rfl | ⟨f, rfl, hf⟩ | ⟨n, rfl⟩
  · rfl
  · cases f with
    | closure c => cases hf
    | _ => rfl
  · rfl

end Shared

/-- The call of `grow` does to the list, the host and the frame what its body does; the call
of `spoil` does it to the list and the host and leaves the frame as it was. -/
theorem grow_and_spoil_in_place :
    Shared.host.Blind ∧
    (∃ t, perform Shared.host 8 (Shared.grow.call []) Shared.store = .ok (.int 1) t ∧
      t.list 0 = #[.int 5, .int 1] ∧ t.hosted = ⟨[("told", .int 1)]⟩ ∧
      (t.frame 0).names = ["xs", "push", "tell", "n", "m"]) ∧
    ∃ fault t, perform Shared.host 8 (Shared.spoil.call []) Shared.store = .error fault t ∧
      t.list 0 = #[.int 5, .int 1] ∧ t.hosted = ⟨[("told", .int 1)]⟩ ∧
      (t.frame 0).names = ["xs", "push", "tell", "n"] := by
  have hd : (Shared.store.frame 0).Distinct := by
    unfold Frame.Distinct
    decide
  refine ⟨Shared.host_blind, ?_, ?_⟩
  · have hgrow : Shared.grow.body.Inlined := by decide
    obtain ⟨t, hcall, hframe, hrest⟩ := call_is_body_in_place Shared.host_blind 7 rfl Nat.one_pos hd
      Shared.reaches_no_frame hgrow
    refine ⟨t, hcall, ?_, ?_, congrArg Frame.names hframe⟩
    · rw [hrest]
      rfl
    · rw [hrest]
      rfl
  · have hspoil : Shared.spoil.body.Inlined := by decide
    obtain ⟨t, hcall, hframe, hrest⟩ := call_is_body_in_place Shared.host_blind 7 rfl Nat.one_pos hd
      Shared.reaches_no_frame hspoil
    refine ⟨_, t, hcall, ?_, ?_, congrArg Frame.names hframe⟩
    · rw [hrest]
      rfl
    · rw [hrest]
      rfl

end Scriptlet
