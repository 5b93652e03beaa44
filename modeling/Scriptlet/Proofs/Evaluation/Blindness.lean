/-
# Calls that see no frame

Two computations are in lockstep when, from related stores, they come to the same
value or the same fault and leave related stores.  The rules follow the ways
computations are put together, whatever the relation is.

A computation is blind when it is in lockstep with itself on stores that differ
in their frames only, and changes no frame.  A function of the library is blind on
frameless values, and the functions that call back are blind because all that
they can call is frameless too.  This walks through the library once, function by
function, and then takes whole calls by induction on their depth.

## The host

What a function of the host does is up to the host.  That it holds no frame is
`Conduct.Blind`: given frameless values, in a store where what the host keeps is
frameless as well, it neither looks at frames nor changes them, and all that it
hands on, calls, keeps or returns is frameless again.

It may do everything else: look at lists, objects and what was printed, change them, state
errors, catch those of what it calls, move the working directory.  What it does may depend
on all of this; only the frames, as long as nothing else differs, make no difference.

Frameless is not the same as harmless.  A closure is not frameless, for it can be called and
then commits; so a blind host is never handed one, and none is asked what it would do with it.
-/
import Scriptlet.Eval.Evaluator
import Scriptlet.Proofs.Value.Frameless

namespace Scriptlet

namespace Run

/-! ## Lockstep -/

/-- Two outcomes with the same value or the same fault, and with related stores. -/
inductive Same {α : Type} (R : Store → Store → Prop) (Q : α → Prop) :
    EStateM.Result Fault Store α → EStateM.Result Fault Store α → Prop
  | ok {a : α} {s t : Store} (hs : R s t) (h : Q a) : Same R Q (.ok a s) (.ok a t)
  | error {fault : Fault} {s t : Store} (hs : R s t) : Same R Q (.error fault s) (.error fault t)

/-- From related stores the two computations come to the same outcome. -/
def Lockstep {α : Type} (R : Store → Store → Prop) (Q : α → Prop) (m n : Run α) : Prop :=
  ∀ s t, R s t → Same R Q (m s) (n t)

section Rules

variable {α β : Type} {R : Store → Store → Prop} {Q : α → Prop} {P : β → Prop} {m n : Run α}

theorem Lockstep.pure {a : α} (h : Q a) : Lockstep R Q (Pure.pure a) (Pure.pure a) :=
  fun _ _ hs => .ok hs h

theorem Lockstep.throw (fault : Fault) :
    Lockstep R Q (throw fault : Run α) (throw fault : Run α) :=
  fun _ _ hs => .error hs

theorem Lockstep.raise (mishap : Mishap) :
    Lockstep R Q (raise mishap : Run α) (raise mishap : Run α) := .throw _

theorem Lockstep.ite {c : Prop} [Decidable c] {m' n' : Run α} (h : Lockstep R Q m n)
    (h' : Lockstep R Q m' n') : Lockstep R Q (if c then m else m') (if c then n else n') := by
  split
  · exact h
  · exact h'

theorem Lockstep.bind {f g : α → Run β} (hmn : Lockstep R Q m n)
    (hfg : ∀ a, Q a → Lockstep R P (f a) (g a)) : Lockstep R P (m >>= f) (n >>= g) := by
  intro s t hs
  have hboth := hmn s t hs
  generalize hm : m s = left, hn : n t = right at hboth
  cases hboth with
  | ok hs' ha =>
      rw [bind_of_ok hm, bind_of_ok hn]
      exact hfg _ ha _ _ hs'
  | error hs' =>
      rw [bind_of_error hm, bind_of_error hn]
      exact .error hs'

theorem Lockstep.andThen {m' n' : Run β} (h : Lockstep R Q m n) (h' : Lockstep R P m' n') :
    Lockstep R P (m >>= fun _ => m') (n >>= fun _ => n') := h.bind fun _ _ => h'

/-- What comes of two computations in lockstep is the same, as a value. -/
theorem Lockstep.settle (hmn : Lockstep R Q m n) :
    Lockstep R (fun outcome => ∀ a, outcome = .ok a → Q a) m.settle n.settle := by
  intro s t hs
  have hboth := hmn s t hs
  unfold Run.settle
  generalize m s = left, n t = right at hboth
  cases hboth with
  | ok hs' ha =>
      refine .ok hs' ?_
      rintro _ ⟨⟩
      exact ha
  | error hs' => exact .ok hs' nofun

theorem Lockstep.onFault {handler : Fault → Run α} (hmn : Lockstep R Q m n)
    (h : ∀ fault, Lockstep R Q (handler fault) (handler fault)) :
    Lockstep R Q (m.onFault handler) (n.onFault handler) := by
  intro s t hs
  have hboth := hmn s t hs
  unfold Run.onFault
  generalize m s = left, n t = right at hboth
  cases hboth with
  | ok hs' ha => exact .ok hs' ha
  | error hs' => exact h _ _ _ hs'

end Rules

end Run

/-! ## Blind computations -/

/-- Two rows of frames, and the region of a store that neither can be got at from. -/
structure Blindfold where
  region : Store.Region
  left : Array Frame
  right : Array Frame

/-- The same store with the one and the other frames. -/
structure Store.Apart (view : Blindfold) (s t : Store) : Prop where
  frames : s.frames = view.left
  rest : t = s.withFrames view.right
  frameless : s.Frameless view.region

namespace Run

/-- The computation does the same with the one and the other frames, and leaves them. -/
abbrev Blind {α : Type} (view : Blindfold) (Q : α → Prop) (m : Run α) : Prop :=
  Lockstep (Store.Apart view) Q m m

/-- A blind computation whose value is frameless. -/
abbrev BlindCall (view : Blindfold) (m : Run Value) : Prop :=
  Blind view (Value.Frameless view.region) m

variable {α : Type} {view : Blindfold} {Q : α → Prop}

theorem blind_modify {f : Store → Store} (hframes : ∀ s, (f s).frames = s.frames)
    (hrest : ∀ s frames, f (s.withFrames frames) = (f s).withFrames frames)
    (h : ∀ s, s.Frameless view.region → (f s).Frameless view.region) :
    Blind view (fun _ => True) (modify f : Run PUnit) := by
  rintro s t ⟨hs, rfl, hfree⟩
  exact .ok ⟨(hframes s).trans hs, hrest s view.right, h s hfree⟩ trivial

theorem blind_ask {question : Store → Except Fault α}
    (hrest : ∀ s, s.Frameless view.region → ∀ frames, question (s.withFrames frames) = question s)
    (h : ∀ s, s.Frameless view.region → ∀ a, question s = .ok a → Q a) :
    Blind view Q (Library.ask question) := by
  rintro s t ⟨hs, rfl, hfree⟩
  unfold Library.ask
  rw [hrest s hfree]
  cases hanswer : question s with
  | ok a => exact .ok ⟨hs, rfl, hfree⟩ (h s hfree a hanswer)
  | error fault => exact .error ⟨hs, rfl, hfree⟩

/-- A question about which nothing is asked but that it sees no frame. -/
theorem blind_asked {question : Store → Except Fault α}
    (hrest : ∀ s, s.Frameless view.region → ∀ frames,
      question (s.withFrames frames) = question s) :
    Blind view (fun _ => True) (Library.ask question) :=
  blind_ask hrest fun _ _ _ _ => trivial

end Run

open Run

/-! ## The host -/

/-- The conduct holds no frame: all that it deals with is frameless, and it neither looks at
frames nor changes them. -/
inductive Conduct.Blind (region : Store.Region) : Conduct → Prop
  | done {v : Value} (h : v.Frameless region) : Blind region (.finish (.ok v))
  | stopped (fault : Fault) : Blind region (.finish (.error fault))
  | act {edit : Edit} {next : Store → Conduct}
      (hmake : ∀ s, s.Frameless region → (edit.make s).frames = s.frames ∧
        (∀ frames, edit.make (s.withFrames frames) = (edit.make s).withFrames frames) ∧
        (edit.make s).Frameless region)
      (hsame : ∀ s, s.Frameless region → ∀ frames, next (s.withFrames frames) = next s)
      (hnext : ∀ s, s.Frameless region → Blind region (next s)) : Blind region (.act edit next)
  | call {f : Value} {args : List Value} {next : Except Fault Value → Conduct}
      (hf : f.Frameless region) (hargs : ∀ v ∈ args, v.Frameless region)
      (hdone : ∀ v, v.Frameless region → Blind region (next (.ok v)))
      (hstopped : ∀ fault, Blind region (next (.error fault))) :
      Blind region (.call f args next)

/-- No function of the host holds a frame. -/
def Host.Blind (host : Host) : Prop :=
  ∀ region f args, (∀ v ∈ args, v.Frameless region) → (host.conduct f args).Blind region

section Library

variable {view : Blindfold} {a b : Value} {args : List Value}

/-! ## New things in the store -/

theorem blind_newList {items : Array Value} (h : ∀ v ∈ items.toList, v.Frameless view.region) :
    BlindCall view (Run.newList items) := by
  rintro s t ⟨hs, rfl, hfree⟩
  exact .ok ⟨hs, rfl, hfree.newList h⟩ (.list (hfree.newLists (Nat.le_refl _)))

theorem blind_newObject : BlindCall view (Run.newObject {}) := by
  rintro s t ⟨hs, rfl, hfree⟩
  exact .ok ⟨hs, rfl, hfree.newObject⟩ (.object (hfree.newObjects (Nat.le_refl _)))

theorem blind_freshMark : Blind view (fun _ => True) Run.freshMark := by
  rintro s t ⟨hs, rfl, hfree⟩
  exact .ok ⟨hs, rfl, hfree.of_contents rfl rfl rfl⟩ trivial

theorem blind_newFloat (x : Float) : BlindCall view (Run.newFloat x) :=
  .ite (blind_freshMark.bind fun _ _ => .pure (.scalar rfl)) (.pure (.scalar rfl))

theorem blind_newTuple {items : List Value} (h : ∀ v ∈ items, v.Frameless view.region) :
    BlindCall view (Run.newTuple items) :=
  blind_freshMark.bind fun _ _ => .pure (.tuple h)

/-! ## Arithmetic -/

theorem blind_finish (result : Except Mishap Number) :
    BlindCall view (Arithmetic.finish result) := by
  unfold Arithmetic.finish
  split
  · unfold Arithmetic.ofNumber
    split
    · exact .pure (.scalar rfl)
    · exact blind_newFloat _
  · exact .raise _

theorem blind_itemsOf {ref : ListRef} (h : view.region.lists ref) :
    Blind view (fun items => ∀ v ∈ items.toList, v.Frameless view.region)
      (Arithmetic.itemsOf ref) := by
  rintro s t ⟨hs, rfl, hfree⟩
  exact .ok ⟨hs, rfl, hfree⟩ (hfree.listed h)

theorem blind_joinTuples {i j : Nat} {xs ys : List Value}
    (hxs : ∀ v ∈ xs, v.Frameless view.region) (hys : ∀ v ∈ ys, v.Frameless view.region) :
    BlindCall view (Arithmetic.joinTuples i xs j ys) := by
  refine .ite (.pure (.tuple hys)) (.ite (.pure (.tuple hxs)) (blind_newTuple ?_))
  exact List.forall_mem_append.2 ⟨hxs, hys⟩

theorem blind_add (ha : a.Frameless view.region) (hb : b.Frameless view.region) :
    BlindCall view (Arithmetic.add a b) := by
  unfold Arithmetic.add
  split
  · exact blind_finish _
  · split
    · exact .pure (.scalar rfl)
    · refine (blind_itemsOf (Value.frameless_list.1 ha)).bind fun xs hxs => ?_
      refine (blind_itemsOf (Value.frameless_list.1 hb)).bind fun ys hys => blind_newList ?_
      simpa [Arithmetic.joined, or_imp, forall_and] using And.intro hxs hys
    · exact blind_joinTuples (Value.frameless_tuple.1 ha) (Value.frameless_tuple.1 hb)
    all_goals exact .raise _

theorem blind_subtract (symbol : String) (a b : Value) :
    BlindCall view (Arithmetic.subtract symbol a b) := by
  unfold Arithmetic.subtract
  split
  · exact blind_finish _
  · exact .raise _

theorem blind_divide (a b : Value) : BlindCall view (Arithmetic.divide a b) := by
  unfold Arithmetic.divide
  split
  · exact blind_finish _
  · exact .raise _

theorem blind_checkMemory (bytes : Nat) :
    Blind view (fun _ => True) (Arithmetic.checkMemory bytes) := by
  rintro s t ⟨hs, rfl, hfree⟩
  have hworld : (s.withFrames view.right).world = s.world := rfl
  unfold Arithmetic.checkMemory
  rw [hworld]
  split
  · exact .error ⟨hs, rfl, hfree⟩
  · exact .ok ⟨hs, rfl, hfree⟩ trivial

theorem blind_repetitions (text : Bool) (size : Nat) (count : Value) (n : Int) :
    Blind view (fun _ => True) (Arithmetic.repetitions text size count n) :=
  .ite (.raise _) (.ite (.raise _) ((blind_checkMemory _).andThen (.pure trivial)))

theorem blind_repeat {sequence count : Value} (h : sequence.Frameless view.region)
    {run : Run Value} (hrun : Arithmetic.repeat? sequence count = some run) :
    BlindCall view run := by
  unfold Arithmetic.repeat? at hrun
  extract_lets times at hrun
  have htimes (text : Bool) (size : Nat) : Blind view (fun _ => True) (times text size) := by
    simp only [times]
    split
    · exact blind_repetitions _ _ _ _
    · exact .raise _
  split at hrun
  · cases hrun
    exact (htimes _ _).bind fun n _ => .pure (.scalar rfl)
  · cases hrun
    refine (blind_itemsOf (Value.frameless_list.1 h)).bind fun items hitems => ?_
    refine (htimes _ _).bind fun n _ => blind_newList ?_
    exact copies_all (Q := fun xs : Array Value => ∀ v ∈ xs.toList, v.Frameless view.region)
      (by simp) hitems
      (fun xs ys hxs hys => by simpa [or_imp, forall_and] using And.intro hxs hys) n
  · cases hrun
    refine (htimes _ _).bind fun n _ => .ite (.pure h) (blind_newTuple ?_)
    exact copies_all (Q := fun xs : List Value => ∀ v ∈ xs, v.Frameless view.region) (by simp)
      (Value.frameless_tuple.1 h) (fun xs ys hxs hys => List.forall_mem_append.2 ⟨hxs, hys⟩) n
  · cases hrun

theorem blind_multiply (ha : a.Frameless view.region) (hb : b.Frameless view.region) :
    BlindCall view (Arithmetic.multiply a b) := by
  unfold Arithmetic.multiply
  split
  · exact blind_finish _
  · split
    · next _ _ run hrun => exact blind_repeat ha hrun
    · next run _ hrun => exact blind_repeat hb hrun
    · exact .raise _

/-! ## Printing and comparing -/

theorem blind_print (recorder : RecorderRef) (h : ∀ v ∈ args, v.Frameless view.region) :
    BlindCall view (Library.print recorder args) := by
  have hline : Blind view (fun _ => True) (Library.ask fun s => Library.printedLine s args) := by
    refine blind_asked fun s hs frames => ?_
    rw [Library.printedLine, Store.mapM_frameless (hs.display_eq frames) h, Library.printedLine]
  refine hline.bind fun line _ => ?_
  refine Lockstep.andThen (blind_modify (fun _ => rfl) (fun _ _ => rfl) ?_) (.pure (.scalar rfl))
  exact fun s hs => hs.of_contents rfl rfl rfl

theorem blind_equal (ha : a.Frameless view.region) (hb : b.Frameless view.region) :
    Blind view (fun _ => True) (Library.equal a b) := by
  unfold Library.equal
  split
  · exact .pure trivial
  · exact .pure trivial
  · exact .pure trivial
  · refine blind_asked fun s hs frames => congrArg Library.decided ?_
    exact hs.equalUpTo_eq frames _ ha hb

theorem blind_compareBy (op : Comparison) (ha : a.Frameless view.region)
    (hb : b.Frameless view.region) : BlindCall view (Library.compareBy op a b) := by
  refine Lockstep.bind (blind_asked ?_) fun answer _ => .pure (.scalar rfl)
  exact fun s hs frames => hs.orderUpTo_eq frames op _ ha hb

/-! ## Containers -/

theorem Store.isTrue_withFrames {region : Store.Region} (s : Store) (frames : Array Frame)
    (ha : a.Frameless region) : (s.withFrames frames).isTrue a = s.isTrue a := by
  cases a with
  | frame => simp at ha
  | _ => rfl

theorem blind_push (ha : a.Frameless view.region) (hb : b.Frameless view.region) :
    BlindCall view (Library.push a b) := by
  unfold Library.push
  split
  · next ref =>
      have href := Value.frameless_list.1 ha
      refine Lockstep.andThen (blind_modify (fun _ => rfl) (fun _ _ => rfl) ?_) (.pure ha)
      refine fun s hs => hs.modifyList ?_
      rw [Array.toList_push]
      exact List.forall_mem_append.2 ⟨hs.listed href, List.forall_mem_singleton.2 hb⟩
  · exact .raise _

theorem blind_pop (ha : a.Frameless view.region) : BlindCall view (Library.pop a) := by
  have hempty : Blind view (fun _ => True) (Library.ask fun s => .ok (!s.isTrue a)) :=
    blind_asked fun s _ frames => by rw [s.isTrue_withFrames frames ha]
  unfold Library.pop
  refine hempty.bind fun empty _ => .ite (.pure (.scalar rfl)) ?_
  split
  · next ref =>
      have href := Value.frameless_list.1 ha
      refine Lockstep.bind (Q := fun last => (last.getD .nothing).Frameless view.region)
        (blind_ask (fun _ _ _ => rfl) ?_) fun last hlast => ?_
      · intro s hs last hlast
        cases hlast
        cases hback : (s.list ref).back? with
        | none => exact .scalar rfl
        | some v => exact hs.listed href v (Array.mem_toList_iff.2 (Array.mem_of_back? hback))
      · refine Lockstep.andThen (blind_modify (fun _ => rfl) (fun _ _ => rfl) ?_) (.pure hlast)
        refine fun s hs => hs.modifyList fun v hv => hs.listed href v ?_
        rw [Array.toList_pop] at hv
        exact (List.dropLast_sublist _).mem hv
  · exact .raise _
  · exact .raise _
  · exact .raise _

theorem blind_checkKey (key : Value) : Blind view (fun _ => True) (Library.checkKey key) := by
  unfold Library.checkKey
  split
  · exact .raise _
  · exact .pure trivial

theorem blind_get (ha : a.Frameless view.region) (key : Value) :
    BlindCall view (Library.get a key) := by
  unfold Library.get
  dsimp only
  split
  · next ref =>
      refine (blind_checkKey key).andThen (blind_ask (fun _ _ _ => rfl) fun s hs v hv => ?_)
      cases hv
      exact hs.find (Value.frameless_object.1 ha) key
  · simp at ha
  · next ref =>
      split
      · exact .raise _
      · next n _ =>
          refine blind_ask (fun _ _ _ => rfl) fun s hs v hv => ?_
          cases hv
          cases hfound : (Library.slot? (s.list ref).size n).bind ((s.list ref)[·]?) with
          | none => exact .scalar rfl
          | some v =>
              obtain ⟨i, -, hi⟩ := Option.bind_eq_some_iff.1 hfound
              have hmem := Array.mem_toList_iff.2 (Array.mem_of_getElem? hi)
              exact hs.listed (Value.frameless_list.1 ha) v hmem
  · next x =>
      split
      · exact .raise _
      · next n _ =>
          refine .pure ?_
          cases (Library.slot? x.length n).bind (Text.charAt? x) with
          | none => exact .scalar rfl
          | some c => exact .scalar rfl
  · exact .raise _

theorem blind_checkIndex (key : Value) : Blind view (fun _ => True) (Library.checkIndex key) := by
  unfold Library.checkIndex
  split
  · exact .pure trivial
  · exact .ite (.raise _) (.pure trivial)

theorem blind_setItem {ref : ListRef} (href : view.region.lists ref) (index : Int)
    (hb : b.Frameless view.region) :
    Blind view (fun _ => True) (Library.setItem ref index b) := by
  refine Lockstep.bind (blind_asked fun _ _ _ => rfl) fun size _ => ?_
  split
  · exact .raise _
  · refine blind_modify (fun _ => rfl) (fun _ _ => rfl) fun s hs => hs.modifyList fun v hv => ?_
    rcases Array.mem_or_eq_of_mem_setIfInBounds (Array.mem_toList_iff.1 hv) with hv | rfl
    · exact hs.listed href v (Array.mem_toList_iff.2 hv)
    · exact hb

theorem blind_set {key value : Value} (ha : a.Frameless view.region)
    (hkey : key.Frameless view.region) (hvalue : value.Frameless view.region) :
    BlindCall view (Library.set a key value) := by
  have refused (mishap : Mishap) : BlindCall view
      (Run.raise mishap >>= fun (_ : PUnit) => pure value) :=
    Lockstep.andThen (Q := fun _ => True) (.raise mishap) (.pure hvalue)
  unfold Library.set
  dsimp only
  split
  · split
    · have href := Value.frameless_list.1 ha
      exact (blind_checkIndex key).andThen ((blind_setItem href _ hvalue).andThen (.pure hvalue))
    · exact refused _
  · next ref =>
      refine (blind_checkKey key).andThen ?_
      refine Lockstep.andThen (blind_modify (fun _ => rfl) (fun _ _ => rfl) ?_) (.pure hvalue)
      exact fun s hs => hs.put ref hkey hvalue
  · simp at ha
  · exact .ite ((blind_checkIndex key).andThen (refused _)) (refused _)

/-! ## Ranges, sizes and names -/

theorem blind_rangeArgument (v : Value) :
    Blind view (fun _ => True) (Library.rangeArgument v) := by
  unfold Library.rangeArgument
  split
  · exact .pure trivial
  · exact .raise _

theorem blind_rangeList (start stop step : Int) :
    BlindCall view (Library.rangeList start stop step) := by
  have numbers (size : Nat) : BlindCall view
      (Run.newList ((Array.range size).map fun (i : Nat) => .int (start + i * step))) := by
    refine blind_newList fun v hv => ?_
    obtain ⟨i, -, rfl⟩ := Array.mem_map.1 (Array.mem_toList_iff.1 hv)
    exact .scalar rfl
  have refuse {mishap : Mishap} {m : Run Value} (h : BlindCall view m) : BlindCall view
      (Run.raise mishap >>= fun (_ : PUnit) => m) :=
    Lockstep.andThen (Q := fun _ => True) (.raise mishap) h
  unfold Library.rangeList
  dsimp only
  have sized (size : Nat) : BlindCall view _ :=
    (blind_checkMemory (32 * size)).andThen (numbers size)
  refine .ite (refuse ?_) ?_
  all_goals exact .ite (refuse (sized _)) (sized _)

theorem blind_range (args : List Value) : BlindCall view (Library.range args) := by
  unfold Library.range
  split
  · exact .raise _
  · exact (blind_rangeArgument _).bind fun _ _ => blind_rangeList _ _ _
  · exact (blind_rangeArgument _).bind fun _ _ => (blind_rangeArgument _).bind fun _ _ =>
      blind_rangeList _ _ _
  · exact (blind_rangeArgument _).bind fun _ _ => (blind_rangeArgument _).bind fun _ _ =>
      (blind_rangeArgument _).bind fun _ _ => blind_rangeList _ _ _
  · exact .raise _

theorem blind_size (ha : a.Frameless view.region) :
    Blind view (fun _ => True) (Library.ask fun s => Library.size s a) := by
  refine blind_asked fun s _ frames => ?_
  cases a with
  | frame => simp at ha
  | _ => rfl

theorem blind_keys (ha : a.Frameless view.region) : BlindCall view (Library.keys a) := by
  refine Lockstep.bind (Q := fun found => ∀ entries, found = some entries →
    ∀ e ∈ entries, e.1.Frameless view.region) (blind_ask ?_ ?_) fun found hfound => ?_
  · exact fun s _ frames => by rw [Store.entries?_withFrames frames ha]
  · intro s hs found hfound entries hentries e he
    cases hfound
    exact (hs.entries? ha hentries e he).1
  · split
    · next entries =>
        refine blind_newList fun v hv => ?_
        obtain ⟨e, he, rfl⟩ := List.mem_map.1 hv
        exact hfound entries rfl e he
    · exact .raise _

theorem blind_check (sig : Signature) (args : List Value) :
    Blind view (fun _ => True) (sig.check args) := by
  unfold Signature.check
  split
  · exact .raise _
  · exact .pure trivial

/-! ## Functions that call back -/

section Calling

variable {call : Value → List Value → Run Value}

/-- Calling frameless values with frameless arguments is blind. -/
def CallsBlind (view : Blindfold) (call : Value → List Value → Run Value) : Prop :=
  ∀ {f : Value} {args : List Value}, f.Frameless view.region →
    (∀ v ∈ args, v.Frameless view.region) → BlindCall view (call f args)

variable (hcall : CallsBlind view call)

include hcall

theorem blind_choose {c : Value} (hc : c.Frameless view.region) (ha : a.Frameless view.region)
    (hb : b.Frameless view.region) : BlindCall view (Library.choose call c a b) := by
  have hcond : Blind view (fun _ => True) (Library.ask fun s => .ok (s.isTrue c)) :=
    blind_asked fun s _ frames => by rw [s.isTrue_withFrames frames hc]
  unfold Library.choose
  refine hcond.bind fun yes _ => .ite (hcall ha (by simp)) ?_
  split
  · exact .pure (.scalar rfl)
  · exact hcall hb (by simp)

theorem blind_callEach (hb : b.Frameless view.region) (index : Nat)
    (h : ∀ v ∈ args, v.Frameless view.region) :
    Blind view (fun _ => True) (Library.callEach call b index args) := by
  induction args generalizing index with
  | nil => exact .pure trivial
  | cons item rest ih =>
      rw [List.forall_mem_cons] at h
      have hindex : (Value.int index).Frameless view.region := .scalar rfl
      exact (hcall hb (by simp [h.1, hindex])).andThen (ih (index + 1) h.2)

omit hcall in
theorem blind_iterate (ha : a.Frameless view.region) :
    Blind view (fun items => ∀ v ∈ items, v.Frameless view.region)
      (Library.ask fun s => Library.iterate s a) := by
  refine blind_ask (fun s _ frames => ?_) fun s hs items hitems => ?_
  · cases a with
    | frame => simp at ha
    | _ => rfl
  · cases a with
    | list ref =>
        cases hitems
        exact hs.listed (Value.frameless_list.1 ha)
    | text x =>
        cases hitems
        exact List.forall_mem_map.2 fun c _ => .scalar rfl
    | object ref =>
        cases hitems
        exact hs.keyed (Value.frameless_object.1 ha)
    | frame => simp at ha
    | tuple id items =>
        cases hitems
        exact Value.frameless_tuple.1 ha
    | _ => cases hitems

theorem blind_each (ha : a.Frameless view.region) (hb : b.Frameless view.region) :
    BlindCall view (Library.each call a b) :=
  (blind_iterate ha).bind fun _ hitems =>
    (blind_callEach hcall hb 0 hitems).andThen (.pure (.scalar rfl))

theorem blind_library (recorder : RecorderRef) (f : LibraryFunction)
    (h : ∀ v ∈ args, v.Frameless view.region) : BlindCall view (f.run call recorder args) := by
  unfold LibraryFunction.run
  split
  · exact blind_print recorder h
  · exact blind_add (h _ (by simp)) (h _ (by simp))
  · exact blind_subtract _ _ _
  · exact blind_multiply (h _ (by simp)) (h _ (by simp))
  · exact blind_divide _ _
  · exact (blind_equal (h _ (by simp)) (h _ (by simp))).bind fun _ _ => .pure (.scalar rfl)
  · exact (blind_equal (h _ (by simp)) (h _ (by simp))).bind fun _ _ => .pure (.scalar rfl)
  · exact blind_compareBy _ (h _ (by simp)) (h _ (by simp))
  · exact blind_compareBy _ (h _ (by simp)) (h _ (by simp))
  · exact blind_compareBy _ (h _ (by simp)) (h _ (by simp))
  · exact blind_compareBy _ (h _ (by simp)) (h _ (by simp))
  · exact blind_choose hcall (h _ (by simp)) (h _ (by simp)) (.scalar rfl)
  · exact blind_choose hcall (h _ (by simp)) (h _ (by simp)) (h _ (by simp))
  · exact blind_each hcall (h _ (by simp)) (h _ (by simp))
  · exact blind_push (h _ (by simp)) (h _ (by simp))
  · exact blind_pop (h _ (by simp))
  · exact blind_get (h _ (by simp)) _
  · exact blind_set (h _ (by simp)) (h _ (by simp)) (h _ (by simp))
  · exact blind_range _
  · exact (blind_size (h _ (by simp))).bind fun _ _ => .pure (.scalar rfl)
  · exact blind_newObject
  · exact blind_keys (h _ (by simp))
  · exact .pure (.scalar rfl)

theorem blind_conduct {conduct : Conduct} (h : conduct.Blind view.region) :
    BlindCall view (conduct.run call) := by
  induction h with
  | done hv => exact .pure hv
  | stopped fault => exact .throw fault
  | @act edit next hmake hsame _ ih =>
      rintro s t ⟨hs, rfl, hfree⟩
      obtain ⟨hframes, hrest, hkeeps⟩ := hmake s hfree
      have hapart : (edit.make s).Apart view (edit.make (s.withFrames view.right)) :=
        ⟨hframes.trans hs, hrest view.right, hkeeps⟩
      show Run.Same _ _ (((next s).run call) (edit.make s))
        (((next (s.withFrames view.right)).run call) (edit.make (s.withFrames view.right)))
      rw [hsame s hfree view.right]
      exact ih s hfree _ _ hapart
  | call hf hargs _ _ ihdone ihstopped =>
      refine (hcall hf hargs).settle.bind fun outcome houtcome => ?_
      cases outcome with
      | ok v => exact ihdone v (houtcome v rfl)
      | error fault => exact ihstopped fault

end Calling

/-! ## Calls -/

theorem blind_applyValue {host : Host} (hhost : host.Blind) {next : Task → Run Value}
    (hnext : CallsBlind view fun g xs => next (.apply g xs)) (ha : a.Frameless view.region)
    (h : ∀ v ∈ args, v.Frameless view.region) :
    BlindCall view (Evaluator.applyValue host next a args) := by
  unfold Evaluator.applyValue
  dsimp only
  split
  · simp [Callable.isClosure] at ha
  · next recorder g =>
      unfold LibraryFunction.apply
      split
      · exact (blind_check _ args).andThen (blind_library hnext recorder g h)
      · exact blind_library hnext recorder g h
  · next g => exact blind_conduct hnext (hhost view.region g args h)
  · exact .raise _

/-- **Calls of frameless values are blind**, however deep they go. -/
theorem callsBlind_perform {host : Host} (hhost : host.Blind) (depth : Nat) :
    CallsBlind view fun f args => Evaluator.perform host depth (.apply f args) := by
  induction depth with
  | zero => exact fun _ _ => .throw _
  | succ depth ih => exact fun hf hargs => blind_applyValue hhost ih hf hargs

end Library

end Scriptlet
