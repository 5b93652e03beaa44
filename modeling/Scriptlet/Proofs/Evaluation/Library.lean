/-
# What the library leaves alone

Functions of the library that call nothing back touch lists, objects and what
was printed, but never a frame, and every value that they give or put somewhere
comes from what they were given or from the store.

`Keeps` is an invariant of a computation together with what is known of its
value, and goes through sequences.  `Holds` is the invariant: the frames are
the given ones, and a property of values holds of everything in the store.  The
property is a parameter; it only has to be `Hereditary`, so that one walk
through the library serves every law about which values can turn up:

    nothing happens to frames               the property that every value has
    values fit their store                  `Soundness`
    closures stem from their sources        `Origins`

A function that is added to the library needs one lemma here for all of these laws.  The
functions that call back are gone through where it is known what calls do.
-/
import Scriptlet.Eval.Library
import Scriptlet.Proofs.Evaluation.Frames

namespace Scriptlet

namespace Run

/-! ## Sequences -/

theorem bind_of_ok {α β : Type} {m : Run α} {f : α → Run β} {a : α} {s s' : Store}
    (h : m s = .ok a s') : (m >>= f) s = f a s' := by
  show EStateM.bind m f s = f a s'
  simp only [EStateM.bind, h]

theorem bind_of_error {α β : Type} {m : Run α} {f : α → Run β} {fault : Fault} {s s' : Store}
    (h : m s = .error fault s') : (m >>= f) s = .error fault s' := by
  show EStateM.bind m f s = .error fault s'
  simp only [EStateM.bind, h]

theorem settle_of_ok {α : Type} {m : Run α} {a : α} {s s' : Store} (h : m s = .ok a s') :
    m.settle s = .ok (.ok a) s' := by
  simp only [settle, h]

theorem settle_of_error {α : Type} {m : Run α} {fault : Fault} {s s' : Store}
    (h : m s = .error fault s') : m.settle s = .ok (.error fault) s' := by
  simp only [settle, h]

section Stopping

variable {α β : Type} {m : Run α} {fault : Fault} {s s' : Store}

theorem error_of_bind {f : α → Run β} (h : (m >>= f) s = .error fault s') :
    m s = .error fault s' ∨ ∃ a s₁, m s = .ok a s₁ ∧ f a s₁ = .error fault s' := by
  cases hm : m s with
  | ok a s₁ =>
      rw [bind_of_ok hm] at h
      exact .inr ⟨a, s₁, rfl, h⟩
  | error e s₁ =>
      rw [bind_of_error hm] at h
      cases h
      exact .inl rfl

theorem ok_of_bind {f : α → Run β} {b : β} (h : (m >>= f) s = .ok b s') :
    ∃ a s₁, m s = .ok a s₁ ∧ f a s₁ = .ok b s' := by
  cases hm : m s with
  | ok a s₁ => exact ⟨a, s₁, rfl, (bind_of_ok hm).symm.trans h⟩
  | error e s₁ => cases (bind_of_error hm).symm.trans h

theorem error_of_onFault {handler : Fault → Run α} (h : m.onFault handler s = .error fault s') :
    ∃ e s₁, m s = .error e s₁ ∧ handler e s₁ = .error fault s' := by
  unfold onFault at h
  cases hm : m s with
  | ok a s₁ =>
      rw [hm] at h
      cases h
  | error e s₁ =>
      rw [hm] at h
      exact ⟨e, s₁, rfl, h⟩

end Stopping

/-! ## Invariants of computations -/

/-- The computation keeps `I`, and its value, if it has one, satisfies `Q`. -/
def Keeps {α : Type} (I : Store → Prop) (Q : α → Prop) (m : Run α) : Prop :=
  ∀ s, I s →
    match m s with
    | .ok a s' => I s' ∧ Q a
    | .error _ s' => I s'

section Rules

variable {α β : Type} {I : Store → Prop} {Q : α → Prop} {R : β → Prop} {m : Run α}

theorem Keeps.pure {a : α} (h : Q a) : Keeps I Q (Pure.pure a) := by
  intro s hs
  exact ⟨hs, h⟩

theorem Keeps.throw (fault : Fault) : Keeps I Q (throw fault : Run α) := by
  intro s hs
  exact hs

theorem Keeps.raise (mishap : Mishap) : Keeps I Q (raise mishap : Run α) := by
  intro s hs
  exact hs

theorem Keeps.ite {c : Prop} [Decidable c] {m' : Run α} (hm : Keeps I Q m) (hm' : Keeps I Q m') :
    Keeps I Q (if c then m else m') := by
  split
  · exact hm
  · exact hm'

theorem Keeps.bind {f : α → Run β} (hm : Keeps I Q m) (hf : ∀ a, Q a → Keeps I R (f a)) :
    Keeps I R (m >>= f) := by
  intro s hs
  have hms := hm s hs
  cases h : m s with
  | ok a s' =>
      rw [h] at hms
      rw [bind_of_ok h]
      exact hf a hms.2 s' hms.1
  | error e s' =>
      rw [h] at hms
      rw [bind_of_error h]
      exact hms

theorem Keeps.andThen {m' : Run β} (hm : Keeps I (fun _ => True) m) (hm' : Keeps I R m') :
    Keeps I R (m >>= fun _ => m') := hm.bind fun _ _ => hm'

theorem Keeps.onFault {handler : Fault → Run α} (hm : Keeps I Q m)
    (h : ∀ fault, Keeps I Q (handler fault)) : Keeps I Q (m.onFault handler) := by
  intro s hs
  have hms := hm s hs
  unfold Run.onFault
  cases hr : m s with
  | ok a s' =>
      rw [hr] at hms
      exact hms
  | error fault s' =>
      rw [hr] at hms
      exact h fault s' hms

theorem Keeps.modify {f : Store → Store} {Q : PUnit → Prop} (h : ∀ s, I s → I (f s))
    (hQ : Q ⟨⟩) : Keeps I Q (modify f : Run PUnit) := by
  intro s hs
  exact ⟨h s hs, hQ⟩

theorem Keeps.ask {question : Store → Except Fault α}
    (h : ∀ s, I s → ∀ a, question s = .ok a → Q a) : Keeps I Q (Library.ask question) := by
  intro s hs
  unfold Library.ask
  cases hq : question s with
  | ok a => exact ⟨hs, h s hs a hq⟩
  | error fault => exact hs

end Rules

end Run

/-! ## Properties of the values in a store -/

/-- Values that hold no other value and no frame. -/
def Value.isPlain : Value → Bool
  | .nothing | .bool _ | .int _ | .big _ | .float _ | .notANumber _ | .text _ | .list _
  | .object _ => true
  | .function _ | .frame _ | .tuple .. => false

theorem isPlain_ofLiteral (value : Literal) : (Value.ofLiteral value).isPlain = true := by
  cases value with
  | integer n =>
      rw [Value.ofLiteral]
      split
      · rfl
      · rfl
  | _ => rfl

/-- A property of values that plain values have, and rows if their items do. -/
structure Hereditary (P : Value → Prop) : Prop where
  plain {v : Value} : v.isPlain = true → P v
  tuple {id : Nat} {items : List Value} : P (.tuple id items) ↔ ∀ v ∈ items, P v

/-- The frames are the given ones, and everything in the store has the property. -/
structure Store.Holds (P : Value → Prop) (frames : Array Frame) (s : Store) : Prop where
  frames : s.frames = frames
  bound {ref : FrameRef} {name : String} {v : Value} : (s.frame ref).get? name = some v → P v
  listed {ref : ListRef} {v : Value} : v ∈ s.list ref → P v
  keyed {ref : ObjectRef} {key : Value} : key ∈ (s.object ref).keys → P key
  kept {ref : ObjectRef} {key v : Value} : (s.object ref).get? key = some v → P v
  hosted {name : String} {v : Value} : s.hosted.get? name = some v → P v

theorem hereditary_true : Hereditary fun _ => True :=
  ⟨fun _ => trivial, by simp⟩

theorem Store.holds_true (s : Store) : s.Holds (fun _ => True) s.frames :=
  ⟨rfl, fun _ => trivial, fun _ => trivial, fun _ => trivial, fun _ => trivial, fun _ => trivial⟩

section Changes

variable {P : Value → Prop} {frames : Array Frame} {s : Store}

theorem list_modifyList (s : Store) (ref other : ListRef) (f : Array Value → Array Value) :
    (s.modifyList ref f).list other =
      if ref = other ∧ ref < s.lists.size then f (s.list other) else s.list other := by
  exact getD_modify _ ref other f _

theorem object_modifyObject (s : Store) (ref other : ObjectRef) (f : Object → Object) :
    (s.modifyObject ref f).object other =
      if ref = other ∧ ref < s.objects.size then f (s.object other) else s.object other := by
  exact getD_modify _ ref other f _

theorem Store.Holds.modifyList (h : s.Holds P frames) (ref : ListRef)
    {f : Array Value → Array Value} (hf : ∀ v ∈ f (s.list ref), P v) :
    (s.modifyList ref f).Holds P frames where
  frames := h.frames
  bound := h.bound
  listed {other v} hv := by
    rw [list_modifyList] at hv
    split at hv
    · next hcond => exact hf v (hcond.1 ▸ hv)
    · exact h.listed hv
  keyed := h.keyed
  kept := h.kept
  hosted := h.hosted

theorem Store.Holds.put (h : s.Holds P frames) (ref : ObjectRef) {key value : Value}
    (hkey : P key) (hvalue : P value) : (s.modifyObject ref (·.put key value)).Holds P frames where
  frames := h.frames
  bound := h.bound
  listed := h.listed
  keyed {other k} hk := by
    rw [object_modifyObject] at hk
    split at hk
    · simp only [Object.put] at hk
      split at hk
      · exact h.keyed hk
      · rcases Array.mem_push.1 hk with hk | rfl
        · exact h.keyed hk
        · exact hkey
    · exact h.keyed hk
  kept {other k v} hv := by
    rw [object_modifyObject] at hv
    split at hv
    · rw [Object.get?_put] at hv
      split at hv
      · cases hv
        exact hvalue
      · exact h.kept hv
    · exact h.kept hv
  hosted := h.hosted

theorem Store.Holds.newList (h : s.Holds P frames) {items : Array Value}
    (hitems : ∀ v ∈ items, P v) : { s with lists := s.lists.push items }.Holds P frames where
  frames := h.frames
  bound := h.bound
  listed {ref v} hv := by
    simp only [Store.list, Array.getD_eq_getD_getElem?, Array.getElem?_push] at hv
    split at hv
    · exact hitems v hv
    · exact h.listed (by simpa only [Store.list, Array.getD_eq_getD_getElem?] using hv)
  keyed := h.keyed
  kept := h.kept
  hosted := h.hosted

theorem Store.Holds.newObject (h : s.Holds P frames) :
    { s with objects := s.objects.push {} }.Holds P frames where
  frames := h.frames
  bound := h.bound
  listed := h.listed
  keyed {ref key} hk := by
    simp only [Store.object, Array.getD_eq_getD_getElem?, Array.getElem?_push] at hk
    split at hk
    · simp at hk
    · exact h.keyed (by simpa only [Store.object, Array.getD_eq_getD_getElem?] using hk)
  kept {ref key v} hv := by
    simp only [Store.object, Array.getD_eq_getD_getElem?, Array.getElem?_push] at hv
    split at hv
    · simp [Object.get?] at hv
    · exact h.kept (by simpa only [Store.object, Array.getD_eq_getD_getElem?] using hv)
  hosted := h.hosted

end Changes

/-! ## What the steps of the library keep -/

section Library

open Run

variable {P : Value → Prop} {frames : Array Frame}

theorem keeps_newList {items : Array Value} (hitems : ∀ v ∈ items, P v) (hP : Hereditary P) :
    Keeps (Store.Holds P frames) P (Run.newList items) := by
  intro s hs
  exact ⟨hs.newList hitems, hP.plain rfl⟩

theorem keeps_newObject (hP : Hereditary P) :
    Keeps (Store.Holds P frames) P (Run.newObject {}) := by
  intro s hs
  exact ⟨hs.newObject, hP.plain rfl⟩

theorem keeps_freshMark : Keeps (Store.Holds P frames) (fun _ => True) Run.freshMark := by
  intro s hs
  exact ⟨⟨hs.frames, hs.bound, hs.listed, hs.keyed, hs.kept, hs.hosted⟩, trivial⟩

theorem keeps_newFloat (hP : Hereditary P) (x : Float) :
    Keeps (Store.Holds P frames) P (Run.newFloat x) := by
  unfold Run.newFloat
  split
  · exact keeps_freshMark.bind fun _ _ => .pure (hP.plain rfl)
  · exact .pure (hP.plain rfl)

theorem keeps_newTuple (hP : Hereditary P) {items : List Value} (hitems : ∀ v ∈ items, P v) :
    Keeps (Store.Holds P frames) P (Run.newTuple items) :=
  keeps_freshMark.bind fun _ _ => .pure (hP.tuple.2 hitems)

theorem keeps_lookup (hP : Hereditary P) (ref : FrameRef) (name : String) :
    Keeps (Store.Holds P frames) P (Run.lookup ref name) := by
  intro s hs
  refine ⟨hs, ?_⟩
  cases h : (s.frame ref).get? name with
  | none => exact hP.plain rfl
  | some v => exact hs.bound h

/-! ### Arithmetic -/

theorem keeps_finish (hP : Hereditary P) (result : Except Mishap Number) :
    Keeps (Store.Holds P frames) P (Arithmetic.finish result) := by
  unfold Arithmetic.finish
  split
  · unfold Arithmetic.ofNumber
    split
    · exact .pure (hP.plain rfl)
    · exact keeps_newFloat hP _
  · exact .raise _

theorem keeps_itemsOf (ref : ListRef) :
    Keeps (Store.Holds P frames) (fun items => ∀ v ∈ items, P v) (Arithmetic.itemsOf ref) := by
  intro s hs
  exact ⟨hs, fun _ hv => hs.listed hv⟩

theorem keeps_joinTuples (hP : Hereditary P) {i j : Nat} {xs ys : List Value}
    (hxs : ∀ v ∈ xs, P v) (hys : ∀ v ∈ ys, P v) :
    Keeps (Store.Holds P frames) P (Arithmetic.joinTuples i xs j ys) := by
  unfold Arithmetic.joinTuples
  split
  · exact .pure (hP.tuple.2 hys)
  · split
    · exact .pure (hP.tuple.2 hxs)
    · refine keeps_newTuple hP ?_
      intro v hv
      rcases List.mem_append.1 hv with hv | hv
      · exact hxs v hv
      · exact hys v hv

theorem keeps_add (hP : Hereditary P) {a b : Value} (ha : P a) (hb : P b) :
    Keeps (Store.Holds P frames) P (Arithmetic.add a b) := by
  unfold Arithmetic.add
  split
  · exact keeps_finish hP _
  · split
    · exact .pure (hP.plain rfl)
    · refine (keeps_itemsOf _).bind ?_
      intro xs hxs
      refine (keeps_itemsOf _).bind ?_
      intro ys hys
      refine keeps_newList ?_ hP
      intro v hv
      simp only [Arithmetic.joined, Array.mem_append] at hv
      rcases hv with (hv | hv) | hv
      · simp at hv
      · exact hxs v hv
      · exact hys v hv
    · exact keeps_joinTuples hP (hP.tuple.1 ha) (hP.tuple.1 hb)
    all_goals exact .raise _

theorem keeps_subtract (hP : Hereditary P) (symbol : String) (a b : Value) :
    Keeps (Store.Holds P frames) P (Arithmetic.subtract symbol a b) := by
  unfold Arithmetic.subtract
  split
  · exact keeps_finish hP _
  · exact .raise _

theorem keeps_divide (hP : Hereditary P) (a b : Value) :
    Keeps (Store.Holds P frames) P (Arithmetic.divide a b) := by
  unfold Arithmetic.divide
  split
  · exact keeps_finish hP _
  · exact .raise _

theorem copies_all {α : Type} [Append α] {Q : α → Prop} {empty sequence : α} (hempty : Q empty)
    (hsequence : Q sequence) (happend : ∀ a b, Q a → Q b → Q (a ++ b)) (n : Nat) :
    Q (Arithmetic.copies empty sequence n) := by
  induction n using Nat.strongRecOn with
  | ind n ih =>
      unfold Arithmetic.copies
      split
      · exact hempty
      · next hn =>
          have half := ih (n / 2) (by omega)
          dsimp only
          split
          · exact happend _ _ half half
          · exact happend _ _ (happend _ _ half half) hsequence

theorem keeps_checkMemory (bytes : Nat) :
    Keeps (Store.Holds P frames) (fun _ => True) (Arithmetic.checkMemory bytes) := by
  intro s hs
  unfold Arithmetic.checkMemory
  by_cases h : s.world.limits.memory < bytes
  · rw [if_pos h]
    exact hs
  · rw [if_neg h]
    exact ⟨hs, trivial⟩

theorem keeps_repetitions (text : Bool) (size : Nat) (count : Value) (n : Int) :
    Keeps (Store.Holds P frames) (fun _ => True)
      (Arithmetic.repetitions text size count n) := by
  unfold Arithmetic.repetitions
  exact .ite (.raise _) (.ite (.raise _) ((keeps_checkMemory _).andThen (.pure trivial)))

theorem keeps_repeat (hP : Hereditary P) {sequence count : Value} (hs : P sequence)
    {run : Run Value} (hrun : Arithmetic.repeat? sequence count = some run) :
    Keeps (Store.Holds P frames) P run := by
  unfold Arithmetic.repeat? at hrun
  dsimp only at hrun
  split at hrun
  · cases hrun
    refine Keeps.bind (Q := fun _ => True) ?_ fun n _ => .pure (hP.plain rfl)
    split
    · exact keeps_repetitions _ _ _ _
    · exact .raise _
  · cases hrun
    refine (keeps_itemsOf _).bind ?_
    intro items hitems
    refine Keeps.bind (Q := fun _ => True) ?_ fun n _ => keeps_newList ?_ hP
    · split
      · exact keeps_repetitions _ _ _ _
      · exact .raise _
    · exact copies_all (Q := fun xs : Array Value => ∀ v ∈ xs, P v) (by simp) hitems
        (fun xs ys hxs hys v hv => (Array.mem_append.1 hv).elim (hxs v) (hys v)) n
  · cases hrun
    refine Keeps.bind (Q := fun _ => True) ?_ fun n _ => .ite (.pure hs) (keeps_newTuple hP ?_)
    · split
      · exact keeps_repetitions _ _ _ _
      · exact .raise _
    · exact copies_all (Q := fun xs : List Value => ∀ v ∈ xs, P v) (by simp) (hP.tuple.1 hs)
        (fun xs ys hxs hys v hv => (List.mem_append.1 hv).elim (hxs v) (hys v)) n
  · cases hrun

theorem keeps_multiply (hP : Hereditary P) {a b : Value} (ha : P a) (hb : P b) :
    Keeps (Store.Holds P frames) P (Arithmetic.multiply a b) := by
  unfold Arithmetic.multiply
  split
  · exact keeps_finish hP _
  · split
    · next _ _ run hrun => exact keeps_repeat hP ha hrun
    · next run _ hrun => exact keeps_repeat hP hb hrun
    · exact .raise _

/-! ### Containers -/

theorem keeps_record {recorder : RecorderRef} (effect : Effect) :
    Keeps (Store.Holds P frames) (fun _ => True)
      (modify (·.record recorder effect) : Run PUnit) :=
  .modify (fun _ hs => ⟨hs.frames, hs.bound, hs.listed, hs.keyed, hs.kept, hs.hosted⟩) trivial

theorem keeps_asked {α : Type} (question : Store → Except Fault α) :
    Keeps (Store.Holds P frames) (fun _ => True) (Library.ask question) :=
  .ask fun _ _ _ _ => trivial

theorem keeps_print (hP : Hereditary P) (recorder : RecorderRef) (values : List Value) :
    Keeps (Store.Holds P frames) P (Library.print recorder values) :=
  (keeps_asked _).bind fun _ _ => (keeps_record _).andThen (.pure (hP.plain rfl))

theorem keeps_equal (a b : Value) :
    Keeps (Store.Holds P frames) (fun _ => True) (Library.equal a b) := by
  unfold Library.equal
  split
  · exact .pure trivial
  · exact .pure trivial
  · exact .pure trivial
  · exact keeps_asked _

theorem keeps_compareBy (hP : Hereditary P) (op : Comparison) (a b : Value) :
    Keeps (Store.Holds P frames) P (Library.compareBy op a b) :=
  (keeps_asked _).bind fun _ _ => .pure (hP.plain rfl)

theorem keeps_push (hP : Hereditary P) {items value : Value} (hvalue : P value) :
    Keeps (Store.Holds P frames) P (Library.push items value) := by
  unfold Library.push
  split
  · refine Keeps.andThen (.modify (fun s hs => hs.modifyList _ ?_) trivial) (.pure (hP.plain rfl))
    intro v hv
    rcases Array.mem_push.1 hv with hv | rfl
    · exact hs.listed hv
    · exact hvalue
  · exact .raise _

theorem keeps_pop (hP : Hereditary P) (items : Value) :
    Keeps (Store.Holds P frames) P (Library.pop items) := by
  unfold Library.pop
  refine (keeps_asked _).bind fun empty _ => .ite (.pure (hP.plain rfl)) ?_
  split
  · next ref =>
      refine Keeps.bind (Q := fun last => P (last.getD .nothing)) (.ask ?_) fun last hlast =>
        Keeps.andThen (.modify (fun s hs => hs.modifyList _ ?_) trivial) (.pure hlast)
      · intro s hs last hlast
        cases hlast
        cases hback : (s.list ref).back? with
        | none => exact hP.plain rfl
        | some v => exact hs.listed (Array.mem_of_back? hback)
      · intro v hv
        rw [← Array.mem_toList_iff, Array.toList_pop] at hv
        exact hs.listed (Array.mem_toList_iff.1 ((List.dropLast_sublist _).mem hv))
  · exact .raise _
  · exact .raise _
  · exact .raise _

theorem keeps_checkKey (key : Value) :
    Keeps (Store.Holds P frames) (fun _ => True) (Library.checkKey key) := by
  unfold Library.checkKey
  split
  · exact .raise _
  · exact .pure trivial

theorem keeps_get (hP : Hereditary P) (container key : Value) :
    Keeps (Store.Holds P frames) P (Library.get container key) := by
  unfold Library.get
  dsimp only
  split
  · next ref =>
      refine (keeps_checkKey key).andThen (.ask ?_)
      intro s hs v hv
      cases hv
      cases hfound : (s.object ref).get? key with
      | none => exact hP.plain rfl
      | some v => exact hs.kept hfound
  · refine (keeps_checkKey key).andThen ?_
    split
    · exact keeps_lookup hP _ _
    · exact .pure (hP.plain rfl)
  · next ref =>
      split
      · exact .raise _
      · next n _ =>
          refine .ask ?_
          intro s hs v hv
          cases hv
          cases hslot : Library.slot? (s.list ref).size n with
          | none => exact hP.plain rfl
          | some i =>
              cases hitem : (s.list ref)[i]? with
              | none => exact hP.plain (by simp [hitem, Value.isPlain])
              | some v =>
                  have : P v := hs.listed (Array.mem_of_getElem? hitem)
                  simpa [hitem] using this
  · split
    · exact .raise _
    · next t _ n _ =>
        refine .pure ?_
        cases (Library.slot? t.length n).bind (Text.charAt? t) with
        | none => exact hP.plain rfl
        | some c => exact hP.plain rfl
  · exact .raise _

theorem keeps_checkIndex (key : Value) :
    Keeps (Store.Holds P frames) (fun _ => True) (Library.checkIndex key) := by
  unfold Library.checkIndex
  split
  · exact .pure trivial
  · exact .ite (.raise _) (.pure trivial)

theorem keeps_setItem (ref : ListRef) (index : Int) {value : Value} (hvalue : P value) :
    Keeps (Store.Holds P frames) (fun _ => True) (Library.setItem ref index value) := by
  unfold Library.setItem
  refine (keeps_asked _).bind ?_
  intro size _
  split
  · exact .raise _
  · refine .modify (fun s hs => hs.modifyList _ ?_) trivial
    intro v hv
    rcases Array.mem_or_eq_of_mem_setIfInBounds hv with hv | rfl
    · exact hs.listed hv
    · exact hvalue

/-- Putting a value somewhere touches no frame, unless it is put under a name
into a frame that is a value. -/
theorem keeps_set {container key value : Value} (hkey : P key) (hvalue : P value)
    (hframe : ∀ ref name, container = .frame ref → key ≠ .text name) :
    Keeps (Store.Holds P frames) P (Library.set container key value) := by
  unfold Library.set
  dsimp only
  split
  · split
    · exact (keeps_checkIndex key).andThen ((keeps_setItem _ _ hvalue).andThen (.pure hvalue))
    · exact (Keeps.raise _).andThen (.pure hvalue)
  · refine (keeps_checkKey key).andThen (Keeps.andThen ?_ (.pure hvalue))
    exact .modify (fun s hs => hs.put _ hkey hvalue) trivial
  · next ref =>
      split
      · next name => exact absurd rfl (hframe ref name rfl)
      · exact (Keeps.raise _).andThen (.pure hvalue)
  · have refused := (Keeps.raise (I := Store.Holds P frames) (α := PUnit)
      (.noItemAssignment container.typeWord)).andThen (.pure hvalue)
    exact .ite ((keeps_checkIndex key).andThen refused) refused

/-! ### Ranges, sizes and names -/

theorem keeps_rangeArgument (v : Value) :
    Keeps (Store.Holds P frames) (fun _ => True) (Library.rangeArgument v) := by
  unfold Library.rangeArgument
  split
  · exact .pure trivial
  · exact .raise _

theorem keeps_rangeList (hP : Hereditary P) (start stop step : Int) :
    Keeps (Store.Holds P frames) P (Library.rangeList start stop step) := by
  have numbers (size : Nat) : Keeps (Store.Holds P frames) P
      (Run.newList ((Array.range size).map fun (i : Nat) => .int (start + i * step))) := by
    refine keeps_newList ?_ hP
    intro v hv
    obtain ⟨i, -, rfl⟩ := Array.mem_map.1 hv
    exact hP.plain rfl
  unfold Library.rangeList
  dsimp only
  refine .ite ((Keeps.raise _).andThen ?_) ?_
  all_goals refine .ite ((Keeps.raise _).andThen ?_) ?_
  all_goals exact (keeps_checkMemory _).andThen (numbers _)

theorem keeps_range (hP : Hereditary P) (args : List Value) :
    Keeps (Store.Holds P frames) P (Library.range args) := by
  unfold Library.range
  split
  · exact .raise _
  · exact (keeps_rangeArgument _).bind fun _ _ => keeps_rangeList hP _ _ _
  · exact (keeps_rangeArgument _).bind fun _ _ => (keeps_rangeArgument _).bind fun _ _ =>
      keeps_rangeList hP _ _ _
  · exact (keeps_rangeArgument _).bind fun _ _ => (keeps_rangeArgument _).bind fun _ _ =>
      (keeps_rangeArgument _).bind fun _ _ => keeps_rangeList hP _ _ _
  · exact .raise _

theorem keeps_keys (hP : Hereditary P) (v : Value) :
    Keeps (Store.Holds P frames) P (Library.keys v) := by
  unfold Library.keys
  refine Keeps.bind (Q := fun found => ∀ entries, found = some entries → ∀ e ∈ entries, P e.1)
    (.ask ?_) ?_
  · intro s hs found hfound entries hentries e he
    cases hfound
    unfold Store.entries? at hentries
    split at hentries
    · cases hentries
      obtain ⟨key, hkey, rfl⟩ := List.mem_map.1 he
      exact hs.keyed (Array.mem_toList_iff.1 hkey)
    · cases hentries
      obtain ⟨binding, -, rfl⟩ := List.mem_map.1 he
      exact hP.plain rfl
    · cases hentries
  · intro found hfound
    split
    · next entries =>
        refine keeps_newList ?_ hP
        intro v hv
        obtain ⟨e, he, rfl⟩ := List.mem_map.1 (List.mem_toArray.1 hv)
        exact hfound entries rfl e he
    · exact .raise _

theorem keeps_check (sig : Signature) (args : List Value) :
    Keeps (Store.Holds P frames) (fun _ => True) (sig.check args) := by
  unfold Signature.check
  split
  · exact .raise _
  · exact .pure trivial

/-- A function of the library that calls nothing back touches no frame, unless
it puts a value under a name into a frame that is a value. -/
theorem keeps_run (hP : Hereditary P) {call : Value → List Value → Run Value}
    {recorder : RecorderRef} {f : LibraryFunction} {args : List Value} (hargs : ∀ v ∈ args, P v)
    (hif : f ≠ .if) (heach : f ≠ .each)
    (hset : f = .set → ∀ ref name v, args ≠ [.frame ref, .text name, v]) :
    Keeps (Store.Holds P frames) P (f.run call recorder args) := by
  unfold LibraryFunction.run
  split
  · exact keeps_print hP _ _
  · exact keeps_add hP (hargs _ (by simp)) (hargs _ (by simp))
  · exact keeps_subtract hP _ _ _
  · exact keeps_multiply hP (hargs _ (by simp)) (hargs _ (by simp))
  · exact keeps_divide hP _ _
  · exact (keeps_equal _ _).bind fun _ _ => .pure (hP.plain rfl)
  · exact (keeps_equal _ _).bind fun _ _ => .pure (hP.plain rfl)
  · exact keeps_compareBy hP _ _ _
  · exact keeps_compareBy hP _ _ _
  · exact keeps_compareBy hP _ _ _
  · exact keeps_compareBy hP _ _ _
  · exact absurd rfl hif
  · exact absurd rfl hif
  · exact absurd rfl heach
  · exact keeps_push hP (hargs _ (by simp))
  · exact keeps_pop hP _
  · exact keeps_get hP _ _
  · refine keeps_set (hargs _ (by simp)) (hargs _ (by simp)) ?_
    intro ref name hc hk
    exact hset rfl ref name _ (by rw [hc, hk])
  · exact keeps_range hP _
  · exact (keeps_asked _).bind fun _ _ => .pure (hP.plain rfl)
  · exact keeps_newObject hP
  · exact keeps_keys hP _
  · exact .pure (hP.plain rfl)

end Library

end Scriptlet
