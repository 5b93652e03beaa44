/-
# What runners hear

Evaluation lets runners hear what scripts print, and never asks what they heard.  A
computation is `Deaf` when it does the same whatever a runner had heard before, leaves
that in front of what it lets the runner hear, and lets runners hear printed lines only,
also where it stops with a fault.

The evaluator and the library are gone through once, function by function; only `print`
lets a runner hear anything, and no function asks.  `perform_deaf` is the induction on depth
that ties them together.

## The host

A function of the host is deaf on terms of its own (`Conduct.Deaf`): it lets runners hear
printed lines at most, nothing that it does depends on what they had heard, and nothing is
asked of what it does beyond that.  `perform_deaf` says of every task that it is deaf where
the host is: a host that looks into what was heard can make any difference of it, so
there is no such law without the hypothesis.

## Faults

The rules also keep track of which faults come out of the library by itself: mishaps and
nesting too deep, and nothing else.
-/
import Scriptlet.Proofs.Evaluation.Replay
import Scriptlet.Proofs.Value.AlikeStores

namespace Scriptlet

/-! ## What was heard before -/

/-- The store in which a runner had also heard something before. -/
def Store.preceded (ref : RecorderRef) (earlier : Array Effect) (s : Store) : Store :=
  { s with recorders := s.recorders.modify ref fun heard =>
      { heard with effects := earlier ++ heard.effects } }

/-- Between the two stores the runners of the first heard printed lines only. -/
structure Store.Printed (s s' : Store) : Prop where
  grows : s.recorders.size ≤ s'.recorders.size
  lines (ref : RecorderRef) (h : ref < s.recorders.size) :
    ∃ lines : List String, (s'.recorder ref).effects =
      (s.recorder ref).effects ++ (lines.map .stdout).toArray

/-- The outcome with its store changed. -/
def Run.withStore {α : Type} (f : Store → Store) :
    EStateM.Result Fault Store α → EStateM.Result Fault Store α
  | .ok a s => .ok a (f s)
  | .error fault s => .error fault (f s)

section Heard

variable {s s' s'' : Store} (ref : RecorderRef) (earlier : Array Effect)

theorem Store.Printed.of_eq (h : s'.recorders = s.recorders) : s.Printed s' := by
  refine ⟨Nat.le_of_eq (congrArg Array.size h).symm, fun ref _ => ⟨[], ?_⟩⟩
  rw [Store.recorder, Store.recorder, h]
  exact Array.append_empty.symm

theorem Store.Printed.refl (s : Store) : s.Printed s := .of_eq rfl

theorem Store.Printed.trans (h : s.Printed s') (h' : s'.Printed s'') : s.Printed s'' := by
  refine ⟨Nat.le_trans h.grows h'.grows, fun ref href => ?_⟩
  obtain ⟨lines, hlines⟩ := h.lines ref href
  obtain ⟨more, hmore⟩ := h'.lines ref (Nat.lt_of_lt_of_le href h.grows)
  refine ⟨lines ++ more, ?_⟩
  rw [hmore, hlines, Array.append_assoc, List.map_append]
  exact congrArg _ (List.append_toArray _ _)

theorem Store.recorder_record (s : Store) (other : RecorderRef) (effect : Effect)
    (h : ref < s.recorders.size) :
    ((s.record other effect).recorder ref).effects =
      if other = ref then (s.recorder ref).effects.push effect else (s.recorder ref).effects := by
  simp only [Store.recorder, Store.record, Array.getD_eq_getD_getElem?, Array.getElem?_modify]
  split
  · simp [h]
  · rfl

theorem Store.printed_record (s : Store) (line : String) :
    s.Printed (s.record ref (.stdout line)) := by
  refine ⟨Nat.le_of_eq (Array.size_modify ..).symm, fun other hother => ?_⟩
  rw [s.recorder_record other ref _ hother]
  split
  · exact ⟨[line], rfl⟩
  · exact ⟨[], Array.append_empty.symm⟩

theorem Store.record_preceded (s : Store) (other : RecorderRef) (effect : Effect) :
    (s.preceded ref earlier).record other effect =
      (s.record other effect).preceded ref earlier := by
  unfold Store.preceded Store.record
  congr 1
  apply Array.ext_getElem?
  intro i
  simp only [Array.getElem?_modify]
  by_cases href : ref = i
  · by_cases hother : other = i
    · simp [href, hother, Function.comp_def]
    · simp [href, hother]
  · simp [href]

theorem Store.sourceDir_preceded (s : Store) (other : RecorderRef) :
    ((s.preceded ref earlier).recorder other).sourceDir = (s.recorder other).sourceDir := by
  simp only [Store.recorder, Store.preceded, Array.getD_eq_getD_getElem?, Array.getElem?_modify]
  split
  · cases s.recorders[other]? <;> rfl
  · rfl

theorem Store.alikeContents_preceded (s : Store) :
    (s.preceded ref earlier).AlikeContents s := { s.alikeContents_self with }

end Heard

/-! ## Deaf computations -/

/-- The fault is one that the library stops with by itself: no diagnostic, and nothing that
only the host brings about. -/
def Fault.Unplaced : Fault → Prop
  | .raised _ | .exhausted => True
  | _ => False

namespace Run

/-- The computation does the same whatever runners had heard before, lets them hear printed
lines only, and stops with no other faults than `P` says. -/
structure Deaf {α : Type} (P : Fault → Prop) (m : Run α) : Prop where
  same (s : Store) (ref : RecorderRef) (earlier : Array Effect) (h : ref < s.recorders.size) :
    m (s.preceded ref earlier) = withStore (Store.preceded ref earlier) (m s)
  prints (s : Store) : s.Printed (m.after s)
  faults {s s' : Store} {fault : Fault} : m s = .error fault s' → P fault

section Rules

variable {α β : Type} {P P' : Fault → Prop} {m : Run α}

/-- A computation that neither asks for recorders nor changes them is deaf. -/
theorem Deaf.of_unheard (hsame : ∀ s ref earlier,
      m (s.preceded ref earlier) = withStore (Store.preceded ref earlier) (m s))
    (hrecorders : ∀ s, (m.after s).recorders = s.recorders)
    (hfaults : ∀ s fault s', m s = .error fault s' → P fault) : Deaf P m :=
  ⟨fun s ref earlier _ => hsame s ref earlier, fun s => .of_eq (hrecorders s),
    fun {s s' fault} => hfaults s fault s'⟩

theorem Deaf.pure (a : α) : Deaf P (Pure.pure a : Run α) :=
  .of_unheard (fun _ _ _ => rfl) (fun _ => rfl) fun _ _ _ heq => by cases heq

theorem Deaf.throw {fault : Fault} (h : P fault) : Deaf P (throw fault : Run α) := by
  refine .of_unheard (fun _ _ _ => rfl) (fun _ => rfl) ?_
  intro s fault' s' heq
  cases heq
  exact h

theorem Deaf.raise (mishap : Mishap) : Deaf Fault.Unplaced (raise mishap : Run α) :=
  .throw trivial

theorem Deaf.weaken (h : Deaf P m) (hP : ∀ fault, P fault → P' fault) : Deaf P' m :=
  ⟨h.same, h.prints, fun heq => hP _ (h.faults heq)⟩

theorem Deaf.ite {c : Prop} [Decidable c] {m' : Run α} (hm : Deaf P m) (hm' : Deaf P m') :
    Deaf P (if c then m else m') := by
  split
  · exact hm
  · exact hm'

theorem Deaf.bind {f : α → Run β} (hm : Deaf P m) (hf : ∀ a, Deaf P (f a)) :
    Deaf P (m >>= f) := by
  refine ⟨fun s ref earlier href => ?_, fun s => ?_, fun {s s' fault} heq => ?_⟩
  · have hms := hm.same s ref earlier href
    have hprints := hm.prints s
    cases h : m s with
    | ok a t =>
        rw [h] at hms
        rw [after_of_ok h] at hprints
        rw [bind_of_ok hms, bind_of_ok h]
        exact (hf a).same t ref earlier (Nat.lt_of_lt_of_le href hprints.grows)
    | error fault t =>
        rw [h] at hms
        rw [bind_of_error hms, bind_of_error h]
        rfl
  · have hprints := hm.prints s
    cases h : m s with
    | ok a t =>
        rw [after_of_ok h] at hprints
        have hafter : (m >>= f).after s = (f a).after t := by
          simp only [after, bind_of_ok h]
        rw [hafter]
        exact hprints.trans ((hf a).prints t)
    | error fault t =>
        rw [after_of_error h] at hprints
        rwa [after_of_error (bind_of_error h)]
  · cases h : m s with
    | ok a t =>
        rw [bind_of_ok h] at heq
        exact (hf a).faults heq
    | error fault' t =>
        rw [bind_of_error h] at heq
        cases heq
        exact hm.faults h

theorem Deaf.onFault {handler : Fault → Run α} (hm : Deaf P m)
    (h : ∀ fault, P fault → Deaf P' (handler fault)) : Deaf P' (m.onFault handler) := by
  refine ⟨fun s ref earlier href => ?_, fun s => ?_, fun {s s' fault} heq => ?_⟩
  · have hms := hm.same s ref earlier href
    have hprints := hm.prints s
    unfold Run.onFault
    rw [hms]
    cases hr : m s with
    | ok a t => rfl
    | error fault t =>
        rw [after_of_error hr] at hprints
        exact (h fault (hm.faults hr)).same t ref earlier (Nat.lt_of_lt_of_le href hprints.grows)
  · have hprints := hm.prints s
    cases hr : m s with
    | ok a t =>
        rw [after_of_ok hr] at hprints
        have hafter : (m.onFault handler).after s = t := by
          simp only [after, Run.onFault, hr]
        rwa [hafter]
    | error fault t =>
        rw [after_of_error hr] at hprints
        have hafter : (m.onFault handler).after s = (handler fault).after t := by
          simp only [after, Run.onFault, hr]
        rw [hafter]
        exact hprints.trans ((h fault (hm.faults hr)).prints t)
  · unfold Run.onFault at heq
    cases hr : m s with
    | ok a t =>
        rw [hr] at heq
        cases heq
    | error fault' t =>
        rw [hr] at heq
        exact (h fault' (hm.faults hr)).faults heq

theorem Deaf.settle (hm : Deaf P m) : Deaf P' m.settle := by
  refine ⟨fun s ref earlier href => ?_, fun s => ?_, fun {s s' fault} heq => ?_⟩
  · unfold Run.settle
    rw [hm.same s ref earlier href]
    cases m s <;> rfl
  · have hprints := hm.prints s
    cases hr : m s with
    | ok a t =>
        rw [after_of_ok hr] at hprints
        have hafter : m.settle.after s = t := by
          simp only [after, Run.settle, hr]
        rwa [hafter]
    | error fault t =>
        rw [after_of_error hr] at hprints
        have hafter : m.settle.after s = t := by
          simp only [after, Run.settle, hr]
        rwa [hafter]
  · unfold Run.settle at heq
    split at heq <;> cases heq

theorem Deaf.ask {question : Store → Except Fault α}
    (hsame : ∀ s ref earlier, question (s.preceded ref earlier) = question s)
    (hfaults : ∀ s fault, question s = .error fault → P fault) :
    Deaf P (Library.ask question) := by
  refine .of_unheard (fun s ref earlier => ?_) (fun s => ?_) fun s fault s' heq => ?_
  · unfold Library.ask
    rw [hsame]
    cases question s <;> rfl
  · simp only [after, Library.ask]
    cases question s <;> rfl
  · unfold Library.ask at heq
    cases hq : question s with
    | ok a =>
        rw [hq] at heq
        cases heq
    | error fault' =>
        rw [hq] at heq
        cases heq
        exact hfaults s _ hq

theorem Deaf.modify {f : Store → Store}
    (hsame : ∀ s ref earlier, f (s.preceded ref earlier) = (f s).preceded ref earlier)
    (hrecorders : ∀ s, (f s).recorders = s.recorders) :
    Deaf P (modify f : Run PUnit) := by
  refine .of_unheard (fun s ref earlier => ?_) hrecorders fun _ _ _ heq => by cases heq
  exact congrArg (EStateM.Result.ok PUnit.unit) (hsame s ref earlier)

theorem deaf_record (ref : RecorderRef) (line : String) :
    Deaf P (modify (·.record ref (.stdout line)) : Run PUnit) := by
  refine ⟨fun s other earlier _ => ?_, fun s => s.printed_record ref line, fun heq => by cases heq⟩
  exact congrArg (EStateM.Result.ok PUnit.unit) (s.record_preceded other earlier ref _)

end Rules

end Run

/-! ## The library -/

section Library

open Run

theorem deaf_newList (items : Array Value) : Deaf Fault.Unplaced (Run.newList items) :=
  .of_unheard (fun _ _ _ => rfl) (fun _ => rfl) fun _ _ _ heq => by cases heq

theorem deaf_newObject (object : Object) : Deaf Fault.Unplaced (Run.newObject object) :=
  .of_unheard (fun _ _ _ => rfl) (fun _ => rfl) fun _ _ _ heq => by cases heq

theorem deaf_freshMark : Deaf Fault.Unplaced Run.freshMark :=
  .of_unheard (fun _ _ _ => rfl) (fun _ => rfl) fun _ _ _ heq => by cases heq

theorem deaf_lookup (ref : FrameRef) (name : String) :
    Deaf Fault.Unplaced (Run.lookup ref name) :=
  .of_unheard (fun _ _ _ => rfl) (fun _ => rfl) fun _ _ _ heq => by cases heq

theorem deaf_bindName (ref : FrameRef) (name : String) (v : Value) :
    Deaf Fault.Unplaced (Run.bindName ref name v) :=
  .of_unheard (fun _ _ _ => rfl) (fun _ => rfl) fun _ _ _ heq => by cases heq

theorem deaf_newTuple (items : List Value) : Deaf Fault.Unplaced (Run.newTuple items) :=
  deaf_freshMark.bind fun _ => .pure _

theorem deaf_newFloat (x : Float) : Deaf Fault.Unplaced (Run.newFloat x) := by
  unfold Run.newFloat
  exact .ite (deaf_freshMark.bind fun _ => .pure _) (.pure _)

/-- An answer that no recorder bears on and that cannot be refused. -/
theorem deaf_answer {α : Type} {answer : Store → α}
    (h : ∀ s ref earlier, answer (s.preceded ref earlier) = answer s) :
    Deaf Fault.Unplaced (Library.ask fun s => .ok (answer s)) :=
  .ask (fun s ref earlier => congrArg Except.ok (h s ref earlier)) fun _ _ heq => by cases heq

/-! ### Arithmetic -/

theorem deaf_finish (result : Except Mishap Number) :
    Deaf Fault.Unplaced (Arithmetic.finish result) := by
  cases result with
  | error mishap => exact .raise mishap
  | ok n =>
      cases n with
      | integer n => exact .pure _
      | float x => exact deaf_newFloat x

theorem deaf_itemsOf (ref : ListRef) : Deaf Fault.Unplaced (Arithmetic.itemsOf ref) :=
  .of_unheard (fun _ _ _ => rfl) (fun _ => rfl) fun _ _ _ heq => by cases heq

theorem deaf_add (a b : Value) : Deaf Fault.Unplaced (Arithmetic.add a b) := by
  unfold Arithmetic.add
  split
  · exact deaf_finish _
  · split
    · exact .pure _
    · exact (deaf_itemsOf _).bind fun _ => (deaf_itemsOf _).bind fun _ => deaf_newList _
    · exact .ite (.pure _) (.ite (.pure _) (deaf_newTuple _))
    all_goals exact .raise _

theorem deaf_subtract (symbol : String) (a b : Value) :
    Deaf Fault.Unplaced (Arithmetic.subtract symbol a b) := by
  unfold Arithmetic.subtract
  split
  · exact deaf_finish _
  · exact .raise _

theorem deaf_divide (a b : Value) : Deaf Fault.Unplaced (Arithmetic.divide a b) := by
  unfold Arithmetic.divide
  split
  · exact deaf_finish _
  · exact .raise _

theorem deaf_checkMemory (bytes : Nat) : Deaf Fault.Unplaced (Arithmetic.checkMemory bytes) := by
  refine .of_unheard (fun s ref earlier => ?_) (fun s => ?_) fun s fault s' heq => ?_
  · have hworld : (s.preceded ref earlier).world = s.world := rfl
    unfold Arithmetic.checkMemory
    rw [hworld]
    split
    · rfl
    · rfl
  · unfold Run.after Arithmetic.checkMemory
    by_cases h : s.world.limits.memory < bytes
    · rw [if_pos h]
    · rw [if_neg h]
  · unfold Arithmetic.checkMemory at heq
    split at heq
    · cases heq
      trivial
    · cases heq

theorem deaf_repetitions (text : Bool) (size : Nat) (count : Value) (n : Int) :
    Deaf Fault.Unplaced (Arithmetic.repetitions text size count n) := by
  unfold Arithmetic.repetitions
  exact .ite (.raise _) (.ite (.raise _) ((deaf_checkMemory _).bind fun _ => .pure _))

theorem deaf_repeat {sequence count : Value} {run : Run Value}
    (hrun : Arithmetic.repeat? sequence count = some run) : Deaf Fault.Unplaced run := by
  unfold Arithmetic.repeat? at hrun
  dsimp only at hrun
  split at hrun
  · cases hrun
    refine Deaf.bind ?_ fun _ => .pure _
    split
    · exact deaf_repetitions _ _ _ _
    · exact .raise _
  · cases hrun
    refine (deaf_itemsOf _).bind fun _ => Deaf.bind ?_ fun _ => deaf_newList _
    split
    · exact deaf_repetitions _ _ _ _
    · exact .raise _
  · cases hrun
    refine Deaf.bind ?_ fun _ => .ite (.pure _) (deaf_newTuple _)
    split
    · exact deaf_repetitions _ _ _ _
    · exact .raise _
  · cases hrun

theorem deaf_multiply (a b : Value) : Deaf Fault.Unplaced (Arithmetic.multiply a b) := by
  unfold Arithmetic.multiply
  split
  · exact deaf_finish _
  · split
    · next hrun => exact deaf_repeat hrun
    · next hrun => exact deaf_repeat hrun
    · exact .raise _

/-! ### Comparing and writing -/

/-- A value that is written is written alike whatever was heard. -/
theorem printedLine_preceded (s : Store) (ref : RecorderRef) (earlier : Array Effect)
    (values : List Value) :
    Library.printedLine (s.preceded ref earlier) values = Library.printedLine s values := by
  unfold Library.printedLine
  have hdisplay : (s.preceded ref earlier).display = s.display := by
    funext v
    exact (s.alikeContents_preceded ref earlier).display_eq v.alike_self
  rw [hdisplay]

theorem deaf_print (recorder : RecorderRef) (values : List Value) :
    Deaf Fault.Unplaced (Library.print recorder values) := by
  refine (Deaf.ask (fun s ref earlier => printedLine_preceded s ref earlier values) ?_).bind
    fun line => (deaf_record recorder line).bind fun _ => .pure _
  intro s fault hfault
  unfold Library.printedLine at hfault
  split at hfault
  · cases hfault
  · next why _ =>
      cases hfault
      cases why <;> trivial

theorem deaf_equal (a b : Value) : Deaf Fault.Unplaced (Library.equal a b) := by
  unfold Library.equal
  split
  · exact .pure _
  · exact .pure _
  · exact .pure _
  · refine .ask (fun s ref earlier => ?_) fun s fault hfault => ?_
    · exact congrArg Library.decided
        ((s.alikeContents_preceded ref earlier).equalUpTo_eq _ a.alike_self b.alike_self)
    · unfold Library.decided at hfault
      split at hfault
      · cases hfault
      · cases hfault
        trivial

theorem unplaced_of_orderUpTo {s : Store} {op : Comparison} {depth : Nat} {a b : Value}
    {fault : Fault} (h : s.orderUpTo op depth a b = .error fault) : fault.Unplaced := by
  induction depth generalizing a b with
  | zero =>
      cases h
      trivial
  | succ depth ih =>
      unfold Store.orderUpTo at h
      dsimp only at h
      repeat' split at h
      all_goals first
        | exact ih h
        | cases h <;> trivial

theorem deaf_compareBy (op : Comparison) (a b : Value) :
    Deaf Fault.Unplaced (Library.compareBy op a b) := by
  refine (Deaf.ask (fun s ref earlier => ?_) fun s fault => unplaced_of_orderUpTo).bind
    fun _ => .pure _
  exact (s.alikeContents_preceded ref earlier).orderUpTo_eq op _ a.alike_self b.alike_self

/-! ### Containers -/

theorem deaf_push (items value : Value) : Deaf Fault.Unplaced (Library.push items value) := by
  unfold Library.push
  split
  · exact Deaf.bind (.modify (fun _ _ _ => rfl) fun _ => rfl) fun _ => .pure _
  · exact .raise _

theorem deaf_pop (items : Value) : Deaf Fault.Unplaced (Library.pop items) := by
  unfold Library.pop
  refine (deaf_answer fun s ref earlier => ?_).bind fun _ => .ite (.pure _) ?_
  · cases items <;> rfl
  · split
    · refine (deaf_answer fun _ _ _ => rfl).bind fun _ => ?_
      exact Deaf.bind (.modify (fun _ _ _ => rfl) fun _ => rfl) fun _ => .pure _
    all_goals exact .raise _

theorem deaf_checkKey (key : Value) : Deaf Fault.Unplaced (Library.checkKey key) := by
  unfold Library.checkKey
  split
  · exact .raise _
  · exact .pure _

theorem deaf_get (container key : Value) : Deaf Fault.Unplaced (Library.get container key) := by
  unfold Library.get
  dsimp only
  split
  · exact (deaf_checkKey key).bind fun _ => deaf_answer fun _ _ _ => rfl
  · refine (deaf_checkKey key).bind fun _ => ?_
    split
    · exact deaf_lookup _ _
    · exact .pure _
  · split
    · exact .raise _
    · exact deaf_answer fun _ _ _ => rfl
  · split
    · exact .raise _
    · exact .pure _
  · exact .raise _

theorem deaf_checkIndex (key : Value) : Deaf Fault.Unplaced (Library.checkIndex key) := by
  unfold Library.checkIndex
  split
  · exact .pure _
  · exact .ite (.raise _) (.pure _)

theorem deaf_setItem (ref : ListRef) (index : Int) (value : Value) :
    Deaf Fault.Unplaced (Library.setItem ref index value) := by
  unfold Library.setItem
  refine (deaf_answer fun _ _ _ => rfl).bind fun size => ?_
  split
  · exact .raise _
  · exact .modify (fun _ _ _ => rfl) fun _ => rfl

theorem deaf_set (container key value : Value) :
    Deaf Fault.Unplaced (Library.set container key value) := by
  unfold Library.set
  dsimp only
  split
  · split
    · exact (deaf_checkIndex key).bind fun _ => (deaf_setItem _ _ _).bind fun _ => .pure _
    · exact (Deaf.raise _).bind fun _ => .pure _
  · refine (deaf_checkKey key).bind fun _ => ?_
    exact Deaf.bind (.modify (fun _ _ _ => rfl) fun _ => rfl) fun _ => .pure _
  · split
    · exact (deaf_bindName _ _ _).bind fun _ => .pure _
    · exact (Deaf.raise _).bind fun _ => .pure _
  · refine .ite ((deaf_checkIndex key).bind fun _ => ?_) ?_
    all_goals exact (Deaf.raise _).bind fun _ => .pure _

/-! ### Ranges, sizes and names -/

theorem deaf_rangeArgument (v : Value) : Deaf Fault.Unplaced (Library.rangeArgument v) := by
  unfold Library.rangeArgument
  split
  · exact .pure _
  · exact .raise _

theorem deaf_rangeList (start stop step : Int) :
    Deaf Fault.Unplaced (Library.rangeList start stop step) := by
  unfold Library.rangeList
  dsimp only
  have sized (size : Nat) (items : Array Value) :=
    (deaf_checkMemory (32 * size)).bind fun _ => deaf_newList items
  refine .ite ((Deaf.raise _).bind fun _ => ?_) ?_
  all_goals exact .ite ((Deaf.raise _).bind fun _ => sized _ _) (sized _ _)

theorem deaf_range (args : List Value) : Deaf Fault.Unplaced (Library.range args) := by
  unfold Library.range
  split
  · exact .raise _
  · exact (deaf_rangeArgument _).bind fun _ => deaf_rangeList _ _ _
  · exact (deaf_rangeArgument _).bind fun _ => (deaf_rangeArgument _).bind fun _ =>
      deaf_rangeList _ _ _
  · exact (deaf_rangeArgument _).bind fun _ => (deaf_rangeArgument _).bind fun _ =>
      (deaf_rangeArgument _).bind fun _ => deaf_rangeList _ _ _
  · exact .raise _

theorem deaf_size (v : Value) : Deaf Fault.Unplaced (Library.ask fun s => Library.size s v) := by
  refine .ask (fun s ref earlier => ?_) fun s fault heq => ?_
  · cases v <;> rfl
  · unfold Library.size at heq
    split at heq
    all_goals cases heq
    trivial

theorem deaf_keys (v : Value) : Deaf Fault.Unplaced (Library.keys v) := by
  unfold Library.keys
  refine (deaf_answer fun s ref earlier => ?_).bind fun found => ?_
  · cases v <;> rfl
  · split
    · exact deaf_newList _
    · exact .raise _

theorem deaf_iterate (items : Value) :
    Deaf Fault.Unplaced (Library.ask fun s => Library.iterate s items) := by
  refine .ask (fun s ref earlier => ?_) fun s fault heq => ?_
  · cases items <;> rfl
  · unfold Library.iterate at heq
    split at heq
    all_goals cases heq
    trivial

theorem deaf_check (sig : Signature) (args : List Value) :
    Deaf Fault.Unplaced (sig.check args) := by
  unfold Signature.check
  split
  · exact .raise _
  · exact .pure _

/-! ### Functions that call nothing back -/

section Quiet

variable {call : Value → List Value → Run Value} {recorder : RecorderRef} {args : List Value}

theorem deaf_runLibrary {f : LibraryFunction} (hif : f ≠ .if) (heach : f ≠ .each) :
    Deaf Fault.Unplaced (f.run call recorder args) := by
  unfold LibraryFunction.run
  split
  · exact deaf_print _ _
  · exact deaf_add _ _
  · exact deaf_subtract _ _ _
  · exact deaf_multiply _ _
  · exact deaf_divide _ _
  · exact (deaf_equal _ _).bind fun _ => .pure _
  · exact (deaf_equal _ _).bind fun _ => .pure _
  · exact deaf_compareBy _ _ _
  · exact deaf_compareBy _ _ _
  · exact deaf_compareBy _ _ _
  · exact deaf_compareBy _ _ _
  · exact absurd rfl hif
  · exact absurd rfl hif
  · exact absurd rfl heach
  · exact deaf_push _ _
  · exact deaf_pop _
  · exact deaf_get _ _
  · exact deaf_set _ _ _
  · exact deaf_range _
  · exact (deaf_size _).bind fun _ => .pure _
  · exact deaf_newObject _
  · exact deaf_keys _
  · exact .pure _

end Quiet

end Library

/-! ## The host -/

/-- The conduct does not depend on what runners had heard, and lets them hear printed lines
at most. -/
inductive Conduct.Deaf : Conduct → Prop
  | finish (outcome : Except Fault Value) : Deaf (.finish outcome)
  | act {edit : Edit} {next : Store → Conduct}
      (hmake : ∀ s ref earlier, ref < s.recorders.size →
        edit.make (s.preceded ref earlier) = (edit.make s).preceded ref earlier)
      (hprints : ∀ s : Store, s.Printed (edit.make s))
      (hsame : ∀ s ref earlier, ref < s.recorders.size →
        next (s.preceded ref earlier) = next s)
      (hnext : ∀ s, Deaf (next s)) : Deaf (.act edit next)
  | call (f : Value) (args : List Value) {next : Except Fault Value → Conduct}
      (hnext : ∀ outcome, Deaf (next outcome)) : Deaf (.call f args next)

/-- No function of the host bears on what runners heard, but for what is printed. -/
def Host.Deaf (host : Host) : Prop := ∀ f args, (host.conduct f args).Deaf

/-! ## Functions that call back -/

/-- A computation that is deaf, whatever it stops with. -/
abbrev Run.DeafAnyhow {α : Type} (m : Run α) : Prop := Run.Deaf (fun _ => True) m

theorem Run.Deaf.anyhow {α : Type} {P : Fault → Prop} {m : Run α} (h : Run.Deaf P m) :
    m.DeafAnyhow := h.weaken fun _ _ => trivial

section Calls

open Run

variable {call : Value → List Value → Run Value} (hcall : ∀ f args, (call f args).DeafAnyhow)

include hcall

theorem deaf_choose (cond then_ else_ : Value) :
    (Library.choose call cond then_ else_).DeafAnyhow := by
  unfold Library.choose
  refine Deaf.bind (Deaf.anyhow (deaf_answer fun s ref earlier => ?_)) fun _ => .ite (hcall _ _) ?_
  · cases cond <;> rfl
  · split
    · exact .pure _
    · exact hcall _ _

theorem deaf_callEach (f : Value) (index : Nat) (items : List Value) :
    (Library.callEach call f index items).DeafAnyhow := by
  induction items generalizing index with
  | nil => exact .pure _
  | cons item rest ih => exact (hcall _ _).bind fun _ => ih (index + 1)

theorem deaf_each (items f : Value) : (Library.each call items f).DeafAnyhow :=
  (deaf_iterate items).anyhow.bind fun found =>
    (deaf_callEach hcall f 0 found).bind fun _ => .pure _

theorem deaf_applyLibrary (recorder : RecorderRef) (f : LibraryFunction) (args : List Value) :
    (f.apply call recorder args).DeafAnyhow := by
  have run : (f.run call recorder args).DeafAnyhow := by
    by_cases hif : f = .if
    · subst hif
      unfold LibraryFunction.run
      split
      all_goals first
        | exact deaf_choose hcall _ _ _
        | exact .pure _
        | contradiction
    · by_cases heach : f = .each
      · subst heach
        unfold LibraryFunction.run
        split
        all_goals first
          | exact deaf_each hcall _ _
          | exact .pure _
          | contradiction
      · exact (deaf_runLibrary hif heach).anyhow
  unfold LibraryFunction.apply
  split
  · exact (deaf_check _ _).anyhow.bind fun _ => run
  · exact run

theorem deaf_conduct {conduct : Conduct} (h : conduct.Deaf) :
    (conduct.run call).DeafAnyhow := by
  induction h with
  | finish outcome =>
      cases outcome with
      | ok v => exact .pure v
      | error fault => exact .throw trivial
  | @act edit next hmake hprints hsame _ ih =>
      refine ⟨fun s ref earlier href => ?_, fun s => ?_, fun _ => trivial⟩
      · have hnext := (ih s).same (edit.make s) ref earlier
          (Nat.lt_of_lt_of_le href (hprints s).grows)
        show (((next (s.preceded ref earlier)).run call) (edit.make (s.preceded ref earlier))) = _
        rw [hsame s ref earlier href, hmake s ref earlier href]
        exact hnext
      · have hafter : ((Conduct.act edit next).run call).after s =
            ((next s).run call).after (edit.make s) := rfl
        rw [hafter]
        exact (hprints s).trans ((ih s).prints (edit.make s))
  | call f args _ ih => exact (hcall f args).settle.bind fun outcome => ih outcome

end Calls

/-! ## Tasks -/

section Tasks

open Run Evaluator

theorem deaf_load (source : Source) : (load source).DeafAnyhow := by
  unfold load
  split
  · exact .throw trivial
  · exact (Deaf.raise _).anyhow
  · split
    · exact .throw trivial
    · exact .pure _

theorem deaf_makeClosure (scope : Scope) (params : List String) (body : Node) :
    (makeClosure scope params body).DeafAnyhow :=
  deaf_freshMark.anyhow.bind fun _ =>
    Deaf.bind (.modify (fun _ _ _ => rfl) fun _ => rfl) fun _ => .pure _

theorem Store.release_preceded (s : Store) (ref : RecorderRef) (earlier : Array Effect)
    (frame : FrameRef) :
    (s.preceded ref earlier).release frame = (s.release frame).preceded ref earlier := by
  have hcaptured : (s.preceded ref earlier).captured = s.captured := rfl
  unfold Store.release
  rw [hcaptured]
  split
  · rfl
  · rfl

theorem Store.recorders_release (s : Store) (frame : FrameRef) :
    (s.release frame).recorders = s.recorders := by
  unfold Store.release
  split
  · rfl
  · rfl

variable {next : Task → Run Value} (hnext : ∀ task, (next task).DeafAnyhow)

include hnext

theorem deaf_evalAll (scope : Scope) (nodes : List Node) :
    (evalAll next scope nodes).DeafAnyhow := by
  induction nodes with
  | nil => exact .pure _
  | cons node rest ih => exact (hnext _).bind fun _ => ih.bind fun _ => .pure _

theorem deaf_evalStatements (scope : Scope) (last : Value) (nodes : List Node) :
    (evalStatements next scope last nodes).DeafAnyhow := by
  induction nodes generalizing last with
  | nil => exact .pure _
  | cons node rest ih => exact (hnext _).bind fun v => ih v

theorem deaf_evalCall (scope : Scope) (callee : String) (args : List Node)
    (location : Location) : (evalCall next scope callee args location).DeafAnyhow := by
  refine (deaf_lookup _ _).anyhow.bind fun f => ?_
  split
  · exact .throw trivial
  · refine (deaf_evalAll hnext scope args).bind fun values => (hnext _).onFault fun fault _ => ?_
    cases fault with
    | _ => exact .throw trivial

theorem deaf_invoke (c : Closure) (args : List Value) : (invoke next c args).DeafAnyhow := by
  have frame (ref : FrameRef) : (Run.frame ref).DeafAnyhow :=
    .of_unheard (fun _ _ _ => rfl) (fun _ => rfl) fun _ _ _ heq => by cases heq
  refine (frame _).bind fun captured => ?_
  refine Deaf.bind (.of_unheard (fun _ _ _ => rfl) (fun _ => rfl) fun _ _ _ heq => by cases heq)
    fun working => ?_
  refine Deaf.bind ((hnext _).onFault fun fault _ => ?_) fun result => ?_
  · refine Deaf.bind (.modify ?_ ?_) fun _ => .throw trivial
    · intro s ref earlier
      exact s.release_preceded ref earlier working
    · intro s
      exact s.recorders_release working
  · refine (frame _).bind fun committed => Deaf.bind (.modify ?_ ?_) fun _ => .pure _
    · intro s ref earlier
      rw [s.release_preceded ref earlier working]
      rfl
    · intro s
      exact s.recorders_release working

omit hnext in
theorem deaf_fetch {P : Fault → Prop} (scope : Scope) (path : String) :
    Deaf P (fetch scope path) := by
  have base (s : Store) (ref : RecorderRef) (earlier : Array Effect) :
      includeBase (s.preceded ref earlier) scope = includeBase s scope := by
    rw [includeBase, includeBase, s.sourceDir_preceded]
    rfl
  refine .of_unheard (fun s ref earlier => ?_) (fun s => ?_) fun _ _ _ heq => by cases heq
  · have hworld : (s.preceded ref earlier).world = s.world := rfl
    unfold fetch Run.withStore
    rw [base, hworld]
    dsimp only
    split
    · rfl
    · rfl
  · unfold fetch Run.after
    dsimp only
    split
    · rfl
    · rfl

theorem deaf_evalInclude (scope : Scope) (args : List Node) (location : Location) :
    (evalInclude next scope args location).DeafAnyhow := by
  refine (deaf_evalAll hnext scope args).bind fun values => ?_
  split
  · exact .throw trivial
  · next path _ =>
      refine (deaf_fetch scope path).bind fun found => ?_
      split
      · exact .throw trivial
      · next source =>
          refine Deaf.onFault ((deaf_load source).bind fun _ => hnext _) fun fault _ => ?_
          cases fault with
          | _ => exact .throw trivial

theorem deaf_evalNode (scope : Scope) (node : Node) :
    (evalNode next scope node).DeafAnyhow := by
  cases node with
  | literal value span => exact .pure _
  | comment text span => exact .pure _
  | identifier name span => exact (deaf_lookup _ _).anyhow
  | assignment name value span =>
      exact (hnext _).bind fun v => (deaf_bindName _ _ _).anyhow.bind fun _ => .pure _
  | statements items span => exact deaf_evalStatements hnext scope _ items
  | block items inner span => exact deaf_evalStatements hnext scope _ items
  | list items span =>
      exact (deaf_evalAll hnext scope items).bind fun _ => (deaf_newList _).anyhow
  | call callee args span =>
      unfold evalNode
      exact .ite (deaf_evalInclude hnext scope args _) (deaf_evalCall hnext scope callee args _)
  | function params body span => exact deaf_makeClosure scope params body

variable {host : Host} (hhost : host.Deaf)

include hhost

theorem deaf_step (task : Task) : (step host next task).DeafAnyhow := by
  have hcall (f : Value) (args : List Value) : (next (.apply f args)).DeafAnyhow := hnext _
  cases task with
  | eval scope node => exact deaf_evalNode hnext scope node
  | apply f args =>
      cases f with
      | function f =>
          cases f with
          | closure c => exact deaf_invoke hnext c args
          | library recorder g => exact deaf_applyLibrary hcall recorder g args
          | host g => exact deaf_conduct hcall (hhost g args)
      | _ => exact (Deaf.raise _).anyhow

omit hnext in
theorem perform_deaf (depth : Nat) (task : Task) : (perform host depth task).DeafAnyhow := by
  induction depth generalizing task with
  | zero => exact .throw trivial
  | succ depth ih => exact deaf_step ih hhost task

omit hnext in
theorem runProgram_deaf (depth : Nat) (scope : Scope) (program : Node) :
    (runProgram host depth scope program).DeafAnyhow := by
  refine (perform_deaf hhost depth (.eval scope program)).onFault fun fault _ => ?_
  cases fault with
  | _ => exact .throw trivial

end Tasks

end Scriptlet
