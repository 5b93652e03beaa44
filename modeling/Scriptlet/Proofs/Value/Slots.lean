/-
# What `set` does to a slot, `get` sees

A list has a slot for each index and an object one for each key; negative indices and
equal keys are other names of the same slots (`Store.SameSlot`).  `set` puts a value into
one slot and leaves all others as they are, or it fails and leaves everything as it is
(`get_after_set`).

## The one exception

`get` finds the value in the slot again, unless it was put into a list under a truth value.
For `set` a truth value is an index, 0 or 1, and for `get` it is none: what `set` puts into
a list under a truth value, `get` refuses to give out under it.  Under the index that it
means, `get` does find it.

## What is asked of keys

That there are no floats in them (`Value.Floatless`): how floats compare is up to the
platform, and one that is no number does not even equal itself.  An object finds its entries
by what is left of a key once everything is gone that makes no difference (`Key`), and two
keys of which the same is left are equal at every limit on comparing that is high enough
(`eventuallyEqual_of_key`).

Values are not restricted at all, and neither is what else is in the store: the container may
stand inside itself.
-/
import Scriptlet.Proofs.Evaluation.Library
import Scriptlet.Proofs.Value.Equality

namespace Scriptlet

/-! ## Keys and the values that they are the keys of -/

/-- Values that no float is in, as keys of objects go. -/
inductive Value.Floatless : Value → Prop
  | leaf {v : Value} (h : v.Leaf) : Floatless v
  | function (f : Callable) : Floatless (.function f)
  | list (ref : ListRef) : Floatless (.list ref)
  | object (ref : ObjectRef) : Floatless (.object ref)
  | frame (ref : FrameRef) : Floatless (.frame ref)
  | tuple {id : Nat} {items : List Value} (h : ∀ v ∈ items, Floatless v) :
      Floatless (.tuple id items)

namespace Store

variable {s : Store} {a b : Value} {xs ys : List Value}

/-- From some depth on, comparing finds the values equal. -/
def EventuallyEqual (s : Store) (a b : Value) : Prop :=
  ∃ enough, ∀ depth, enough ≤ depth → s.equalUpTo depth a b = some true

theorem eventuallyEqual_of_succ (h : ∀ depth, s.equalUpTo (depth + 1) a b = some true) :
    s.EventuallyEqual a b := by
  refine ⟨1, fun depth hdepth => ?_⟩
  obtain ⟨depth, rfl⟩ := Nat.exists_eq_add_of_le' hdepth
  exact h depth

theorem eventuallyEqual_leaf (ha : a.Leaf) (hb : b.Leaf) (h : Key.ofValue a = Key.ofValue b) :
    s.EventuallyEqual a b := by
  refine eventuallyEqual_of_succ fun depth => ?_
  cases ha <;> cases hb <;> simp_all [Key.ofValue, equalUpTo, entries?, Value.shallowEqual,
    Value.number?, Value.integer?, Number.equal, Number.compare?]

theorem eventuallyEqual_function {f g : Callable} (h : Key.ofCallable f = Key.ofCallable g) :
    s.EventuallyEqual (.function f) (.function g) := by
  refine eventuallyEqual_of_succ fun depth => ?_
  cases f <;> cases g <;>
    simp_all [Key.ofCallable, equalUpTo, entries?, Value.shallowEqual, Callable.same]

/-- Rows are equal from some depth on if they have one key and their items are equal from
some depth on. -/
theorem eventuallyEqual_row (h : Key.ofRow xs = Key.ofRow ys)
    (hitems : ∀ x ∈ xs, ∀ y ∈ ys, Key.ofValue x = Key.ofValue y → s.EventuallyEqual x y) :
    xs.length = ys.length ∧
      ∃ enough, ∀ depth, enough ≤ depth → rowEqual (s.equalUpTo depth) xs ys = some true := by
  induction xs generalizing ys with
  | nil =>
      cases ys with
      | nil => exact ⟨rfl, 0, fun _ _ => rfl⟩
      | cons y ys => cases h
  | cons x xs ih =>
      cases ys with
      | nil => cases h
      | cons y ys =>
          rw [Key.ofRow, Key.ofRow, Key.row.injEq] at h
          obtain ⟨enough, hfirst⟩ := hitems x List.mem_cons_self y List.mem_cons_self h.1
          obtain ⟨hlength, more, hrest⟩ := ih h.2 fun x hx y hy =>
            hitems x (List.mem_cons_of_mem _ hx) y (List.mem_cons_of_mem _ hy)
          refine ⟨congrArg (· + 1) hlength, max enough more, fun depth hdepth => ?_⟩
          have hitem : itemEqual (s.equalUpTo depth) x y = some true := by
            rw [itemEqual, hfirst depth (Nat.le_trans (Nat.le_max_left ..) hdepth), ite_self]
          rw [rowEqual, hitem]
          exact hrest depth (Nat.le_trans (Nat.le_max_right ..) hdepth)

theorem unhashable?_of_mem {v : Value} (h : Value.unhashableIn? xs = none) (hv : v ∈ xs) :
    v.unhashable? = none := by
  induction hv with
  | head rest =>
      rw [Value.unhashableIn?, Option.or_eq_none_iff] at h
      exact h.1
  | tail other _ ih =>
      rw [Value.unhashableIn?, Option.or_eq_none_iff] at h
      exact ih h.2

/-- **Values with one key are equal.** -/
theorem eventuallyEqual_of_key (ha : a.Floatless) (hb : b.Floatless)
    (hasha : a.unhashable? = none) (hashb : b.unhashable? = none)
    (h : Key.ofValue a = Key.ofValue b) : s.EventuallyEqual a b := by
  induction ha generalizing b with
  | leaf hleaf =>
      cases hb with
      | leaf hleaf' => exact eventuallyEqual_leaf hleaf hleaf' h
      | function g => cases hleaf <;> cases g <;> cases h
      | @tuple _ items => cases hleaf <;> cases items <;> cases h
      | list | object | frame => cases hashb
  | function f =>
      cases hb with
      | leaf hleaf => cases hleaf <;> cases f <;> cases h
      | function g => exact eventuallyEqual_function h
      | @tuple _ items => cases f <;> cases items <;> cases h
      | list | object | frame => cases hashb
  | list | object | frame => cases hasha
  | @tuple _ xs hitems ih =>
      cases hb with
      | leaf hleaf => cases hleaf <;> cases xs <;> cases h
      | function g => cases g <;> cases xs <;> cases h
      | list | object | frame => cases hashb
      | @tuple _ ys hitems' =>
          obtain ⟨hlength, enough, hrow⟩ := eventuallyEqual_row (s := s) h
            fun x hx y hy hkey => ih x hx (hitems' y hy) (unhashable?_of_mem hasha hx)
              (unhashable?_of_mem hashb hy) hkey
          refine ⟨enough + 1, fun depth hdepth => ?_⟩
          obtain ⟨depth, rfl⟩ := Nat.exists_eq_add_of_le' (Nat.one_le_of_lt hdepth)
          rw [equalUpTo, hrow depth (Nat.le_of_succ_le_succ hdepth)]
          simp [hlength]

end Store

/-! ## Slots -/

namespace Store

/-- A list or an object of the store. -/
inductive HasContainer (s : Store) : Value → Prop
  | list {ref : ListRef} (h : ref < s.lists.size) : HasContainer s (.list ref)
  | object {ref : ObjectRef} (h : ref < s.objects.size) : HasContainer s (.object ref)

/-- The place in a list that a key means; a truth value means 0 or 1. -/
def place? (s : Store) (ref : ListRef) (key : Value) : Option Nat :=
  key.integer?.bind (Library.slot? (s.list ref).size)

/-- The two keys mean the same slot of a container: the same place of a list, or equal keys
of an object. -/
def SameSlot (s : Store) : Value → Value → Value → Prop
  | .list ref, a, b => ∃ i, s.place? ref a = some i ∧ s.place? ref b = some i
  | .object _, a, b => s.EventuallyEqual a b
  | _, _, _ => False

end Store

namespace Library

variable {s : Store} {key value : Value} {n : Int} {i : Nat}

theorem slot?_lt {size : Nat} (h : slot? size n = some i) : i < size := by
  simp only [slot?, Option.ite_none_right_eq_some, Bool.and_eq_true, decide_eq_true_eq,
    Option.some.injEq] at h
  obtain ⟨hbound, rfl⟩ := h
  omega

/-! ### Lists -/

section Lists

variable {ref : ListRef}

theorem get_list_of_none (h : index? key = none) :
    get (.list ref) key s = .error (.raised (.cannotIndex "list" key.typeWord)) s := by
  simp only [get, h]
  rfl

theorem get_list_of_some (h : index? key = some n) :
    get (.list ref) key s =
      .ok (((slot? (s.list ref).size n).bind ((s.list ref)[·]?)).getD .nothing) s := by
  simp only [get, h]
  rfl

theorem checkIndex_cases (key : Value) (s : Store) :
    checkIndex key s = .ok () s ∨ ∃ fault, checkIndex key s = .error fault s := by
  unfold checkIndex
  cases key.integer? with
  | none => exact .inl rfl
  | some n =>
      dsimp only
      split
      · exact .inr ⟨_, rfl⟩
      · exact .inl rfl

theorem setItem_of_none (h : slot? (s.list ref).size n = none) :
    setItem ref n value s = .error (.raised .indexOutOfRange) s := by
  have hask : ask (fun s => .ok (s.list ref).size) s = .ok (s.list ref).size s := rfl
  rw [setItem, Run.bind_of_ok hask, h]
  rfl

theorem setItem_of_some (h : slot? (s.list ref).size n = some i) :
    setItem ref n value s = .ok () (s.modifyList ref (·.setIfInBounds i value)) := by
  have hask : ask (fun s => .ok (s.list ref).size) s = .ok (s.list ref).size s := rfl
  rw [setItem, Run.bind_of_ok hask, h]
  rfl

/-- A list is changed in the place that the key means, or not at all. -/
theorem set_list_cases (ref : ListRef) (key value : Value) (s : Store) :
    (∃ i, s.place? ref key = some i ∧
      set (.list ref) key value s = .ok value (s.modifyList ref (·.setIfInBounds i value))) ∨
    ∃ fault, set (.list ref) key value s = .error fault s := by
  cases hkey : key.integer? with
  | none =>
      refine .inr ⟨.raised (.badListIndex key.typeWord), ?_⟩
      simp only [set, hkey]
      rfl
  | some n =>
      have hset : set (.list ref) key value = (do
          checkIndex key
          setItem ref n value
          return value) := by
        simp only [set, hkey]
      rw [hset, Store.place?, hkey]
      rcases checkIndex_cases key s with hindex | ⟨fault, hindex⟩
      · rw [Run.bind_of_ok hindex]
        cases hslot : slot? (s.list ref).size n with
        | none => exact .inr ⟨_, Run.bind_of_error (setItem_of_none hslot)⟩
        | some i => exact .inl ⟨i, hslot, Run.bind_of_ok (setItem_of_some hslot)⟩
      · exact .inr ⟨fault, Run.bind_of_error hindex⟩

end Lists

/-! ### Objects -/

section Objects

variable {ref : ObjectRef} {type : String}

theorem checkKey_of_none (h : key.unhashable? = none) : checkKey key s = .ok () s := by
  rw [checkKey, h]
  rfl

theorem checkKey_of_some (h : key.unhashable? = some type) :
    checkKey key s = .error (.raised (.unhashable type)) s := by
  rw [checkKey, h]
  rfl

theorem get_object_of_none (h : key.unhashable? = none) :
    get (.object ref) key s = .ok (((s.object ref).get? key).getD .nothing) s :=
  Run.bind_of_ok (checkKey_of_none h)

theorem get_object_of_some (h : key.unhashable? = some type) :
    get (.object ref) key s = .error (.raised (.unhashable type)) s :=
  Run.bind_of_error (checkKey_of_some h)

/-- An object is changed under the key, or not at all. -/
theorem set_object_cases (ref : ObjectRef) (key value : Value) (s : Store) :
    (key.unhashable? = none ∧
      set (.object ref) key value s = .ok value (s.modifyObject ref (·.put key value))) ∨
    ∃ fault, set (.object ref) key value s = .error fault s := by
  cases hkey : key.unhashable? with
  | none => exact .inl ⟨rfl, Run.bind_of_ok (checkKey_of_none hkey)⟩
  | some type => exact .inr ⟨_, Run.bind_of_error (checkKey_of_some hkey)⟩

end Objects

end Library

/-! ## What `get` sees of `set` -/

/-- The computation has one answer in both stores, and changes neither of them. -/
def Run.AnswersAlike {α : Type} (m : Run α) (s s' : Store) : Prop :=
  ∃ answer : Except Fault α,
    m s = Library.ask (fun _ => answer) s ∧ m s' = Library.ask (fun _ => answer) s'

section Lists

variable {s : Store} {ref : ListRef} {key other value : Value} {i : Nat}

theorem list_after_set (hlist : ref < s.lists.size) :
    (s.modifyList ref (·.setIfInBounds i value)).list ref =
      (s.list ref).setIfInBounds i value := by
  rw [list_modifyList, if_pos ⟨rfl, hlist⟩]

theorem get_list_same (hlist : ref < s.lists.size) (hplace : s.place? ref key = some i)
    (hbool : key.isBool = false) :
    Library.get (.list ref) key (s.modifyList ref (·.setIfInBounds i value)) =
      .ok value (s.modifyList ref (·.setIfInBounds i value)) := by
  obtain ⟨n, hkey, hslot⟩ := Option.bind_eq_some_iff.1 hplace
  have hindex : Library.index? key = some n := by
    cases key with
    | bool => cases hbool
    | int | big => exact hkey
    | _ => cases hkey
  have hi := Library.slot?_lt hslot
  rw [Library.get_list_of_some hindex, list_after_set hlist, Array.size_setIfInBounds, hslot]
  simp [hi]

theorem get_list_other (hlist : ref < s.lists.size) (hplace : s.place? ref key = some i)
    (hother : ¬ s.SameSlot (.list ref) key other) :
    (Library.get (.list ref) other).AnswersAlike s
      (s.modifyList ref (·.setIfInBounds i value)) := by
  cases hindex : Library.index? other with
  | none =>
      exact ⟨.error _, Library.get_list_of_none hindex, Library.get_list_of_none hindex⟩
  | some m =>
      refine ⟨.ok _, Library.get_list_of_some hindex, ?_⟩
      rw [Library.get_list_of_some hindex, list_after_set hlist, Array.size_setIfInBounds]
      have hinteger : other.integer? = some m := by
        cases other with
        | int | big => exact hindex
        | _ => cases hindex
      cases hslot : Library.slot? (s.list ref).size m with
      | none => rfl
      | some j =>
          have hne : i ≠ j := by
            rintro rfl
            refine hother ⟨i, hplace, ?_⟩
            rw [Store.place?, hinteger]
            exact hslot
          simp [hne, Library.ask]

end Lists

section Objects

variable {s : Store} {ref : ObjectRef} {key other value : Value}

theorem object_after_set (hobject : ref < s.objects.size) :
    (s.modifyObject ref (·.put key value)).object ref = (s.object ref).put key value := by
  rw [object_modifyObject, if_pos ⟨rfl, hobject⟩]

theorem get_object_same (hobject : ref < s.objects.size) (hkey : key.unhashable? = none) :
    Library.get (.object ref) key (s.modifyObject ref (·.put key value)) =
      .ok value (s.modifyObject ref (·.put key value)) := by
  rw [Library.get_object_of_none hkey, object_after_set hobject, Object.get?_put, if_pos rfl]
  rfl

theorem get_object_other (hobject : ref < s.objects.size) (hhash : key.unhashable? = none)
    (hkey : key.Floatless) (hfloatless : other.Floatless)
    (hother : ¬ s.SameSlot (.object ref) key other) :
    (Library.get (.object ref) other).AnswersAlike s
      (s.modifyObject ref (·.put key value)) := by
  cases hhash' : other.unhashable? with
  | some type =>
      exact ⟨.error _, Library.get_object_of_some hhash', Library.get_object_of_some hhash'⟩
  | none =>
      refine ⟨.ok _, Library.get_object_of_none hhash', ?_⟩
      have hne : Key.ofValue key ≠ Key.ofValue other := fun hkeys =>
        hother (Store.eventuallyEqual_of_key hkey hfloatless hhash hhash' hkeys)
      rw [Library.get_object_of_none hhash', object_after_set hobject, Object.get?_put,
        if_neg hne]
      rfl

end Objects

/-- **What `set` puts into a slot, `get` finds there, and every other slot is as it was**,
but for what `set` puts into a list under a truth value: `get` takes none for an index.  A
list keeps its length, and a `set` that fails changes nothing. -/
theorem get_after_set (call : Value → List Value → Run Value) (recorder : RecorderRef)
    {s : Store} {container key value : Value} (hcontainer : s.HasContainer container)
    (hkey : key.Floatless) :
    (∀ v s', LibraryFunction.set.apply call recorder [container, key, value] s = .ok v s' →
      v = value ∧
      (key.isBool = false ∨ container.isObject = true →
        LibraryFunction.get.apply call recorder [container, key] s' = .ok value s') ∧
      (key.isBool = true ∧ container.isObject = false →
        LibraryFunction.get.apply call recorder [container, key] s' =
          .error (.raised (.cannotIndex "list" "bool")) s') ∧
      (∀ other : Value, other.Floatless → ¬ s.SameSlot container key other →
        (LibraryFunction.get.apply call recorder [container, other]).AnswersAlike s s') ∧
      ∀ ref, container = .list ref → (s'.list ref).size = (s.list ref).size) ∧
    ∀ fault s',
      LibraryFunction.set.apply call recorder [container, key, value] s = .error fault s' →
        s' = s := by
  have hset : LibraryFunction.set.apply call recorder [container, key, value] =
      Library.set container key value := rfl
  have hget (k : Value) : LibraryFunction.get.apply call recorder [container, k] =
      Library.get container k := rfl
  simp only [hset, hget]
  cases hcontainer with
  | @list ref hlist =>
      rcases Library.set_list_cases ref key value s with ⟨i, hplace, hdone⟩ | ⟨fault, hfailed⟩
      · rw [hdone]
        refine ⟨?_, fun _ _ hrun => by simp at hrun⟩
        intro v s' hrun
        obtain ⟨rfl, rfl⟩ := EStateM.Result.ok.inj hrun
        refine ⟨rfl, ?_, ?_, ?_, ?_⟩
        · rintro (hbool | hobject)
          · exact get_list_same hlist hplace hbool
          · cases hobject
        · rintro ⟨hbool, -⟩
          cases key with
          | bool b => exact Library.get_list_of_none rfl
          | _ => cases hbool
        · intro other _ hother
          exact get_list_other hlist hplace hother
        · intro ref' href
          obtain rfl := Value.list.inj href
          rw [list_after_set hlist, Array.size_setIfInBounds]
      · rw [hfailed]
        refine ⟨fun _ _ hrun => by simp at hrun, ?_⟩
        intro _ s' hrun
        exact (EStateM.Result.error.inj hrun).2.symm
  | @object ref hobject =>
      rcases Library.set_object_cases ref key value s with ⟨hhash, hdone⟩ | ⟨fault, hfailed⟩
      · rw [hdone]
        refine ⟨?_, fun _ _ hrun => by simp at hrun⟩
        intro v s' hrun
        obtain ⟨rfl, rfl⟩ := EStateM.Result.ok.inj hrun
        refine ⟨rfl, ?_, ?_, ?_, fun ref' hlist => by simp at hlist⟩
        · intro _
          exact get_object_same hobject hhash
        · rintro ⟨-, hlist⟩
          cases hlist
        · intro other hfloatless hother
          exact get_object_other hobject hhash hkey hfloatless hother
      · rw [hfailed]
        refine ⟨fun _ _ hrun => by simp at hrun, ?_⟩
        intro _ s' hrun
        exact (EStateM.Result.error.inj hrun).2.symm

/-- A list of two numbers. -/
def pairStore : Store where
  lists := #[#[.int 10, .int 20]]

/-- Under -1 `get` finds what `set` put there; under `true` it does not, although `set` has
put it into the same place. -/
theorem get_after_set_in_pair :
    pairStore.HasContainer (.list 0) ∧ (Value.int (-1)).Floatless ∧ (Value.bool true).Floatless ∧
      (∃ s', LibraryFunction.set.apply (fun _ _ => pure .nothing) 0
          [.list 0, .int (-1), .int 5] pairStore = .ok (.int 5) s' ∧
        LibraryFunction.get.apply (fun _ _ => pure .nothing) 0 [.list 0, .int (-1)] s' =
          .ok (.int 5) s') ∧
      ∃ s', LibraryFunction.set.apply (fun _ _ => pure .nothing) 0
          [.list 0, .bool true, .int 5] pairStore = .ok (.int 5) s' ∧
        LibraryFunction.get.apply (fun _ _ => pure .nothing) 0 [.list 0, .bool true] s' =
          .error (.raised (.cannotIndex "list" "bool")) s' := by
  have hlist : pairStore.HasContainer (.list 0) := .list (by decide)
  have hint : (Value.int (-1)).Floatless := .leaf (.int (-1))
  have hbool : (Value.bool true).Floatless := .leaf (.bool true)
  refine ⟨hlist, hint, hbool, ⟨_, rfl, ?_⟩, ⟨_, rfl, ?_⟩⟩
  · exact ((get_after_set _ 0 hlist hint).1 _ _ rfl).2.1 (.inl rfl)
  · exact ((get_after_set _ 0 hlist hbool).1 _ _ rfl).2.2.1 ⟨rfl, rfl⟩

end Scriptlet
