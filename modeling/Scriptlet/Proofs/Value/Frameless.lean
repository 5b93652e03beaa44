/-
# Values without a frame

A closure carries the frame that it was made in, and a frame can be a value.  A
value is frameless when neither can be got at from it: it is no closure and no
frame, and where it is a container, the container is in a region of the store
that holds frameless values only.  What is new in the store counts as in the
region, and what the host keeps for itself is frameless too.

Nothing that can be asked of frameless values depends on what the frames of the
store hold.  That is shown here for the questions that look inside containers:
equality, order, and the two ways to write a value.
-/
import Scriptlet.Proofs.Value.AlikeStores

namespace Scriptlet

/-- Some lists and objects of a store. -/
structure Store.Region where
  lists : ListRef → Prop
  objects : ObjectRef → Prop

/-- A function that a script made. -/
def Callable.isClosure : Callable → Bool
  | closure _ => true
  | _ => false

/-- Values that hold nothing, not even by reference. -/
def Value.isScalar : Value → Bool
  | .nothing | .bool _ | .int _ | .big _ | .float _ | .notANumber _ | .text _ => true
  | _ => false

theorem Value.isScalar_ofLiteral (value : Literal) :
    (Value.ofLiteral value).isScalar = true := by
  cases value with
  | integer n =>
      rw [Value.ofLiteral]
      split
      · rfl
      · rfl
  | _ => rfl

/-- Values from which no frame can be got at. -/
inductive Value.Frameless (region : Store.Region) : Value → Prop
  | scalar {v : Value} (h : v.isScalar = true) : Frameless region v
  | list {ref : ListRef} (h : region.lists ref) : Frameless region (.list ref)
  | object {ref : ObjectRef} (h : region.objects ref) : Frameless region (.object ref)
  | function {f : Callable} (h : f.isClosure = false) : Frameless region (.function f)
  | tuple {id : Nat} {items : List Value} (h : ∀ v ∈ items, Frameless region v) :
      Frameless region (.tuple id items)

namespace Value

variable {region : Store.Region}

@[simp] theorem frameless_list {ref : ListRef} :
    (Value.list ref).Frameless region ↔ region.lists ref := by
  refine ⟨fun h => ?_, .list⟩
  cases h with
  | scalar h => cases h
  | list h => exact h

@[simp] theorem frameless_object {ref : ObjectRef} :
    (Value.object ref).Frameless region ↔ region.objects ref := by
  refine ⟨fun h => ?_, .object⟩
  cases h with
  | scalar h => cases h
  | object h => exact h

@[simp] theorem frameless_function {f : Callable} :
    (Value.function f).Frameless region ↔ f.isClosure = false := by
  refine ⟨fun h => ?_, .function⟩
  cases h with
  | scalar h => cases h
  | function h => exact h

@[simp] theorem frameless_tuple {id : Nat} {items : List Value} :
    (Value.tuple id items).Frameless region ↔ ∀ v ∈ items, v.Frameless region := by
  refine ⟨fun h => ?_, .tuple⟩
  cases h with
  | scalar h => cases h
  | tuple h => exact h

@[simp] theorem not_frameless_frame {ref : FrameRef} : ¬(Value.frame ref).Frameless region := by
  intro h
  cases h with
  | scalar h => cases h

end Value

/-- The region holds frameless values only, and what comes next in the store is in it. -/
structure Store.Frameless (region : Store.Region) (s : Store) : Prop where
  listed {ref : ListRef} : region.lists ref → ∀ v ∈ (s.list ref).toList, v.Frameless region
  keyed {ref : ObjectRef} : region.objects ref →
    ∀ k ∈ (s.object ref).keys.toList, k.Frameless region
  kept {ref : ObjectRef} : region.objects ref →
    ∀ key v, (s.object ref).get? key = some v → v.Frameless region
  newLists {ref : ListRef} : s.lists.size ≤ ref → region.lists ref
  newObjects {ref : ObjectRef} : s.objects.size ≤ ref → region.objects ref
  hosted {name : String} {v : Value} : s.hosted.get? name = some v → v.Frameless region

def Store.withFrames (s : Store) (frames : Array Frame) : Store := { s with frames := frames }

namespace Store

variable {region : Region} {s : Store} {a b v : Value}

/-! ## Changes that keep the region -/

section Changes

variable (h : s.Frameless region)

include h

theorem Frameless.of_contents {t : Store} (hlists : t.lists = s.lists)
    (hobjects : t.objects = s.objects) (hhosted : t.hosted = s.hosted) : t.Frameless region := by
  have hlist (ref : ListRef) : t.list ref = s.list ref := by rw [list, list, hlists]
  have hobject (ref : ObjectRef) : t.object ref = s.object ref := by rw [object, object, hobjects]
  exact {
    listed := fun href => hlist _ ▸ h.listed href
    keyed := fun href => hobject _ ▸ h.keyed href
    kept := fun href => hobject _ ▸ h.kept href
    newLists := fun href => h.newLists (hlists ▸ href)
    newObjects := fun href => h.newObjects (hobjects ▸ href)
    hosted := fun hv => h.hosted (hhosted ▸ hv) }

theorem Frameless.newList {items : Array Value} (hitems : ∀ v ∈ items.toList, v.Frameless region) :
    { s with lists := s.lists.push items }.Frameless region where
  listed {ref} href v hv := by
    simp only [list, Array.getD_eq_getD_getElem?, Array.getElem?_push] at hv
    split at hv
    · exact hitems v hv
    · exact h.listed href v (by simpa only [list, Array.getD_eq_getD_getElem?] using hv)
  keyed := h.keyed
  kept := h.kept
  newLists href := h.newLists (Nat.le_trans (by simp) href)
  newObjects := h.newObjects
  hosted := h.hosted

theorem Frameless.newObject : { s with objects := s.objects.push {} }.Frameless region where
  listed := h.listed
  keyed {ref} href k hk := by
    simp only [object, Array.getD_eq_getD_getElem?, Array.getElem?_push] at hk
    split at hk
    · simp at hk
    · exact h.keyed href k (by simpa only [object, Array.getD_eq_getD_getElem?] using hk)
  kept {ref} href key v hv := by
    simp only [object, Array.getD_eq_getD_getElem?, Array.getElem?_push] at hv
    split at hv
    · simp [Object.get?] at hv
    · exact h.kept href key v (by simpa only [object, Array.getD_eq_getD_getElem?] using hv)
  newLists := h.newLists
  newObjects href := h.newObjects (Nat.le_trans (by simp) href)
  hosted := h.hosted

theorem Frameless.modifyList {ref : ListRef} {f : Array Value → Array Value}
    (hf : ∀ v ∈ (f (s.list ref)).toList, v.Frameless region) :
    (s.modifyList ref f).Frameless region where
  listed {other} hother v hv := by
    rw [list_modifyList] at hv
    split at hv
    · next hcond => exact hf v (hcond.1 ▸ hv)
    · exact h.listed hother v hv
  keyed := h.keyed
  kept := h.kept
  newLists hsize := h.newLists (by simpa [Store.modifyList] using hsize)
  newObjects := h.newObjects
  hosted := h.hosted

theorem Frameless.put (ref : ObjectRef) {key value : Value}
    (hkey : key.Frameless region) (hvalue : value.Frameless region) :
    (s.modifyObject ref (·.put key value)).Frameless region where
  listed := h.listed
  keyed {other} hother k hk := by
    rw [object_modifyObject] at hk
    split at hk
    · simp only [Object.put] at hk
      split at hk
      · exact h.keyed hother k hk
      · rcases Array.mem_push.1 (Array.mem_toList_iff.1 hk) with hk | rfl
        · exact h.keyed hother k (Array.mem_toList_iff.2 hk)
        · exact hkey
    · exact h.keyed hother k hk
  kept {other} hother k v hv := by
    rw [object_modifyObject] at hv
    split at hv
    · rw [Object.get?_put] at hv
      split at hv
      · cases hv
        exact hvalue
      · exact h.kept hother k v hv
    · exact h.kept hother k v hv
  newLists := h.newLists
  newObjects hsize := h.newObjects (by simpa [Store.modifyObject] using hsize)
  hosted := h.hosted

/-! ## What containers hold -/

theorem Frameless.find {ref : ObjectRef} (href : region.objects ref) (key : Value) :
    (((s.object ref).get? key).getD .nothing).Frameless region := by
  cases hv : (s.object ref).get? key with
  | none => exact .scalar rfl
  | some v => exact h.kept href key v hv

theorem Frameless.entry {ref : ObjectRef} (href : region.objects ref) :
    ∀ e ∈ (s.object ref).entries, e.1.Frameless region ∧ e.2.Frameless region := by
  intro e he
  obtain ⟨key, hkey, rfl⟩ := List.mem_map.1 he
  exact ⟨h.keyed href key hkey, h.find href key⟩

end Changes

/-! ## Comparing -/

section Comparing

variable {equal equal' : Value → Value → Option Bool}

/-- Two ways to compare that agree on frameless values. -/
def AgreeFrameless (region : Region) (equal equal' : Value → Value → Option Bool) : Prop :=
  ∀ {a b : Value}, a.Frameless region → b.Frameless region → equal a b = equal' a b

variable (hequal : AgreeFrameless region equal equal')

include hequal

theorem itemEqual_frameless (ha : a.Frameless region) (hb : b.Frameless region) :
    itemEqual equal a b = itemEqual equal' a b := by
  rw [itemEqual, itemEqual, hequal ha hb]

theorem rowEqual_frameless {xs ys : List Value} (hx : ∀ v ∈ xs, v.Frameless region)
    (hy : ∀ v ∈ ys, v.Frameless region) : rowEqual equal xs ys = rowEqual equal' xs ys := by
  induction xs generalizing ys with
  | nil => rfl
  | cons x xs ih =>
      cases ys with
      | nil => rfl
      | cons y ys =>
          rw [List.forall_mem_cons] at hx hy
          rw [rowEqual, rowEqual, itemEqual_frameless hequal hx.1 hy.1, ih hx.2 hy.2]

theorem firstDifference_frameless {xs ys : List Value} (hx : ∀ v ∈ xs, v.Frameless region)
    (hy : ∀ v ∈ ys, v.Frameless region) :
    firstDifference equal xs ys = firstDifference equal' xs ys := by
  induction xs generalizing ys with
  | nil => rfl
  | cons x xs ih =>
      cases ys with
      | nil => rfl
      | cons y ys =>
          rw [List.forall_mem_cons] at hx hy
          rw [firstDifference, firstDifference, itemEqual_frameless hequal hx.1 hy.1,
            ih hx.2 hy.2]

theorem entriesEqual_frameless {find : Value → Option Value}
    (hfind : ∀ k w, find k = some w → w.Frameless region) {entries : List (Value × Value)}
    (h : ∀ e ∈ entries, e.1.Frameless region ∧ e.2.Frameless region) :
    entriesEqual equal find entries = entriesEqual equal' find entries := by
  induction entries with
  | nil => rfl
  | cons e entries ih =>
      rw [List.forall_mem_cons] at h
      rw [entriesEqual, entriesEqual, ih h.2]
      cases hw : find e.1 with
      | none => rfl
      | some w => simp only [itemEqual_frameless hequal h.1.2 (hfind e.1 w hw)]

end Comparing

/-- Where two rows differ first, there are an item of the one and an item of the other. -/
theorem mem_of_firstDifference {equal : Value → Value → Option Bool} {xs ys : List Value}
    (h : firstDifference equal xs ys = some (some (a, b))) : a ∈ xs ∧ b ∈ ys := by
  induction xs generalizing ys with
  | nil => cases h
  | cons x xs ih =>
      cases ys with
      | nil => cases h
      | cons y ys =>
          rw [firstDifference] at h
          cases hfirst : itemEqual equal x y with
          | none => simp [hfirst] at h
          | some same =>
              cases same with
              | true =>
                  have hrest := ih (by simpa [hfirst] using h)
                  exact ⟨List.mem_cons_of_mem x hrest.1, List.mem_cons_of_mem y hrest.2⟩
              | false =>
                  obtain ⟨rfl, rfl⟩ : x = a ∧ y = b := by simpa [hfirst] using h
                  exact ⟨List.mem_cons_self .., List.mem_cons_self ..⟩

section Questions

variable (frames : Array Frame)

@[simp] theorem list_withFrames (ref : ListRef) :
    (s.withFrames frames).list ref = s.list ref := rfl

@[simp] theorem object_withFrames (ref : ObjectRef) :
    (s.withFrames frames).object ref = s.object ref := rfl

theorem entries?_withFrames (ha : a.Frameless region) :
    (s.withFrames frames).entries? a = s.entries? a := by
  cases a with
  | frame => simp at ha
  | _ => rfl

theorem find?_withFrames (ha : a.Frameless region) :
    (s.withFrames frames).find? a = s.find? a := by
  cases a with
  | frame => simp at ha
  | _ => funext key; cases key <;> rfl

theorem items?_withFrames (a : Value) : (s.withFrames frames).items? a = s.items? a := by
  cases a <;> rfl

variable (h : s.Frameless region)

include h

theorem Frameless.entries? (ha : a.Frameless region) {entries : List (Value × Value)}
    (hentries : s.entries? a = some entries) :
    ∀ e ∈ entries, e.1.Frameless region ∧ e.2.Frameless region := by
  cases a with
  | frame => simp at ha
  | object ref =>
      obtain rfl := Option.some.inj hentries
      exact h.entry (Value.frameless_object.1 ha)
  | _ => cases hentries

theorem Frameless.find? (ha : a.Frameless region) (key v : Value)
    (hv : s.find? a key = some v) : v.Frameless region := by
  cases a with
  | frame => simp at ha
  | object ref => exact h.kept (Value.frameless_object.1 ha) key v hv
  | _ => cases key <;> cases hv

theorem Frameless.items? (ha : a.Frameless region) {kind : String} {items : List Value}
    (hitems : s.items? a = some (kind, items)) : ∀ v ∈ items, v.Frameless region := by
  cases a with
  | list ref =>
      obtain ⟨-, rfl⟩ := Prod.mk.inj (Option.some.inj hitems)
      exact h.listed (Value.frameless_list.1 ha)
  | tuple id items =>
      obtain ⟨-, rfl⟩ := Prod.mk.inj (Option.some.inj hitems)
      exact Value.frameless_tuple.1 ha
  | _ => cases hitems

theorem Frameless.equalUpTo_eq (depth : Nat) :
    AgreeFrameless region ((s.withFrames frames).equalUpTo depth) (s.equalUpTo depth) := by
  induction depth with
  | zero => exact fun _ _ => rfl
  | succ depth ih =>
      intro a b ha hb
      unfold equalUpTo
      split
      · have hrow := rowEqual_frameless ih (h.listed (Value.frameless_list.1 ha))
          (h.listed (Value.frameless_list.1 hb))
        simp only [list_withFrames, hrow]
      · rw [rowEqual_frameless ih (Value.frameless_tuple.1 ha) (Value.frameless_tuple.1 hb)]
      · rw [entries?_withFrames frames ha, entries?_withFrames frames hb,
          find?_withFrames frames ha, find?_withFrames frames hb]
        split
        · next es fs hes hfs =>
            rw [entriesEqual_frameless ih (h.find? ha) (h.entries? hb hfs),
              entriesEqual_frameless ih (h.find? hb) (h.entries? ha hes)]
        · rfl

theorem Frameless.orderUpTo_eq (op : Comparison) (depth : Nat) (ha : a.Frameless region)
    (hb : b.Frameless region) :
    (s.withFrames frames).orderUpTo op depth a b = s.orderUpTo op depth a b := by
  induction depth generalizing a b with
  | zero => rfl
  | succ depth ih =>
      unfold orderUpTo
      dsimp only
      split
      · rfl
      · split
        · rfl
        · rw [items?_withFrames, items?_withFrames]
          split
          · next kind xs kind' ys hxs hys =>
              have hx := h.items? ha hxs
              have hy := h.items? hb hys
              rw [firstDifference_frameless (h.equalUpTo_eq frames depth) hx hy]
              split
              · rfl
              · split
                · rfl
                · rfl
                · next x y hdiffer =>
                    have hmem := mem_of_firstDifference hdiffer
                    exact ih (hx x hmem.1) (hy y hmem.2)
          · rfl

/-! ## Writing -/

omit h in
theorem mapM_entries_frameless {key key' value value' : Value → Except Obstacle String}
    (hkey : ∀ v, v.Frameless region → key v = key' v)
    (hvalue : ∀ v, v.Frameless region → value v = value' v) {entries : List (Value × Value)}
    (hentries : ∀ e ∈ entries, e.1.Frameless region ∧ e.2.Frameless region) :
    (entries.mapM fun (k, w) => do
      let x ← key k
      let y ← value w
      return x ++ ": " ++ y) =
    entries.mapM fun (k, w) => do
      let x ← key' k
      let y ← value' w
      return x ++ ": " ++ y := by
  refine mapM_eq_of_forall₂ (List.forall₂_same.2 fun (k, w) he => ?_)
  dsimp only
  rw [hkey k (hentries _ he).1, hvalue w (hentries _ he).2]

omit h in
theorem mapM_frameless {write write' : Value → Except Obstacle String}
    (hwrite : ∀ v, v.Frameless region → write v = write' v) {items : List Value}
    (hitems : ∀ v ∈ items, v.Frameless region) : items.mapM write = items.mapM write' :=
  mapM_eq_of_forall₂ (List.forall₂_same.2 fun v hv => hwrite v (hitems v hv))

theorem Frameless.inspectUpTo_eq (depth : Nat) (outer : List Value) (v : Value)
    (hv : v.Frameless region) :
    (s.withFrames frames).inspectUpTo depth outer v = s.inspectUpTo depth outer v := by
  induction depth generalizing outer v with
  | zero => rfl
  | succ depth ih =>
      cases v with
      | frame => simp at hv
      | list ref =>
          have hrow := mapM_frameless (ih (.list ref :: outer))
            (h.listed (Value.frameless_list.1 hv))
          simp only [inspectUpTo, list_withFrames, hrow]
      | object ref =>
          have hparts := mapM_entries_frameless (ih (.object ref :: outer))
            (ih (.object ref :: outer)) (h.entry (Value.frameless_object.1 hv))
          simp only [inspectUpTo, object_withFrames, hparts]
      | tuple id items =>
          have hrow := mapM_frameless (ih (.tuple id items :: outer)) (Value.frameless_tuple.1 hv)
          simp only [inspectUpTo, hrow]
      | _ => rfl

theorem Frameless.inspectBare_eq (v : Value) (hv : v.Frameless region) :
    (s.withFrames frames).inspectBare v = s.inspectBare v := by
  have hinspect : (s.withFrames frames).inspect v = s.inspect v :=
    h.inspectUpTo_eq frames _ [] v hv
  cases v with
  | text => rfl
  | _ => exact hinspect

theorem Frameless.renderUpTo_eq (depth : Nat) (v : Value) (hv : v.Frameless region) :
    (s.withFrames frames).renderUpTo depth v = s.renderUpTo depth v := by
  induction depth generalizing v with
  | zero => rfl
  | succ depth ih =>
      cases v with
      | frame => simp at hv
      | list ref =>
          have hrow := mapM_frameless ih (h.listed (Value.frameless_list.1 hv))
          simp only [renderUpTo, Store.entries?, list_withFrames, hrow]
      | object ref =>
          have hparts := mapM_entries_frameless (h.inspectBare_eq frames) ih
            (h.entry (Value.frameless_object.1 hv))
          simp only [renderUpTo, Store.entries?, object_withFrames, hparts]
      | tuple id items => exact h.inspectUpTo_eq frames _ [] (.tuple id items) hv
      | _ => rfl

theorem Frameless.display_eq (v : Value) (hv : v.Frameless region) :
    (s.withFrames frames).display v = s.display v := by
  have hrender : (s.withFrames frames).render v = s.render v :=
    h.renderUpTo_eq frames _ v hv
  cases v with
  | text => rfl
  | _ => exact hrender

end Questions

end Store

end Scriptlet
