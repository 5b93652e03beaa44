/-
# Values that differ in places only

A closure carries the tree of its body, and the tree carries the places that it
was read from.  Two values are `Alike` when they are the same up to these
places, which is all that layout can do to a value.  Frames and objects are
alike when what they hold is.
-/
import Mathlib.Data.List.Forall2
import Scriptlet.Proofs.Evaluation.Library
import Scriptlet.Proofs.Syntax.Derivation

namespace Scriptlet

/-! ## Values -/

/-- The same name and the same file. -/
structure Source.Alike (a b : Source) : Prop where
  name : a.name = b.name
  path : a.path = b.path

/-- The same closure, up to the places in its body. -/
structure Closure.Alike (c d : Closure) : Prop where
  id : c.id = d.id
  params : c.params = d.params
  body : c.body.shape = d.body.shape
  source : c.source.Alike d.source
  frame : c.frame = d.frame
  recorder : c.recorder = d.recorder

/-- The same value up to the places in closures. -/
inductive Value.Alike : Value → Value → Prop
  | plain {v : Value} (h : v.isPlain = true) : Alike v v
  | closure {c d : Closure} (h : c.Alike d) :
      Alike (.function (.closure c)) (.function (.closure d))
  | library (recorder : RecorderRef) (f : LibraryFunction) :
      Alike (.function (.library recorder f)) (.function (.library recorder f))
  | host (f : HostFunction) : Alike (.function (.host f)) (.function (.host f))
  | frame (ref : FrameRef) : Alike (.frame ref) (.frame ref)
  | tuple {id : Nat} {xs ys : List Value} (hlength : xs.length = ys.length)
      (h : ∀ p ∈ xs.zip ys, Alike p.1 p.2) : Alike (.tuple id xs) (.tuple id ys)

/-- Rows of alike values. -/
abbrev AlikeAll : List Value → List Value → Prop :=
  List.Forall₂ (Value.Alike)

section Values

variable {v w v' w' : Value} {xs ys : List Value}

theorem Source.Alike.refl (source : Source) : source.Alike source := ⟨rfl, rfl⟩

theorem Closure.Alike.refl (c : Closure) : c.Alike c := ⟨rfl, rfl, rfl, .refl _, rfl, rfl⟩

/-- Rows whose items are paired off as those of tuples are. -/
theorem forall₂_of_zip {R : Value → Value → Prop} (hlength : xs.length = ys.length)
    (h : ∀ p ∈ xs.zip ys, R p.1 p.2) : List.Forall₂ R xs ys :=
  List.forall₂_iff_zip.2 ⟨hlength, fun hp => h _ hp⟩

theorem alike_tuple {id : Nat} (h : AlikeAll xs ys) :
    (Value.tuple id xs).Alike (.tuple id ys) := by
  obtain ⟨hlength, hitems⟩ := List.forall₂_iff_zip.1 h
  exact .tuple hlength fun p hp => hitems hp

theorem Value.Alike.tuple_left {id : Nat} (h : (Value.tuple id xs).Alike w) :
    ∃ ys, w = .tuple id ys ∧ AlikeAll xs ys := by
  cases h with
  | plain h => cases h
  | @tuple _ _ ys hlength h =>
      exact ⟨ys, rfl, forall₂_of_zip hlength h⟩

theorem Value.Alike.tuple_right {id : Nat} (h : v.Alike (.tuple id ys)) :
    ∃ xs, v = .tuple id xs ∧ AlikeAll xs ys := by
  cases h with
  | plain h => cases h
  | @tuple _ xs _ hlength h =>
      exact ⟨xs, rfl, forall₂_of_zip hlength h⟩

mutual

theorem Value.alike_self : ∀ v : Value, v.Alike v
  | .nothing | .bool _ | .int _ | .big _ | .float _ | .notANumber _ | .text _ | .list _
  | .object _ => .plain rfl
  | .function (.closure c) => .closure (.refl c)
  | .function (.library recorder f) => .library recorder f
  | .function (.host f) => .host f
  | .frame ref => .frame ref
  | .tuple _ items => alike_tuple (alikeAll_self items)

theorem alikeAll_self : ∀ items : List Value, AlikeAll items items
  | [] => .nil
  | v :: rest => .cons (Value.alike_self v) (alikeAll_self rest)

end

/-! ### What scripts can ask about one value -/

theorem Value.Alike.typeWord_eq (h : v.Alike w) : v.typeWord = w.typeWord := by
  cases h <;> rfl

theorem Value.Alike.ownerWord_eq (h : v.Alike w) : v.ownerWord = w.ownerWord := by
  cases h <;> rfl

theorem Value.Alike.integer?_eq (h : v.Alike w) : v.integer? = w.integer? := by
  cases h <;> rfl

theorem Value.Alike.number?_eq (h : v.Alike w) : v.number? = w.number? := by
  cases h <;> rfl

theorem Value.Alike.index?_eq (h : v.Alike w) : Library.index? v = Library.index? w := by
  cases h <;> rfl

theorem Value.Alike.looksAtIndex_eq (h : v.Alike w) :
    Library.looksAtIndex v = Library.looksAtIndex w := by
  cases h <;> rfl

theorem Value.Alike.isObject_eq (h : v.Alike w) : v.isObject = w.isObject := by
  cases h <;> rfl

theorem Value.Alike.isFrame_eq (h : v.Alike w) : v.isFrame = w.isFrame := by
  cases h <;> rfl

theorem Closure.Alike.summary_eq {c d : Closure} (h : c.Alike d) : c.summary = d.summary := by
  rw [Closure.summary, Closure.summary, h.params]

theorem unhashableIn?_eq
    (h : List.Forall₂ (fun x y : Value => x.unhashable? = y.unhashable?) xs ys) :
    Value.unhashableIn? xs = Value.unhashableIn? ys := by
  induction h with
  | nil => rfl
  | cons hfirst _ ih => rw [Value.unhashableIn?, Value.unhashableIn?, hfirst, ih]

theorem Value.Alike.unhashable?_eq (h : v.Alike w) : v.unhashable? = w.unhashable? := by
  induction h with
  | tuple hlength _ ih =>
      exact unhashableIn?_eq (forall₂_of_zip hlength ih)
  | _ => rfl

theorem ofRow_eq (h : List.Forall₂ (fun x y => Key.ofValue x = Key.ofValue y) xs ys) :
    Key.ofRow xs = Key.ofRow ys := by
  induction h with
  | nil => rfl
  | cons hfirst _ ih => rw [Key.ofRow, Key.ofRow, hfirst, ih]

theorem Value.Alike.key_eq (h : v.Alike w) : Key.ofValue v = Key.ofValue w := by
  induction h with
  | closure h => exact congrArg Key.closure h.id
  | tuple hlength _ ih => exact ofRow_eq (forall₂_of_zip hlength ih)
  | _ => rfl

/-! ### What scripts can ask about two values -/

theorem Value.Alike.identical_eq (hv : v.Alike v') (hw : w.Alike w') :
    v.identical w = v'.identical w' := by
  have left (u : Value) : v.identical u = v'.identical u := by
    cases hv with
    | plain => rfl
    | _ => cases u <;> rfl
  have right (u : Value) : u.identical w = u.identical w' := by
    cases hw with
    | plain => rfl
    | _ => cases u <;> rfl
  rw [left, right]

theorem Value.Alike.shallowEqual_eq (hv : v.Alike v') (hw : w.Alike w') :
    v.shallowEqual w = v'.shallowEqual w' := by
  have left (u : Value) : v.shallowEqual u = v'.shallowEqual u := by
    cases hv with
    | closure h =>
        cases u with
        | function g => cases g <;> simp [Value.shallowEqual, Callable.same, h.id]
        | _ => rfl
    | tuple => cases u <;> rfl
    | _ => rfl
  have right (u : Value) : u.shallowEqual w = u.shallowEqual w' := by
    cases hw with
    | closure h =>
        cases u with
        | function f => cases f <;> simp [Value.shallowEqual, Callable.same, h.id]
        | _ => rfl
    | tuple => cases u <;> rfl
    | _ => rfl
  rw [left, right]

end Values

/-! ## Rows -/

/-- Arrays whose items are related one by one. -/
abbrev Rows {α : Type} (R : α → α → Prop) (xs ys : Array α) : Prop :=
  List.Forall₂ R xs.toList ys.toList

section Rows

variable {α : Type} {R : α → α → Prop} {xs ys : Array α}

theorem Rows.size_eq (h : Rows R xs ys) : xs.size = ys.size := h.length_eq

theorem Rows.push (h : Rows R xs ys) {x y : α} (hxy : R x y) : Rows R (xs.push x) (ys.push y) := by
  rw [Rows, Array.toList_push, Array.toList_push]
  exact List.rel_append h (.cons hxy .nil)

theorem Rows.append {xs' ys' : Array α} (h : Rows R xs ys) (h' : Rows R xs' ys') :
    Rows R (xs ++ xs') (ys ++ ys') := by
  rw [Rows, Array.toList_append, Array.toList_append]
  exact List.rel_append h h'

theorem forall₂_modify {xs ys : List α} (h : List.Forall₂ R xs ys) (i : Nat) {f g : α → α}
    (hfg : ∀ x y, R x y → R (f x) (g y)) : List.Forall₂ R (xs.modify i f) (ys.modify i g) := by
  induction h generalizing i with
  | nil => simp
  | cons hfirst hrest ih =>
      cases i with
      | zero => exact .cons (hfg _ _ hfirst) hrest
      | succ i => exact .cons hfirst (ih i)

theorem Rows.modify (h : Rows R xs ys) (i : Nat) {f g : α → α}
    (hfg : ∀ x y, R x y → R (f x) (g y)) : Rows R (xs.modify i f) (ys.modify i g) := by
  rw [Rows, Array.toList_modify, Array.toList_modify]
  exact forall₂_modify h i hfg

theorem Rows.set (h : Rows R xs ys) (i : Nat) {x y : α} (hxy : R x y) :
    Rows R (xs.setIfInBounds i x) (ys.setIfInBounds i y) := by
  rw [Rows, Array.toList_setIfInBounds, Array.toList_setIfInBounds, List.set_eq_modify,
    List.set_eq_modify]
  exact forall₂_modify h i fun _ _ _ => hxy

theorem Rows.pop (h : Rows R xs ys) : Rows R xs.pop ys.pop := by
  rw [Rows, Array.toList_pop, Array.toList_pop, List.dropLast_eq_take, List.dropLast_eq_take,
    h.length_eq]
  exact List.forall₂_take _ h

theorem forall₂_getElem? {xs ys : List α} (h : List.Forall₂ R xs ys) (i : Nat) :
    Option.Rel R xs[i]? ys[i]? := by
  induction h generalizing i with
  | nil => exact .none
  | cons hfirst _ ih =>
      cases i with
      | zero => exact .some hfirst
      | succ i => exact ih i

theorem Rows.getElem? (h : Rows R xs ys) (i : Nat) : Option.Rel R xs[i]? ys[i]? := by
  rw [← Array.getElem?_toList, ← Array.getElem?_toList]
  exact forall₂_getElem? h i

theorem rel_getD {o p : Option α} (h : Option.Rel R o p) {x y : α} (hxy : R x y) :
    R (o.getD x) (p.getD y) := by
  cases h with
  | some h => exact h
  | none => exact hxy

theorem Rows.getD (h : Rows R xs ys) (i : Nat) {x y : α} (hxy : R x y) :
    R (xs.getD i x) (ys.getD i y) := by
  rw [Array.getD_eq_getD_getElem?, Array.getD_eq_getD_getElem?]
  exact rel_getD (h.getElem? i) hxy

end Rows

/-! ## Frames -/

/-- The same key, and alike values. -/
structure EntryAlike {κ : Type} (a b : κ × Value) : Prop where
  key : a.1 = b.1
  value : a.2.Alike b.2

/-- The same names in the same order, bound to alike values. -/
structure Frame.Alike (f g : Frame) : Prop where
  bindings : List.Forall₂ EntryAlike f.bindings g.bindings

section Frames

variable {es fs : List (String × Value)} {f g : Frame} {v w : Value}

theorem alike_get? (h : List.Forall₂ EntryAlike es fs) (name : String) :
    Option.Rel (Value.Alike) (Entries.get? (· == ·) name es)
      (Entries.get? (· == ·) name fs) := by
  induction h with
  | nil => exact .none
  | @cons a b _ _ hfirst _ ih =>
      obtain ⟨k, v⟩ := a
      obtain ⟨k', w⟩ := b
      obtain ⟨rfl, hvalue⟩ := hfirst
      simp only [Entries.get?]
      split
      · exact .some hvalue
      · exact ih

theorem alike_put (h : List.Forall₂ EntryAlike es fs) (name : String)
    (hvw : v.Alike w) :
    List.Forall₂ EntryAlike (Entries.put (· == ·) name v es)
      (Entries.put (· == ·) name w fs) := by
  induction h with
  | nil => exact .cons ⟨rfl, hvw⟩ .nil
  | @cons a b _ _ hfirst hrest ih =>
      obtain ⟨k, _⟩ := a
      obtain ⟨k', _⟩ := b
      obtain ⟨rfl, hvalue⟩ := hfirst
      simp only [Entries.put]
      split
      · exact .cons ⟨rfl, hvw⟩ hrest
      · exact .cons ⟨rfl, hvalue⟩ ih

theorem alike_putAll {news news' : List (String × Value)}
    (h : List.Forall₂ EntryAlike es fs)
    (hnews : List.Forall₂ EntryAlike news news') :
    List.Forall₂ EntryAlike (Entries.putAll (· == ·) es news)
      (Entries.putAll (· == ·) fs news') := by
  induction hnews generalizing es fs with
  | nil => exact h
  | @cons a b _ _ hfirst _ ih =>
      obtain ⟨k, _⟩ := a
      obtain ⟨k', _⟩ := b
      obtain ⟨rfl, hvalue⟩ := hfirst
      exact ih (alike_put h k hvalue)

theorem alike_names (h : List.Forall₂ EntryAlike es fs) :
    es.map Prod.fst = fs.map Prod.fst := by
  induction h with
  | nil => rfl
  | cons hfirst _ ih => rw [List.map_cons, List.map_cons, hfirst.key, ih]

theorem Frame.Alike.empty : ({} : Frame).Alike {} := ⟨.nil⟩

theorem Frame.Alike.get? (h : f.Alike g) (name : String) :
    Option.Rel (Value.Alike) (f.get? name) (g.get? name) := alike_get? h.bindings name

theorem Frame.Alike.names_eq (h : f.Alike g) : f.names = g.names := alike_names h.bindings

theorem Frame.Alike.insert (h : f.Alike g) (name : String) (hvw : v.Alike w) :
    (f.insert name v).Alike (g.insert name w) := ⟨alike_put h.bindings name hvw⟩

theorem sameNames_iff {es fs : List (String × Value)} :
    Frame.sameNames es fs = true ↔ es.map Prod.fst = fs.map Prod.fst := by
  refine ⟨Frame.names_eq_of_sameNames, ?_⟩
  intro h
  fun_induction Frame.sameNames es fs with
  | case1 => rfl
  | case2 a _ rest b _ more ih =>
      rw [List.map_cons, List.map_cons, List.cons.injEq] at h
      rw [ih h.2, Bool.and_true, beq_iff_eq]
      exact h.1
  | case3 es fs hnil hcons =>
      cases es with
      | nil =>
          cases fs with
          | nil => exact absurd rfl (hnil rfl)
          | cons b more => cases h
      | cons a rest =>
          cases fs with
          | nil => cases h
          | cons b more => exact absurd rfl (hcons a.1 a.2 rest b.1 b.2 more rfl)

theorem Frame.Alike.commit (h : f.Alike g) {f' g' : Frame} (h' : f'.Alike g') :
    (f.commit f').Alike (g.commit g') := by
  have hsame : sameNames f.bindings f'.bindings = true ↔
      sameNames g.bindings g'.bindings = true := by
    rw [sameNames_iff, sameNames_iff, alike_names h.bindings, alike_names h'.bindings]
  unfold Frame.commit
  by_cases hc : sameNames f.bindings f'.bindings = true
  · rw [if_pos hc, if_pos (hsame.1 hc)]
    exact h'
  · rw [if_neg hc, if_neg (mt hsame.2 hc)]
    exact ⟨alike_putAll h.bindings h'.bindings⟩

theorem Frame.Alike.bindParams (h : f.Alike g) (params : List String) {xs ys : List Value}
    (hargs : AlikeAll xs ys) :
    (f.bindParams params xs).Alike (g.bindParams params ys) := by
  induction params generalizing f g xs ys with
  | nil => exact h
  | cons param params ih =>
      cases hargs with
      | nil => exact ih (h.insert param (.plain rfl)) .nil
      | cons hfirst hrest => exact ih (h.insert param hfirst) hrest

end Frames

/-! ## Objects -/

/-- Alike keys in the same order, with alike values under them. -/
structure Object.Alike (o p : Object) : Prop where
  keys : Rows (Value.Alike) o.keys p.keys
  values (key : Key) : Option.Rel (Value.Alike) o.values[key]? p.values[key]?

section Objects

variable {o p : Object} {k k' v w : Value}

theorem Object.Alike.empty : ({} : Object).Alike {} where
  keys := .nil
  values key := by simp

theorem Object.Alike.get? (h : o.Alike p) (hkey : k.Alike k') :
    Option.Rel (Value.Alike) (o.get? k) (p.get? k') := by
  rw [Object.get?, Object.get?, hkey.key_eq]
  exact h.values _

theorem rel_isSome {α : Type} {R : α → α → Prop} {x y : Option α} (h : Option.Rel R x y) :
    x.isSome = y.isSome := by
  cases h <;> rfl

theorem Object.Alike.put (h : o.Alike p) (hkey : k.Alike k')
    (hvalue : v.Alike w) : (o.put k v).Alike (p.put k' w) where
  keys := by
    have hcontains : o.values.contains (Key.ofValue k') = p.values.contains (Key.ofValue k') := by
      rw [Std.HashMap.contains_eq_isSome_getElem?, Std.HashMap.contains_eq_isSome_getElem?]
      exact rel_isSome (h.values _)
    simp only [Object.put, hkey.key_eq, hcontains]
    split
    · exact h.keys
    · exact h.keys.push hkey
  values key := by
    simp only [Object.put, Std.HashMap.getElem?_insert, hkey.key_eq]
    split
    · exact .some hvalue
    · exact h.values key

theorem Object.Alike.entries (h : o.Alike p) :
    List.Forall₂ (fun a b => a.1.Alike b.1 ∧ a.2.Alike b.2) o.entries p.entries := by
  refine List.forall₂_map_left_iff.2 (List.forall₂_map_right_iff.2 (h.keys.imp ?_))
  intro k k' hkey
  exact ⟨hkey, rel_getD (h.get? hkey) (.plain rfl)⟩

end Objects

end Scriptlet
