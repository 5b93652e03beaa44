/-
# What `==` tells apart

Plain data are nothing, truth values, integers, texts, and lists and objects of
plain data.  Two of them have the same structure when they are built alike, down
to equal leaves; what counts as an equal leaf is a parameter.

    `sameLeaf`     tells truth values from numbers: `true` is not `1`
    `looseLeaf`    lets a truth value pass for 0 or 1

## What `==` decides

`==` looks for truth values at the top only.  Behind that it compares by the
loose leaves, at every depth: so it is the strict structure that it decides
exactly where no truth value faces anything else inside the values (`Store.Faces`).  A no is
always right; a yes may be one about `[true]` and `[1]` (`equality_on_plain_data`).

## How

Comparing looks into values only so deep, and its answer has three cases: yes, no, and that
the limit was met.  `Decides` is what each case has to mean, and goes through rows of items
and through entries of objects; the limit of the store is met only by values that are both
nested as deeply as it.

Integers that are marked as large are numbers like others here.  Floats are left out, since
they are not equal to themselves where they are no numbers, and frames, which are compared
with objects by what they bind.
-/
import Mathlib.Data.List.Perm.Subperm
import Scriptlet.Proofs.Evaluation.Library

namespace Scriptlet

/-! ## Objects under names -/

/-- An object whose keys are texts, with what it holds under each of them. -/
structure Object.Named (object : Object) (names : List String) : Prop where
  keys : object.keys.toList = names.map Value.text
  nodup : names.Nodup
  bound : ∀ name, (object.get? (.text name)).isSome ↔ name ∈ names

namespace Object

variable {object other : Object} {names more : List String}

theorem Named.empty : ({} : Object).Named [] where
  keys := rfl
  nodup := .nil
  bound name := by simp [get?]

theorem Named.put (h : object.Named names) {name : String} (hname : name ∉ names) (v : Value) :
    (object.put (.text name) v).Named (names ++ [name]) where
  keys := by
    have hunknown : object.values.contains (Key.ofValue (.text name)) = false := by
      have hnone := (h.bound name).not.2 hname
      rwa [get?, Std.HashMap.isSome_getElem?_eq_contains, Bool.not_eq_true] at hnone
    simp [Object.put, hunknown, h.keys]
  nodup := by
    rw [List.nodup_append]
    refine ⟨h.nodup, List.pairwise_singleton _ name, fun a ha b hb => ?_⟩
    rintro rfl
    exact hname (List.mem_singleton.1 hb ▸ ha)
  bound asked := by
    rw [get?_put, List.mem_append, List.mem_singleton, ← h.bound asked]
    by_cases hasked : name = asked
    · simp [hasked]
    · have hkeys : Key.ofValue (.text name) ≠ Key.ofValue (.text asked) := by
        simp [Key.ofValue, hasked]
      simp [hkeys, Ne.symm hasked]

theorem Named.entries (h : object.Named names) :
    object.entries =
      names.map fun name => (.text name, (object.get? (.text name)).getD .nothing) := by
  rw [Object.entries, h.keys, List.map_map]
  rfl

/-- Objects that hold something under the same names hold equally many. -/
theorem Named.length_eq (h : object.Named names) (h' : other.Named more)
    (hsame : ∀ name,
      (object.get? (.text name)).isSome = (other.get? (.text name)).isSome) :
    names.length = more.length := by
  have hmem (name : String) : name ∈ names ↔ name ∈ more := by
    rw [← h.bound, ← h'.bound, hsame]
  exact ((List.perm_ext_iff_of_nodup h.nodup h'.nodup).2 hmem).length_eq

/-- An object that holds something under all names of another, and holds equally many,
holds nothing else. -/
theorem Named.isSome_eq (h : object.Named names) (h' : other.Named more)
    (hlength : names.length = more.length) (hsub : names ⊆ more) (name : String) :
    (object.get? (.text name)).isSome = (other.get? (.text name)).isSome := by
  have hperm : names.Perm more :=
    (List.subperm_of_subset h.nodup hsub).perm_of_length_le (Nat.le_of_eq hlength.symm)
  rw [Bool.eq_iff_iff, h.bound, h'.bound, hperm.mem_iff]

end Object

/-! ## Plain data -/

namespace Value

/-- A truth value. -/
def isBool : Value → Bool
  | bool _ => true
  | _ => false

/-- Plain data with nothing inside. -/
inductive Leaf : Value → Prop
  | nothing : Leaf .nothing
  | bool (b : Bool) : Leaf (.bool b)
  | int (n : Int) : Leaf (.int n)
  | big (n : Int) : Leaf (.big n)
  | text (x : String) : Leaf (.text x)

/-- The same leaf: integers are equal as numbers, truth values only to each other. -/
def sameLeaf : Value → Value → Bool
  | nothing, nothing => true
  | bool x, bool y => x == y
  | int m, int n | int m, big n | big m, int n | big m, big n => m == n
  | text x, text y => x == y
  | _, _ => false

/-- The same leaf, where a truth value passes for 0 or 1. -/
def looseLeaf (a b : Value) : Bool :=
  a.sameLeaf b || (a.integer?.isSome && a.integer? == b.integer?)

variable {a b : Value}

theorem isBool_eq_of_sameLeaf (h : a.sameLeaf b = true) : a.isBool = b.isBool := by
  unfold sameLeaf at h
  split at h
  case h_8 => cases h
  all_goals rfl

theorem looseLeaf_of_sameLeaf (h : a.sameLeaf b = true) : a.looseLeaf b = true := by
  rw [looseLeaf, h, Bool.true_or]

theorem sameLeaf_of_looseLeaf (h : a.looseLeaf b = true) (hbool : a.isBool = b.isBool) :
    a.sameLeaf b = true := by
  cases a <;> cases b <;> simp_all [looseLeaf, sameLeaf, isBool, integer?]
  -- Two truth values with the same number are the same.
  case bool.bool x y => cases x <;> cases y <;> simp_all

theorem Leaf.sameLeaf_self (h : a.Leaf) : a.sameLeaf a = true := by
  cases h <;> simp [sameLeaf]

theorem compare_beq_eq (m n : Int) : (compare m n == .eq) = (m == n) := by
  rw [Bool.eq_iff_iff, beq_iff_eq, beq_iff_eq, Std.compare_eq_iff_eq]

theorem Leaf.shallowEqual_eq (ha : a.Leaf) (hb : b.Leaf) : a.shallowEqual b = a.looseLeaf b := by
  cases ha <;> cases hb <;>
    simp [shallowEqual, looseLeaf, sameLeaf, integer?, number?, Number.equal, Number.compare?,
      compare_beq_eq]
  case bool.bool x y => rintro rfl; rfl

end Value

/-- Plain data without cycles, at most so many containers deep. -/
inductive Store.Nested (s : Store) : Nat → Value → Prop
  | leaf {n : Nat} {v : Value} (h : v.Leaf) : Nested s n v
  | list {n : Nat} {ref : ListRef} (hitems : ∀ v ∈ (s.list ref).toList, Nested s n v) :
      Nested s (n + 1) (.list ref)
  | object {n : Nat} {ref : ObjectRef} {names : List String} (hnamed : (s.object ref).Named names)
      (hvalues : ∀ name v, (s.object ref).get? (.text name) = some v → Nested s n v) :
      Nested s (n + 1) (.object ref)

/-- Values that are built alike: lists item by item, objects name by name in any order,
down to leaves that count as the same. -/
inductive Store.SameStructure (s : Store) (leaf : Value → Value → Bool) : Value → Value → Prop
  | leaf {a b : Value} (h : leaf a b = true) : SameStructure s leaf a b
  | list {r q : ListRef} (hsize : (s.list r).size = (s.list q).size)
      (hitems : ∀ p ∈ (s.list r).toList.zip (s.list q).toList, SameStructure s leaf p.1 p.2) :
      SameStructure s leaf (.list r) (.list q)
  | object {r q : ObjectRef}
      (hnames : ∀ name, ((s.object r).get? (.text name)).isSome =
        ((s.object q).get? (.text name)).isSome)
      (hvalues : ∀ name v w, (s.object r).get? (.text name) = some v →
        (s.object q).get? (.text name) = some w → SameStructure s leaf v w) :
      SameStructure s leaf (.object r) (.object q)

/-- A truth value in the place where the other value has something else. -/
inductive Store.Faces (s : Store) : Value → Value → Prop
  | here {a b : Value} (h : a.isBool ≠ b.isBool) : Faces s a b
  | item {r q : ListRef} {p : Value × Value}
      (hp : p ∈ (s.list r).toList.zip (s.list q).toList) (h : Faces s p.1 p.2) :
      Faces s (.list r) (.list q)
  | entry {r q : ObjectRef} {name : String} {v w : Value}
      (hv : (s.object r).get? (.text name) = some v)
      (hw : (s.object q).get? (.text name) = some w) (h : Faces s v w) :
      Faces s (.object r) (.object q)

namespace Store

variable {s : Store} {a b : Value} {m n depth : Nat}

theorem SameStructure.not_faces (h : s.SameStructure Value.sameLeaf a b) : ¬s.Faces a b := by
  intro hfaces
  induction hfaces with
  | here hbool =>
      cases h with
      | leaf hleaf => exact hbool (Value.isBool_eq_of_sameLeaf hleaf)
      | list => exact hbool rfl
      | object => exact hbool rfl
  | item hp _ ih =>
      cases h with
      | leaf hleaf => simp [Value.sameLeaf] at hleaf
      | list _ hitems => exact ih (hitems _ hp)
  | entry hv hw _ ih =>
      cases h with
      | leaf hleaf => simp [Value.sameLeaf] at hleaf
      | object _ hvalues => exact ih (hvalues _ _ _ hv hw)

/-- The strict structure is the loose one, less the places where a truth value faces
something else. -/
theorem sameStructure_strict_iff :
    s.SameStructure Value.sameLeaf a b ↔
      s.SameStructure Value.looseLeaf a b ∧ ¬s.Faces a b := by
  constructor
  · intro h
    refine ⟨?_, h.not_faces⟩
    induction h with
    | leaf hleaf => exact .leaf (Value.looseLeaf_of_sameLeaf hleaf)
    | list hsize _ ih => exact .list hsize ih
    | object hnames _ ih => exact .object hnames ih
  · rintro ⟨hloose, hfaces⟩
    induction hloose with
    | leaf hleaf =>
        have hbool := not_not.1 fun hbool => hfaces (.here hbool)
        exact .leaf (Value.sameLeaf_of_looseLeaf hleaf hbool)
    | list hsize _ ih => exact .list hsize fun p hp => ih p hp fun h => hfaces (.item hp h)
    | object hnames _ ih =>
        exact .object hnames fun name v w hv hw =>
          ih name v w hv hw fun h => hfaces (.entry hv hw h)

theorem Nested.sameStructure_self (h : s.Nested n a) : s.SameStructure Value.looseLeaf a a := by
  induction h with
  | leaf hleaf => exact .leaf (Value.looseLeaf_of_sameLeaf hleaf.sameLeaf_self)
  | list _ ih =>
      refine .list rfl fun p hp => ?_
      obtain ⟨i, hi, rfl⟩ := List.getElem_of_mem hp
      rw [List.getElem_zip]
      exact ih _ (List.getElem_mem _)
  | object _ _ ih =>
      refine .object (fun _ => rfl) fun name v w hv hw => ?_
      obtain rfl := Option.some.inj (hv.symm.trans hw)
      exact ih name v hv

theorem sameStructure_list_iff {r q : ListRef} :
    s.SameStructure Value.looseLeaf (.list r) (.list q) ↔
      (s.list r).size = (s.list q).size ∧
        ∀ p ∈ (s.list r).toList.zip (s.list q).toList, s.SameStructure Value.looseLeaf p.1 p.2 := by
  refine ⟨fun h => ?_, fun h => .list h.1 h.2⟩
  cases h with
  | leaf hleaf => cases hleaf
  | list hsize hitems => exact ⟨hsize, hitems⟩

/-- Objects under names have the same structure when there are equally many names and each
name of the first has a value of the same structure in the second. -/
theorem sameStructure_object_iff {r q : ObjectRef} {names more : List String}
    (hr : (s.object r).Named names) (hq : (s.object q).Named more) :
    s.SameStructure Value.looseLeaf (.object r) (.object q) ↔
      names.length = more.length ∧
        ∀ name ∈ names, ∃ w, (s.object q).get? (.text name) = some w ∧
          s.SameStructure Value.looseLeaf (((s.object r).get? (.text name)).getD .nothing) w := by
  constructor
  · intro h
    cases h with
    | leaf hleaf => cases hleaf
    | object hnames hvalues =>
        refine ⟨hr.length_eq hq hnames, fun name hname => ?_⟩
        obtain ⟨v, hv⟩ := Option.isSome_iff_exists.1 ((hr.bound name).2 hname)
        obtain ⟨w, hw⟩ := Option.isSome_iff_exists.1 (hnames name ▸ (hr.bound name).2 hname)
        exact ⟨w, hw, by rw [hv]; exact hvalues name v w hv hw⟩
  · rintro ⟨hlength, hall⟩
    have hsub : names ⊆ more := by
      intro name hname
      obtain ⟨w, hw, -⟩ := hall name hname
      exact (hq.bound name).1 (by rw [hw]; rfl)
    refine .object (hr.isSome_eq hq hlength hsub) fun name v w hv hw => ?_
    obtain ⟨w', hw', hsame⟩ := hall name ((hr.bound name).1 (by rw [hv]; rfl))
    rw [hv] at hsame
    rwa [← Option.some.inj (hw.symm.trans hw')] at hsame

/-! ## What comparing decides -/

/-- An answer that is right about `holds`, and is left open only where `deep` is true. -/
def Decides (holds deep : Prop) : Option Bool → Prop
  | some answer => answer = true ↔ holds
  | none => deep

section Decides

variable {equal : Value → Value → Option Bool} {R : Value → Value → Prop} {deep : Prop}

theorem Decides.itemEqual {holds : Prop} (h : Decides holds deep (equal a b))
    (hidentical : a.identical b = true → holds) : Decides holds deep (itemEqual equal a b) := by
  rw [Store.itemEqual]
  split
  case isTrue hid => exact iff_of_true rfl (hidentical hid)
  case isFalse => exact h

/-- Going on only where the first answer is yes decides both. -/
theorem Decides.andThen {first second : Prop} {o o' : Option Bool} (h : Decides first deep o)
    (h' : Decides second deep o') :
    Decides (first ∧ second) deep (o.bind fun yes => if yes then o' else some false) := by
  match o, h with
  | none, h => exact h
  | some false, h => exact iff_of_false nofun fun hboth => nomatch h.2 hboth.1
  | some true, h =>
      match o', h' with
      | none, h' => exact h'
      | some _, h' => exact h'.trans (and_iff_right (h.1 rfl)).symm

theorem decides_rowEqual {xs ys : List Value}
    (h : ∀ p ∈ xs.zip ys, Decides (R p.1 p.2) deep (itemEqual equal p.1 p.2)) :
    Decides (∀ p ∈ xs.zip ys, R p.1 p.2) deep (rowEqual equal xs ys) := by
  induction xs generalizing ys with
  | nil => simp [rowEqual, Decides]
  | cons x xs ih =>
      cases ys with
      | nil => simp [rowEqual, Decides]
      | cons y ys =>
          rw [List.zip_cons_cons, List.forall_mem_cons] at h ⊢
          exact h.1.andThen (ih h.2)

theorem decides_entriesEqual {find : Value → Option Value} {value : String → Value}
    {names : List String}
    (h : ∀ name ∈ names, ∀ w, find (.text name) = some w →
      Decides (R (value name) w) deep (itemEqual equal (value name) w)) :
    Decides (∀ name ∈ names, ∃ w, find (.text name) = some w ∧ R (value name) w) deep
      (entriesEqual equal find (names.map fun name => (.text name, value name))) := by
  induction names with
  | nil => simp [entriesEqual, Decides]
  | cons name names ih =>
      rw [List.forall_mem_cons] at h ⊢
      rw [List.map_cons, entriesEqual]
      cases hfind : find (.text name) with
      | none => simp [Decides]
      | some w =>
          have hfirst : Decides (∃ w', some w = some w' ∧ R (value name) w') deep
              (itemEqual equal (value name) w) := by
            simpa using h.1 w hfind
          exact hfirst.andThen (ih h.2)

end Decides

theorem Nested.eq_of_identical (h : s.Nested n a) (hid : a.identical b = true) : a = b := by
  cases h with
  | leaf hleaf => cases hleaf <;> cases hid
  | list => cases b <;> simp_all [Value.identical]
  | object => cases b <;> simp_all [Value.identical]

/-- A leaf is compared at once, with whatever it is compared. -/
theorem decides_of_leaf (h : a.Leaf ∨ b.Leaf) (ha : s.Nested m a) (hb : s.Nested n b)
    (deep : Prop) :
    Decides (s.SameStructure Value.looseLeaf a b) deep (s.equalUpTo (depth + 1) a b) := by
  have hleaf : s.SameStructure Value.looseLeaf a b ↔ a.looseLeaf b = true := by
    refine ⟨fun hsame => ?_, .leaf⟩
    cases hsame with
    | leaf hleaf => exact hleaf
    | list | object => rcases h with h | h <;> cases h
  have hanswer : s.equalUpTo (depth + 1) a b = some (a.looseLeaf b) := by
    cases ha with
    | leaf ha =>
        cases hb with
        | leaf hb =>
            rw [← ha.shallowEqual_eq hb]
            cases ha <;> cases hb <;> rfl
        | list | object => cases ha <;> rfl
    | list | object =>
        cases hb with
        | leaf hb => cases hb <;> rfl
        | list | object => rcases h with h | h <;> cases h
  rw [hanswer, hleaf]
  exact Iff.rfl

/-- Lists are compared item by item, if they are equally long. -/
theorem decides_lists {r q : ListRef} {deep : Prop}
    (hitem : ∀ v ∈ (s.list r).toList, ∀ w ∈ (s.list q).toList,
      Decides (s.SameStructure Value.looseLeaf v w) deep (itemEqual (s.equalUpTo depth) v w)) :
    Decides (s.SameStructure Value.looseLeaf (.list r) (.list q)) deep
      (s.equalUpTo (depth + 1) (.list r) (.list q)) := by
  rw [sameStructure_list_iff, equalUpTo]
  by_cases hsize : (s.list r).size = (s.list q).size
  · simp only [Array.length_toList, hsize, bne_self_eq_false, Bool.false_eq_true, if_false,
      true_and]
    refine decides_rowEqual fun p hp => ?_
    obtain ⟨hv, hw⟩ := List.of_mem_zip hp
    exact hitem p.1 hv p.2 hw
  · simp [Decides, hsize]

theorem equalUpTo_object (r q : ObjectRef) :
    s.equalUpTo (depth + 1) (.object r) (.object q) =
      if (s.object r).entries.length != (s.object q).entries.length then some false
      else entriesEqual (s.equalUpTo depth) (s.object q).get? (s.object r).entries :=
  rfl

/-- Objects are compared name by name, if they hold equally many. -/
theorem decides_objects {r q : ObjectRef} {names more : List String} {deep : Prop}
    (hr : (s.object r).Named names) (hq : (s.object q).Named more)
    (hitem : ∀ name v w, (s.object r).get? (.text name) = some v →
      (s.object q).get? (.text name) = some w →
      Decides (s.SameStructure Value.looseLeaf v w) deep (itemEqual (s.equalUpTo depth) v w)) :
    Decides (s.SameStructure Value.looseLeaf (.object r) (.object q)) deep
      (s.equalUpTo (depth + 1) (.object r) (.object q)) := by
  rw [sameStructure_object_iff hr hq, equalUpTo_object, hr.entries, hq.entries, List.length_map,
    List.length_map]
  by_cases hlength : names.length = more.length
  · simp only [hlength, bne_self_eq_false, Bool.false_eq_true, if_false, true_and]
    refine decides_entriesEqual fun name hname w hw => ?_
    obtain ⟨v, hv⟩ := Option.isSome_iff_exists.1 ((hr.bound name).2 hname)
    rw [hv]
    exact hitem name v w hv hw
  · simp [Decides, hlength]

/-- **Comparing decides the loose structure** of plain data, and gives up only on data that
are nested as deeply as it may look. -/
theorem decides_equalUpTo (depth : Nat) (ha : s.Nested m a) (hb : s.Nested n b) :
    Decides (s.SameStructure Value.looseLeaf a b) (depth ≤ m ∧ depth ≤ n)
      (s.equalUpTo depth a b) := by
  induction depth generalizing m n a b with
  | zero => exact ⟨Nat.zero_le m, Nat.zero_le n⟩
  | succ depth ih =>
      have hitem {m n : Nat} {v w : Value} (hv : s.Nested m v) (hw : s.Nested n w) :
          Decides (s.SameStructure Value.looseLeaf v w) (depth + 1 ≤ m + 1 ∧ depth + 1 ≤ n + 1)
            (itemEqual (s.equalUpTo depth) v w) := by
        rw [Nat.add_le_add_iff_right, Nat.add_le_add_iff_right]
        -- What is the same container counts as equal without a look inside, and rightly.
        refine (ih hv hw).itemEqual fun hid => ?_
        obtain rfl := hv.eq_of_identical hid
        exact hv.sameStructure_self
      have hleaf (h : a.Leaf ∨ b.Leaf) :
          Decides (s.SameStructure Value.looseLeaf a b) (depth + 1 ≤ m ∧ depth + 1 ≤ n)
            (s.equalUpTo (depth + 1) a b) :=
        decides_of_leaf h ha hb _
      cases ha with
      | leaf h => exact hleaf (.inl h)
      | list hr =>
          cases hb with
          | leaf h => exact hleaf (.inr h)
          | list hq => exact decides_lists fun v hv w hw => hitem (hr v hv) (hq w hw)
          | object => exact iff_of_false nofun nofun
      | object hr hvalues =>
          cases hb with
          | leaf h => exact hleaf (.inr h)
          | list => exact iff_of_false nofun nofun
          | object hq hvalues' =>
              exact decides_objects hr hq fun name v w hv hw =>
                hitem (hvalues name v hv) (hvalues' name w hw)

end Store

/-! ## The library's answer -/

section Library

variable {s : Store} {a b : Value} {m n : Nat}

theorem Library.equal_of_isBool (h : a.isBool = true ∨ b.isBool = true) :
    Library.equal a b s = .ok (a.sameLeaf b) s := by
  cases a with
  | bool x => cases b <;> rfl
  | _ =>
      cases b with
      | bool y => rfl
      | _ => simp [Value.isBool] at h

theorem Library.equal_of_not_isBool (ha : a.isBool = false) (hb : b.isBool = false) :
    Library.equal a b = ask fun s => decided (s.equal a b) := by
  unfold equal
  split
  · cases ha
  · cases ha
  · cases hb
  · rfl

/-- A truth value is no container, so its structure is decided at the top. -/
theorem Store.sameStructure_of_isBool (h : a.isBool = true ∨ b.isBool = true) :
    a.isBool = b.isBool ∧ s.SameStructure Value.looseLeaf a b ↔ a.sameLeaf b = true := by
  constructor
  · rintro ⟨hbool, hsame⟩
    cases hsame with
    | leaf hleaf => exact Value.sameLeaf_of_looseLeaf hleaf hbool
    | list | object => rcases h with h | h <;> cases h
  · intro hleaf
    exact ⟨Value.isBool_eq_of_sameLeaf hleaf, .leaf (Value.looseLeaf_of_sameLeaf hleaf)⟩

theorem Library.equal_cases (ha : s.Nested m a) (hb : s.Nested n b) :
    (∃ same : Bool, Library.equal a b s = .ok same s ∧
      (same = true ↔ a.isBool = b.isBool ∧ s.SameStructure Value.looseLeaf a b)) ∨
    (Library.equal a b s = .error .exhausted s ∧ s.world.limits.depth ≤ m ∧
      s.world.limits.depth ≤ n) := by
  by_cases hbool : a.isBool = true ∨ b.isBool = true
  · exact .inl ⟨_, equal_of_isBool hbool, (Store.sameStructure_of_isBool hbool).symm⟩
  · simp only [not_or, Bool.not_eq_true] at hbool
    have hdecides := Store.decides_equalUpTo s.world.limits.depth ha hb
    rw [equal_of_not_isBool hbool.1 hbool.2, hbool.1, hbool.2, ask, Store.equal]
    cases hanswer : s.equalUpTo s.world.limits.depth a b with
    | none =>
        rw [hanswer] at hdecides
        exact .inr ⟨rfl, hdecides⟩
    | some same =>
        rw [hanswer] at hdecides
        exact .inl ⟨same, rfl, hdecides.trans (and_iff_right rfl).symm⟩

end Library

/-- **`==` tells truth values from numbers at the top, and nowhere inside.**  On plain data
of any depth `==` and `!=` answer the opposite, unless both values are nested too deeply to
tell.  The answer of `==` is that of the loose structure, with a look for truth values at the
top; so a yes is right about the strict structure exactly where no truth value faces anything
else, and a no always is. -/
theorem equality_on_plain_data (call : Value → List Value → Run Value) (recorder : RecorderRef)
    {s : Store} {m n : Nat} {a b : Value} (ha : s.Nested m a) (hb : s.Nested n b) :
    (∃ same : Bool,
      LibraryFunction.eq.apply call recorder [a, b] s = .ok (.bool same) s ∧
      LibraryFunction.neq.apply call recorder [a, b] s = .ok (.bool !same) s ∧
      (same = true ↔ a.isBool = b.isBool ∧ s.SameStructure Value.looseLeaf a b) ∧
      (s.SameStructure Value.sameLeaf a b ↔ same = true ∧ ¬s.Faces a b)) ∨
    (LibraryFunction.eq.apply call recorder [a, b] s = .error .exhausted s ∧
      LibraryFunction.neq.apply call recorder [a, b] s = .error .exhausted s ∧
      s.world.limits.depth ≤ m ∧ s.world.limits.depth ≤ n) := by
  have heq : LibraryFunction.eq.apply call recorder [a, b] =
      (do return .bool (← Library.equal a b)) := rfl
  have hneq : LibraryFunction.neq.apply call recorder [a, b] =
      (do return .bool !(← Library.equal a b)) := rfl
  rw [heq, hneq]
  rcases Library.equal_cases ha hb with ⟨same, hequal, hsame⟩ | ⟨hequal, hdeep⟩
  · refine .inl ⟨same, Run.bind_of_ok hequal, Run.bind_of_ok hequal, hsame, ?_⟩
    rw [Store.sameStructure_strict_iff, hsame, and_assoc]
    constructor
    · rintro ⟨hloose, hfaces⟩
      have hbool := not_not.1 fun hbool => hfaces (.here hbool)
      exact ⟨hbool, hloose, hfaces⟩
    · rintro ⟨-, hloose, hfaces⟩
      exact ⟨hloose, hfaces⟩
  · exact .inr ⟨Run.bind_of_error hequal, Run.bind_of_error hequal, hdeep⟩

/-- Two objects with a list under the name `x`: `true` is in the one, 1 in the other. -/
def boolStore : Store where
  lists := #[#[.bool true], #[.int 1]]
  objects := #[Object.put (.text "x") (.list 0) {}, Object.put (.text "x") (.list 1) {}]

theorem Object.get?_single (name : String) (v : Value) :
    (Object.put (.text "x") v {}).get? (.text name) = if "x" = name then some v else none := by
  rw [get?_put]
  simp [Key.ofValue, get?]

theorem Object.eq_of_get?_single {name : String} {v w : Value}
    (h : (Object.put (.text "x") v {}).get? (.text name) = some w) : v = w := by
  rw [get?_single, Option.ite_none_right_eq_some] at h
  exact Option.some.inj h.2

theorem objects_with_true_and_one :
    boolStore.Nested 2 (.object 0) ∧ boolStore.Nested 2 (.object 1) ∧
      ¬boolStore.SameStructure Value.sameLeaf (.object 0) (.object 1) ∧
      LibraryFunction.eq.apply (fun _ _ => pure .nothing) 0 [.object 0, .object 1] boolStore =
        .ok (.bool true) boolStore := by
  have htrue : boolStore.Nested 2 (.object 0) := by
    refine .object (Object.Named.empty.put List.not_mem_nil (.list 0)) fun name v hv => ?_
    obtain rfl := Object.eq_of_get?_single hv
    exact .list fun w hw => .leaf (by rw [List.mem_singleton.1 hw]; exact .bool true)
  have hone : boolStore.Nested 2 (.object 1) := by
    refine .object (Object.Named.empty.put List.not_mem_nil (.list 1)) fun name v hv => ?_
    obtain rfl := Object.eq_of_get?_single hv
    exact .list fun w hw => .leaf (by rw [List.mem_singleton.1 hw]; exact .int 1)
  have hloose : boolStore.SameStructure Value.looseLeaf (.object 0) (.object 1) := by
    refine .object (fun name => ?_) fun name v w hv hw => ?_
    · show (Option.isSome <| Object.get? (.put (.text "x") (.list 0) {}) _) =
        (Option.isSome <| Object.get? (.put (.text "x") (.list 1) {}) _)
      rw [Object.get?_single, Object.get?_single]
      split <;> rfl
    · obtain rfl := Object.eq_of_get?_single hv
      obtain rfl := Object.eq_of_get?_single hw
      exact .list rfl fun p hp => .leaf (by rw [List.mem_singleton.1 hp]; rfl)
  have hfaces : boolStore.Faces (.object 0) (.object 1) :=
    .entry (Object.get?_single "x" (.list 0)) (Object.get?_single "x" (.list 1))
      (.item (List.mem_singleton_self _) (.here nofun))
  rcases equality_on_plain_data (fun _ _ => pure .nothing) 0 htrue hone with
    ⟨same, heq, -, hsame, hstrict⟩ | ⟨-, -, hdeep, -⟩
  · obtain rfl := hsame.2 ⟨rfl, hloose⟩
    exact ⟨htrue, hone, fun h => (hstrict.1 h).2 hfaces, heq⟩
  · exact absurd hdeep (by decide)

end Scriptlet
