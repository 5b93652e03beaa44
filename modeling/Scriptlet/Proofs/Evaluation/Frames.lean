/-
# Laws of frames

What a name is bound to after one binding, after the parameters of a call and
after a commit, and which frame of a store each change of the store reaches.

A commit writes every binding of the working copy, so what it makes of a name
is read off the copy first and off the old frame only where the copy does not
bind the name.  That needs each name to be bound once in the copy; `Distinct`
says so, and everything that changes a frame keeps it.
-/
import Scriptlet.Value.Store

namespace Scriptlet

namespace Entries

variable {ν : Type}

theorem get?_put (entries : List (String × ν)) (key other : String) (value : ν) :
    get? (· == ·) other (put (· == ·) key value entries) =
      if key = other then some value else get? (· == ·) other entries := by
  induction entries with
  | nil => simp [put, get?]
  | cons entry rest ih =>
      obtain ⟨k, v⟩ := entry
      by_cases hk : k = key
      · subst hk
        simp only [put, beq_self_eq_true, if_true, get?, beq_iff_eq]
        split
        · rfl
        · rfl
      · have hk' : (k == key) = false := beq_eq_false_iff_ne.2 hk
        simp only [put, hk', get?, beq_iff_eq, Bool.false_eq_true, if_false, ih]
        by_cases ho : k = other
        · have hne : key ≠ other := fun h => hk (ho.trans h.symm)
          simp only [ho, if_true, hne, if_false]
        · simp only [ho, if_false]

theorem get?_eq_none_iff {entries : List (String × ν)} {key : String} :
    get? (· == ·) key entries = none ↔ key ∉ entries.map Prod.fst := by
  induction entries with
  | nil => simp [get?]
  | cons entry rest ih =>
      obtain ⟨k, v⟩ := entry
      by_cases hk : k = key
      · simp [get?, hk]
      · have hk' : (k == key) = false := beq_eq_false_iff_ne.2 hk
        simp only [get?, hk', Bool.false_eq_true, if_false, ih, List.map_cons, List.mem_cons,
          not_or, Ne.symm hk, not_false_eq_true, true_and]

theorem mem_keys_of_mem_put {entries : List (String × ν)} {key other : String} {value : ν}
    (h : other ∈ (put (· == ·) key value entries).map Prod.fst) :
    other = key ∨ other ∈ entries.map Prod.fst := by
  by_cases hk : key = other
  · exact .inl hk.symm
  · refine .inr (Decidable.not_not.1 ?_)
    intro hno
    have hnone := get?_put entries key other value
    rw [if_neg hk, get?_eq_none_iff.2 hno] at hnone
    exact get?_eq_none_iff.1 hnone h

theorem nodup_put {entries : List (String × ν)} (h : (entries.map Prod.fst).Nodup)
    (key : String) (value : ν) : ((put (· == ·) key value entries).map Prod.fst).Nodup := by
  induction entries with
  | nil => simp [put]
  | cons entry rest ih =>
      obtain ⟨k, v⟩ := entry
      rw [List.map_cons, List.nodup_cons] at h
      by_cases hk : k = key
      · subst hk
        simpa only [put, beq_self_eq_true, if_true, List.map_cons, List.nodup_cons] using h
      · have hk' : (k == key) = false := beq_eq_false_iff_ne.2 hk
        simp only [put, hk', Bool.false_eq_true, if_false, List.map_cons, List.nodup_cons]
        refine ⟨?_, ih h.2⟩
        intro hmem
        rcases mem_keys_of_mem_put hmem with rfl | hmem
        · exact hk rfl
        · exact h.1 hmem

theorem nodup_putAll {entries : List (String × ν)} (h : (entries.map Prod.fst).Nodup)
    (news : List (String × ν)) : ((putAll (· == ·) entries news).map Prod.fst).Nodup := by
  induction news generalizing entries with
  | nil => exact h
  | cons entry rest ih => exact ih (nodup_put h entry.1 entry.2)

/-- Where each key comes once among the new entries, they win over the old ones. -/
theorem get?_putAll {entries news : List (String × ν)} (h : (news.map Prod.fst).Nodup)
    (key : String) :
    get? (· == ·) key (putAll (· == ·) entries news) =
      (get? (· == ·) key news).or (get? (· == ·) key entries) := by
  induction news generalizing entries with
  | nil => rfl
  | cons entry rest ih =>
      obtain ⟨k, v⟩ := entry
      rw [List.map_cons, List.nodup_cons] at h
      show get? (· == ·) key (putAll (· == ·) (put (· == ·) k v entries) rest) = _
      rw [ih h.2, get?_put]
      by_cases hk : k = key
      · subst hk
        have hnone : get? (· == ·) k rest = none := get?_eq_none_iff.2 h.1
        simp [hnone, get?]
      · simp [get?, hk]

/-- New entries without a key leave what the old ones hold under it. -/
theorem get?_putAll_of_none {entries news : List (String × ν)} {key : String}
    (h : get? (· == ·) key news = none) :
    get? (· == ·) key (putAll (· == ·) entries news) = get? (· == ·) key entries := by
  induction news generalizing entries with
  | nil => rfl
  | cons entry rest ih =>
      obtain ⟨k, v⟩ := entry
      rw [get?_eq_none_iff, List.map_cons, List.mem_cons, not_or] at h
      show get? (· == ·) key (putAll (· == ·) (put (· == ·) k v entries) rest) = _
      rw [ih (get?_eq_none_iff.2 h.2), get?_put, if_neg (Ne.symm h.1)]

end Entries

namespace Frame

theorem get?_insert (frame : Frame) (name other : String) (value : Value) :
    (frame.insert name value).get? other =
      if name = other then some value else frame.get? other :=
  Entries.get?_put frame.bindings name other value

theorem get?_eq_none_iff {frame : Frame} {name : String} :
    frame.get? name = none ↔ name ∉ frame.names := Entries.get?_eq_none_iff

theorem distinct_empty : ({} : Frame).Distinct := List.nodup_nil

theorem Distinct.insert {frame : Frame} (h : frame.Distinct) (name : String) (value : Value) :
    (frame.insert name value).Distinct := Entries.nodup_put h name value

theorem distinct_ofBindings (bindings : List (String × Value)) :
    (ofBindings bindings).Distinct := by
  have hempty : (([] : List (String × Value)).map Prod.fst).Nodup := List.nodup_nil
  exact Entries.nodup_putAll hempty bindings

/-! ## Commits -/

theorem names_eq_of_sameNames {xs ys : List (String × Value)} (h : sameNames xs ys = true) :
    xs.map Prod.fst = ys.map Prod.fst := by
  fun_induction sameNames xs ys with
  | case1 => rfl
  | case2 a _ rest b _ more ih =>
      rw [Bool.and_eq_true, beq_iff_eq] at h
      rw [List.map_cons, List.map_cons, ih h.2]
      exact congrArg (· :: _) h.1
  | case3 => cases h

/-- A commit binds a name to what the copy binds it to, and only a name that the
copy does not bind to what the frame bound it to. -/
theorem get?_commit {working : Frame} (h : working.Distinct) (frame : Frame) (name : String) :
    (frame.commit working).get? name = (working.get? name).or (frame.get? name) := by
  unfold commit
  split
  · next hsame =>
      cases hw : working.get? name with
      | some v => rfl
      | none =>
          have hnames : frame.names = working.names := names_eq_of_sameNames hsame
          rw [Option.none_or, get?_eq_none_iff.2 (hnames ▸ get?_eq_none_iff.1 hw)]
  · exact Entries.get?_putAll h name

theorem get?_commit_of_none {frame working : Frame} {name : String}
    (h : working.get? name = none) : (frame.commit working).get? name = frame.get? name := by
  unfold commit
  split
  · next hsame =>
      have hnames : frame.names = working.names := names_eq_of_sameNames hsame
      rw [h, get?_eq_none_iff.2 (hnames ▸ get?_eq_none_iff.1 h)]
  · exact Entries.get?_putAll_of_none h

theorem Distinct.commit {frame : Frame} (h : frame.Distinct) (working : Frame) :
    (frame.commit working).Distinct := by
  unfold Frame.commit
  split
  · next hsame =>
      have hnames : frame.names = working.names := names_eq_of_sameNames hsame
      unfold Distinct
      rwa [← hnames]
  · exact Entries.nodup_putAll h working.bindings

/-! ## Parameters -/

theorem get?_bindParams {name : String} {params : List String} (h : name ∉ params)
    (frame : Frame) (args : List Value) :
    (frame.bindParams params args).get? name = frame.get? name := by
  fun_induction bindParams frame params args with
  | case1 => rfl
  | case2 frame param params ih =>
      rw [List.mem_cons, not_or] at h
      rw [ih h.2, get?_insert, if_neg (Ne.symm h.1)]
  | case3 frame param params arg args ih =>
      rw [List.mem_cons, not_or] at h
      rw [ih h.2, get?_insert, if_neg (Ne.symm h.1)]

theorem Distinct.bindParams {frame : Frame} (h : frame.Distinct) (params : List String)
    (args : List Value) : (frame.bindParams params args).Distinct := by
  fun_induction Frame.bindParams frame params args with
  | case1 => exact h
  | case2 frame param params ih => exact ih (h.insert _ _)
  | case3 frame param params arg args ih => exact ih (h.insert _ _)

end Frame

/-! ## Frames in a store -/

/-- What stands in one place after a change in one place. -/
theorem getD_modify {α : Type} (xs : Array α) (i j : Nat) (f : α → α) (d : α) :
    (xs.modify i f).getD j d = if i = j ∧ i < xs.size then f (xs.getD j d) else xs.getD j d := by
  simp only [Array.getD_eq_getD_getElem?, Array.getElem?_modify]
  by_cases h : i = j
  · subst h
    by_cases hlt : i < xs.size
    · simp [hlt]
    · simp [hlt]
  · simp [h]

namespace Store

theorem frame_modifyFrame (s : Store) (ref other : FrameRef) (f : Frame → Frame) :
    (s.modifyFrame ref f).frame other =
      if ref = other ∧ ref < s.frames.size then f (s.frame other) else s.frame other := by
  exact getD_modify _ ref other f _

theorem frame_modifyFrame_self {s : Store} {ref : FrameRef} (h : ref < s.frames.size)
    (f : Frame → Frame) : (s.modifyFrame ref f).frame ref = f (s.frame ref) := by
  rw [frame_modifyFrame, if_pos ⟨rfl, h⟩]

theorem frame_modifyFrame_of_ne {s : Store} {ref other : FrameRef} (h : ref ≠ other)
    (f : Frame → Frame) : (s.modifyFrame ref f).frame other = s.frame other := by
  rw [frame_modifyFrame, if_neg fun hc => h hc.1]

@[simp] theorem size_modifyFrame (s : Store) (ref : FrameRef) (f : Frame → Frame) :
    (s.modifyFrame ref f).frames.size = s.frames.size := Array.size_modify ..

@[simp] theorem size_release (s : Store) (ref : FrameRef) :
    (s.release ref).frames.size = s.frames.size := by
  unfold release
  split
  · rfl
  · exact Array.size_setIfInBounds ..

theorem frame_release_of_ne {s : Store} {ref other : FrameRef} (h : ref ≠ other) :
    (s.release ref).frame other = s.frame other := by
  unfold release
  split
  · rfl
  · simp only [setFrame, frame, Array.getD_eq_getD_getElem?, Array.getElem?_setIfInBounds, if_neg h]

/-- A frame that is given up either keeps its bindings or loses all of them. -/
theorem frame_release_self (s : Store) (ref : FrameRef) :
    (s.release ref).frame ref = s.frame ref ∨ (s.release ref).frame ref = {} := by
  unfold release
  split
  · exact .inl rfl
  · simp only [setFrame, frame, Array.getD_eq_getD_getElem?, Array.getElem?_setIfInBounds, if_true]
    split
    · exact .inr rfl
    · next h => exact .inl (by rw [Array.getElem?_eq_none (Nat.le_of_not_lt h)])

theorem distinct_release {s : Store} (h : ∀ ref, (s.frame ref).Distinct) (ref other : FrameRef) :
    ((s.release ref).frame other).Distinct := by
  by_cases hother : ref = other
  · subst hother
    rcases s.frame_release_self ref with hsame | hempty
    · exact hsame ▸ h ref
    · exact hempty ▸ Frame.distinct_empty
  · rw [frame_release_of_ne hother]
    exact h other

/-- The store with one frame more. -/
def addFrame (s : Store) (frame : Frame) : Store := { s with frames := s.frames.push frame }

@[simp] theorem size_addFrame (s : Store) (frame : Frame) :
    (s.addFrame frame).frames.size = s.frames.size + 1 := Array.size_push ..

theorem frame_addFrame_of_lt {s : Store} {ref : FrameRef} (h : ref < s.frames.size)
    (frame : Frame) : (s.addFrame frame).frame ref = s.frame ref := by
  simp only [addFrame, Store.frame, Array.getD_eq_getD_getElem?, Array.getElem?_push,
    if_neg (Nat.ne_of_lt h)]

theorem frame_addFrame_self (s : Store) (frame : Frame) :
    (s.addFrame frame).frame s.frames.size = frame := by
  simp only [addFrame, Store.frame, Array.getD_eq_getD_getElem?, Array.getElem?_push, if_true,
    Option.getD_some]

theorem frame_addFrame (s : Store) (frame : Frame) (ref : FrameRef) :
    (s.addFrame frame).frame ref = if ref = s.frames.size then frame else s.frame ref := by
  split
  · next href => exact href ▸ frame_addFrame_self s frame
  · next href =>
      simp only [addFrame, Store.frame, Array.getD_eq_getD_getElem?, Array.getElem?_push,
        if_neg href]

theorem distinct_addFrame {s : Store} (h : ∀ ref, (s.frame ref).Distinct) {frame : Frame}
    (hframe : frame.Distinct) (ref : FrameRef) : ((s.addFrame frame).frame ref).Distinct := by
  rw [frame_addFrame]
  split
  · exact hframe
  · exact h ref

end Store

end Scriptlet
