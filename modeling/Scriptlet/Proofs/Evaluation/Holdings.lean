/-
# Stores that hold values of one kind

A property of values spreads over a store: everything that is bound, listed or kept in it
has the property, and each frame binds each name once (`Store.Held`).  Here is what changes
of frames keep of it, whatever the property: binding names, adding a frame, committing to
one and giving one up.
-/
import Scriptlet.Proofs.Evaluation.Library

namespace Scriptlet

/-! ## Frames -/

/-- Every name is bound to a value with the property. -/
def Frame.Binds (P : Value → Prop) (frame : Frame) : Prop :=
  ∀ name v, frame.get? name = some v → P v

section Binds

variable {P : Value → Prop} {frame working : Frame}

theorem Frame.binds_empty : ({} : Frame).Binds P := by
  intro name v hv
  cases hv

theorem Frame.Binds.insert (h : frame.Binds P) {v : Value} (hv : P v) (name : String) :
    (frame.insert name v).Binds P := by
  intro other w hw
  rw [Frame.get?_insert] at hw
  split at hw
  · cases hw
    exact hv
  · exact h other w hw

theorem Frame.Binds.commit (h : frame.Binds P) (hworking : working.Binds P)
    (hd : working.Distinct) : (frame.commit working).Binds P := by
  intro name v hv
  rw [Frame.get?_commit hd] at hv
  cases hw : working.get? name with
  | some w =>
      rw [hw] at hv
      cases hv
      exact hworking name _ hw
  | none =>
      rw [hw] at hv
      exact h name v hv

theorem Frame.Binds.bindParams (hP : Hereditary P) (h : frame.Binds P) (params : List String)
    {args : List Value} (hargs : ∀ v ∈ args, P v) : (frame.bindParams params args).Binds P := by
  fun_induction Frame.bindParams frame params args with
  | case1 => exact h
  | case2 frame param params ih => exact ih (h.insert (hP.plain rfl) param) hargs
  | case3 frame param params arg args ih =>
      obtain ⟨harg, hrest⟩ := List.forall_mem_cons.1 hargs
      exact ih (h.insert harg param) hrest

theorem Frame.binds_ofBindings {bindings : List (String × Value)} (h : ∀ b ∈ bindings, P b.2) :
    (Frame.ofBindings bindings).Binds P := by
  have putAll (bindings : List (String × Value)) (h : ∀ b ∈ bindings, P b.2)
      (frame : Frame) (hframe : frame.Binds P) :
      Frame.Binds P ⟨Entries.putAll (· == ·) frame.bindings bindings⟩ := by
    induction bindings generalizing frame with
    | nil => exact hframe
    | cons b rest ih =>
        obtain ⟨hb, hrest⟩ := List.forall_mem_cons.1 h
        exact ih hrest (frame.insert b.1 b.2) (hframe.insert hb b.1)
  exact putAll bindings h {} Frame.binds_empty

end Binds

/-! ## Stores -/

/-- Everything in the store has the property, and each frame binds each name once. -/
structure Store.Held (P : Value → Prop) (s : Store) : Prop where
  holds : s.Holds P s.frames
  distinct (ref : FrameRef) : (s.frame ref).Distinct

section Held

variable {P P' : Value → Prop} {s s' : Store}

theorem Store.Held.binds (h : s.Held P) (ref : FrameRef) : (s.frame ref).Binds P := by
  intro _ _
  exact h.holds.bound

theorem Store.Held.mono (h : s.Held P) (hP : ∀ v, P v → P' v) : s.Held P' where
  holds := {
    frames := rfl
    bound := fun hv => hP _ (h.holds.bound hv)
    listed := fun hv => hP _ (h.holds.listed hv)
    keyed := fun hk => hP _ (h.holds.keyed hk)
    kept := fun hv => hP _ (h.holds.kept hv)
    hosted := fun hv => hP _ (h.holds.hosted hv) }
  distinct := h.distinct

theorem Store.Held.withFrames (h : s.Held P) (hlists : s'.lists = s.lists)
    (hobjects : s'.objects = s.objects) (hhosted : s'.hosted = s.hosted)
    (hbinds : ∀ ref, (s'.frame ref).Binds P) (hdistinct : ∀ ref, (s'.frame ref).Distinct) :
    s'.Held P where
  holds := {
    frames := rfl
    bound := fun {ref name v} hv => hbinds ref name v hv
    listed := fun {ref v} hv => by
      rw [Store.list, hlists] at hv
      exact h.holds.listed hv
    keyed := fun {ref key} hk => by
      rw [Store.object, hobjects] at hk
      exact h.holds.keyed hk
    kept := fun {ref key v} hv => by
      rw [Store.object, hobjects] at hv
      exact h.holds.kept hv
    hosted := fun hv => h.holds.hosted (hhosted ▸ hv) }
  distinct := hdistinct

theorem Store.Held.modifyFrame (h : s.Held P) (ref : FrameRef) {f : Frame → Frame}
    (hbinds : (f (s.frame ref)).Binds P) (hdistinct : (f (s.frame ref)).Distinct) :
    (s.modifyFrame ref f).Held P := by
  refine h.withFrames rfl rfl rfl ?_ ?_
  · intro other
    rw [Store.frame_modifyFrame]
    split
    · next hcond => exact hcond.1 ▸ hbinds
    · exact h.binds other
  · intro other
    rw [Store.frame_modifyFrame]
    split
    · next hcond => exact hcond.1 ▸ hdistinct
    · exact h.distinct other

theorem Store.Held.addFrame (h : s.Held P) {frame : Frame} (hbinds : frame.Binds P)
    (hdistinct : frame.Distinct) : (s.addFrame frame).Held P := by
  refine h.withFrames rfl rfl rfl ?_ (Store.distinct_addFrame h.distinct hdistinct)
  intro other
  rw [Store.frame_addFrame]
  split
  · exact hbinds
  · exact h.binds other

theorem Store.Held.release (h : s.Held P) (ref : FrameRef) : (s.release ref).Held P := by
  have hrest : (s.release ref).lists = s.lists ∧ (s.release ref).objects = s.objects ∧
      (s.release ref).hosted = s.hosted := by
    unfold Store.release
    split
    · exact ⟨rfl, rfl, rfl⟩
    · exact ⟨rfl, rfl, rfl⟩
  refine h.withFrames hrest.1 hrest.2.1 hrest.2.2 ?_ (Store.distinct_release h.distinct ref)
  intro other
  by_cases hother : ref = other
  · subst hother
    rcases s.frame_release_self ref with heq | heq
    · exact heq ▸ h.binds ref
    · exact heq ▸ Frame.binds_empty
  · rw [Store.frame_release_of_ne hother]
    exact h.binds other

/-- A store with nothing in it holds only what every store does. -/
theorem Store.held_empty (world : World) : ({ world := world } : Store).Held P := by
  have frames (ref : FrameRef) : ({ world := world } : Store).frame ref = {} := rfl
  refine ⟨⟨rfl, ?_, ?_, ?_, ?_, nofun⟩, ?_⟩
  · intro ref name v hv
    rw [frames] at hv
    cases hv
  · intro ref v hv
    simp [Store.list] at hv
  · intro ref k hk
    simp [Store.object] at hk
  · intro ref k v hv
    simp [Store.object, Object.get?] at hv
  · intro ref
    exact Frame.distinct_empty

end Held

end Scriptlet
