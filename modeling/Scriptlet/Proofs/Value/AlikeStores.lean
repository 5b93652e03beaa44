/-
# Stores that differ in places only

Two stores have alike contents when everything in them is alike, recorders aside.
Nothing that scripts can ask about a value tells alike values in such stores
apart: neither comparisons nor its text.

What runners heard may differ between two runs, for one may have begun where more
had been heard.  So two stores are alike by a `Pairing`, which says how the
recorders of the one and of the other go together; letting a runner hear one
thing more on both sides has to respect that.  A pairing may also say something of
the world, which is the same one for both and which no script changes: what is to
be asked of a host that might.
-/
import Scriptlet.Proofs.Value.Alike

namespace Scriptlet

/-- How the recorders of two runs go together, in which worlds. -/
structure Pairing where
  related : Array Recorder → Array Recorder → Prop
  world : World → Prop := fun _ => True
  record {xs ys : Array Recorder} (h : related xs ys) (ref : RecorderRef) (effect : Effect) :
    related (xs.modify ref fun heard => { heard with effects := heard.effects.push effect })
      (ys.modify ref fun heard => { heard with effects := heard.effects.push effect })
  /-- Includes start at the same places. -/
  dirs {xs ys : Array Recorder} (h : related xs ys) (ref : RecorderRef) :
    (xs.getD ref {}).sourceDir = (ys.getD ref {}).sourceDir

/-- The recorders of both runs are the same. -/
def Pairing.same : Pairing where
  related := Eq
  record h ref _ := congrArg (Array.modify · ref _) h
  dirs h ref := congrArg (fun recorders => (recorders.getD ref {}).sourceDir) h

/-- The same store up to the places in closures, recorders aside. -/
structure Store.AlikeContents (s t : Store) : Prop where
  lists : Rows (Rows Value.Alike) s.lists t.lists
  objects : Rows Object.Alike s.objects t.objects
  frames : Rows Frame.Alike s.frames t.frames
  captured : s.captured = t.captured
  hosted : s.hosted.Alike t.hosted
  fresh : s.fresh = t.fresh
  requested : s.requested = t.requested
  world : s.world = t.world

/-- The same store up to the places in closures, with recorders that go together. -/
structure Store.Alike (pairing : Pairing) (s t : Store) : Prop extends Store.AlikeContents s t where
  heard : pairing.related s.recorders t.recorders
  placed : pairing.world t.world

theorem Frame.alike_self (frame : Frame) : frame.Alike frame :=
  ⟨List.forall₂_same.2 fun binding _ => ⟨rfl, binding.2.alike_self⟩⟩

theorem Store.alikeContents_self (s : Store) : s.AlikeContents s where
  lists := List.forall₂_same.2 fun items _ => alikeAll_self items.toList
  objects := List.forall₂_same.2 fun object _ =>
    { keys := alikeAll_self object.keys.toList
      values := fun key => by
        cases object.values[key]? with
        | none => exact .none
        | some v => exact .some v.alike_self }
  frames := List.forall₂_same.2 fun frame _ => frame.alike_self
  captured := rfl
  hosted := s.hosted.alike_self
  fresh := rfl
  requested := rfl
  world := rfl

theorem Store.alike_self (s : Store) : s.Alike .same s :=
  { s.alikeContents_self with heard := rfl, placed := trivial }

/-! ## What is in alike stores -/

section Stores

variable {s t : Store}

theorem Store.AlikeContents.list (h : s.AlikeContents t) (ref : ListRef) :
    Rows (Value.Alike) (s.list ref) (t.list ref) :=
  Rows.getD (R := Rows _) h.lists ref .nil

theorem Store.AlikeContents.object (h : s.AlikeContents t) (ref : ObjectRef) :
    (s.object ref).Alike (t.object ref) := Rows.getD h.objects ref .empty

theorem Store.AlikeContents.frame (h : s.AlikeContents t) (ref : FrameRef) :
    (s.frame ref).Alike (t.frame ref) := Rows.getD h.frames ref .empty

/-- Alike keys with alike values under them. -/
abbrev PairAlike (a b : Value × Value) : Prop :=
  a.1.Alike b.1 ∧ a.2.Alike b.2

variable {a a' b b' : Value}

theorem Store.AlikeContents.entries? (h : s.AlikeContents t) (ha : a.Alike a') :
    Option.Rel (List.Forall₂ PairAlike) (s.entries? a) (t.entries? a') := by
  cases ha with
  | frame ref =>
      refine .some (List.forall₂_map_left_iff.2 (List.forall₂_map_right_iff.2 ?_))
      refine (h.frame ref).bindings.imp ?_
      rintro ⟨name, v⟩ ⟨name', w⟩ ⟨rfl, hvalue⟩
      exact ⟨.plain rfl, hvalue⟩
  | plain hplain =>
      cases a with
      | object ref => exact .some (h.object ref).entries
      | frame => cases hplain
      | _ => exact .none
  | _ => exact .none

theorem Store.AlikeContents.find? (h : s.AlikeContents t) (ha : a.Alike a')
    (hb : b.Alike b') :
    Option.Rel (Value.Alike) (s.find? a b) (t.find? a' b') := by
  cases ha with
  | frame ref =>
      cases hb with
      | plain hplain =>
          cases b with
          | text name => exact (h.frame ref).get? name
          | _ => exact .none
      | _ => exact .none
  | plain hplain =>
      cases a with
      | object ref => exact (h.object ref).get? hb
      | frame => cases hplain
      | _ => exact .none
  | _ => exact .none

theorem Store.AlikeContents.items? (h : s.AlikeContents t) (ha : a.Alike a') :
    Option.Rel (fun x y => x.1 = y.1 ∧ AlikeAll x.2 y.2) (s.items? a)
      (t.items? a') := by
  cases ha with
  | tuple hlength hitems =>
      exact .some ⟨rfl, forall₂_of_zip hlength hitems⟩
  | plain hplain =>
      cases a with
      | list ref => exact .some ⟨rfl, h.list ref⟩
      | tuple => cases hplain
      | _ => exact .none
  | _ => exact .none

end Stores

/-! ## Comparing -/

section Comparing

variable {equal equal' : Value → Value → Option Bool}

/-- Two ways to compare that give alike values the same answer. -/
def SameAnswer (equal equal' : Value → Value → Option Bool) : Prop :=
  ∀ {v v' w w' : Value}, v.Alike v' → w.Alike w' → equal v w = equal' v' w'

variable (h : SameAnswer equal equal')

include h

theorem itemEqual_eq {v v' w w' : Value} (hv : v.Alike v') (hw : w.Alike w') :
    Store.itemEqual equal v w = Store.itemEqual equal' v' w' := by
  rw [Store.itemEqual, Store.itemEqual, hv.identical_eq hw, h hv hw]

theorem rowEqual_eq {xs xs' ys ys' : List Value} (hx : AlikeAll xs xs')
    (hy : AlikeAll ys ys') :
    Store.rowEqual equal xs ys = Store.rowEqual equal' xs' ys' := by
  induction hx generalizing ys ys' with
  | nil => rfl
  | cons hfirst _ ih =>
      cases hy with
      | nil => rfl
      | cons hfirst' hrest =>
          rw [Store.rowEqual, Store.rowEqual, itemEqual_eq h hfirst hfirst', ih hrest]

theorem firstDifference_alike {xs xs' ys ys' : List Value} (hx : AlikeAll xs xs')
    (hy : AlikeAll ys ys') :
    Option.Rel (Option.Rel PairAlike) (Store.firstDifference equal xs ys)
      (Store.firstDifference equal' xs' ys') := by
  induction hx generalizing ys ys' with
  | nil => exact .some .none
  | @cons x x' _ _ hfirst _ ih =>
      cases hy with
      | nil => exact .some .none
      | @cons y y' _ _ hfirst' hrest =>
          rw [Store.firstDifference, Store.firstDifference, itemEqual_eq h hfirst hfirst']
          cases Store.itemEqual equal' x' y' with
          | none => exact .none
          | some same =>
              cases same with
              | true => exact ih hrest
              | false => exact .some (.some ⟨hfirst, hfirst'⟩)

theorem entriesEqual_eq {find find' : Value → Option Value}
    (hfind : ∀ {k k'}, Value.Alike k k' → Option.Rel (Value.Alike) (find k) (find' k'))
    {es fs : List (Value × Value)} (hes : List.Forall₂ PairAlike es fs) :
    Store.entriesEqual equal find es = Store.entriesEqual equal' find' fs := by
  induction hes with
  | nil => rfl
  | @cons e f _ _ hfirst _ ih =>
      rw [Store.entriesEqual, Store.entriesEqual, ih]
      obtain ⟨hkey, hvalue⟩ := hfirst
      have hfound := hfind hkey
      generalize find e.1 = found, find' f.1 = found' at hfound
      cases hfound with
      | none => rfl
      | some hw => simp only [itemEqual_eq h hvalue hw]

end Comparing

section Comparing

variable {s t : Store} (hs : s.AlikeContents t) {a a' b b' : Value}

include hs

/-- Two lists are compared item by item, two tuples too, and everything else by its
entries or at once. -/
theorem Store.AlikeContents.equalUpTo_eq (depth : Nat) :
    SameAnswer (s.equalUpTo depth) (t.equalUpTo depth) := by
  induction depth with
  | zero => exact fun _ _ => rfl
  | succ depth ih =>
      intro a a' b b' ha hb
      by_cases hlists : ∃ r q, a = .list r ∧ b = .list q
      · obtain ⟨r, q, rfl, rfl⟩ := hlists
        cases ha
        cases hb
        rw [Store.equalUpTo, Store.equalUpTo]
        simp only [(hs.list r).length_eq, (hs.list q).length_eq,
          rowEqual_eq ih (hs.list r) (hs.list q)]
      · by_cases htuples : ∃ i xs j ys, a = .tuple i xs ∧ b = .tuple j ys
        · obtain ⟨i, xs, j, ys, rfl, rfl⟩ := htuples
          obtain ⟨xs', rfl, hxs⟩ := ha.tuple_left
          obtain ⟨ys', rfl, hys⟩ := hb.tuple_left
          rw [Store.equalUpTo, Store.equalUpTo, rowEqual_eq ih hxs hys, hxs.length_eq,
            hys.length_eq]
        · have hlists' : ∀ r q, a' = .list r → b' = .list q → False := by
            rintro r q rfl rfl
            cases ha
            cases hb
            exact hlists ⟨r, q, rfl, rfl⟩
          have htuples' : ∀ i xs j ys, a' = .tuple i xs → b' = .tuple j ys → False := by
            rintro i xs j ys rfl rfl
            obtain ⟨xs', rfl, -⟩ := ha.tuple_right
            obtain ⟨ys', rfl, -⟩ := hb.tuple_right
            exact htuples ⟨i, xs', j, ys', rfl, rfl⟩
          have hentries := hs.entries? ha
          have hentries' := hs.entries? hb
          rw [Store.equalUpTo, Store.equalUpTo]
          · generalize s.entries? a = es, t.entries? a' = es' at hentries
            generalize s.entries? b = fs, t.entries? b' = fs' at hentries'
            rw [ha.shallowEqual_eq hb, ha.isObject_eq, hb.isFrame_eq]
            cases hentries with
            | none => rfl
            | some hes =>
                cases hentries' with
                | none => rfl
                | some hfs =>
                    simp only [hes.length_eq, hfs.length_eq,
                      entriesEqual_eq ih (fun hk => hs.find? ha hk) hfs,
                      entriesEqual_eq ih (fun hk => hs.find? hb hk) hes]
          · exact hlists'
          · exact htuples'
          · exact fun r q hr hq => hlists ⟨r, q, hr, hq⟩
          · exact fun i xs j ys hx hy => htuples ⟨i, xs, j, ys, hx, hy⟩

theorem Store.AlikeContents.orderUpTo_eq (op : Comparison) (depth : Nat) (ha : a.Alike a')
    (hb : b.Alike b') : s.orderUpTo op depth a b = t.orderUpTo op depth a' b' := by
  induction depth generalizing a a' b b' with
  | zero => rfl
  | succ depth ih =>
      have hitems := hs.items? ha
      have hitems' := hs.items? hb
      by_cases htexts : ∃ x y, a = .text x ∧ b = .text y
      · obtain ⟨x, y, rfl, rfl⟩ := htexts
        cases ha
        cases hb
        rfl
      · have htexts' : ∀ x y, a' = .text x → b' = .text y → False := by
          rintro x y rfl rfl
          cases ha
          cases hb
          exact htexts ⟨x, y, rfl, rfl⟩
        rw [Store.orderUpTo, Store.orderUpTo, ha.number?_eq, hb.number?_eq, ha.typeWord_eq,
          hb.typeWord_eq]
        · generalize s.items? a = found, t.items? a' = found' at hitems
          generalize s.items? b = other, t.items? b' = other' at hitems'
          cases hitems with
          | none => rfl
          | @some p p' hrow =>
              cases hitems' with
              | none => rfl
              | @some q q' hrow' =>
                  have hfirst := firstDifference_alike (hs.equalUpTo_eq depth) hrow.2 hrow'.2
                  simp only [hrow.1, hrow'.1, hrow.2.length_eq, hrow'.2.length_eq]
                  generalize firstDifference (s.equalUpTo depth) p.2 q.2 = first,
                    firstDifference (t.equalUpTo depth) p'.2 q'.2 = first' at hfirst
                  cases hfirst with
                  | none => rfl
                  | some hpair =>
                      cases hpair with
                      | none => rfl
                      | some hpair => simp only [ih hpair.1 hpair.2]
        · exact htexts'
        · exact fun x y hx hy => htexts ⟨x, y, hx, hy⟩

end Comparing

/-! ## Writing -/

section Writing

variable {s t : Store} (hs : s.AlikeContents t) {v w : Value}

theorem mapM_eq_of_forall₂ {α β : Type} {f g : α → Except Obstacle β} {xs ys : List α}
    (h : List.Forall₂ (fun x y => f x = g y) xs ys) : xs.mapM f = ys.mapM g := by
  induction h with
  | nil => rfl
  | cons hfirst _ ih => rw [List.mapM_cons, List.mapM_cons, hfirst, ih]

theorem any_identical_eq {outer outer' : List Value}
    (houter : AlikeAll outer outer') (hv : v.Alike w) :
    outer.any v.identical = outer'.any w.identical := by
  induction houter with
  | nil => rfl
  | cons hfirst _ ih => rw [List.any_cons, List.any_cons, hv.identical_eq hfirst, ih]

include hs

theorem Store.AlikeContents.inspectUpTo_eq (depth : Nat) {outer outer' : List Value}
    (houter : AlikeAll outer outer') (hv : v.Alike w) :
    s.inspectUpTo depth outer v = t.inspectUpTo depth outer' w := by
  induction depth generalizing outer outer' v w with
  | zero => rfl
  | succ depth ih =>
      have inside : ∀ x y, x.Alike y →
          s.inspectUpTo depth (v :: outer) x = t.inspectUpTo depth (w :: outer') y :=
        fun x y hxy => ih (.cons hv houter) hxy
      have hany := any_identical_eq houter hv
      cases hv with
      | closure h => exact congrArg Except.ok h.summary_eq
      | library => rfl
      | host => rfl
      | frame ref => simp only [Store.inspectUpTo, Frame.summary, (hs.frame ref).names_eq]
      | tuple hlength hitems =>
          have hrow := (forall₂_of_zip hlength hitems).imp inside
          simp only [Store.inspectUpTo, hany, mapM_eq_of_forall₂ hrow]
      | plain hplain =>
          cases v with
          | list ref =>
              simp only [Store.inspectUpTo, hany, mapM_eq_of_forall₂ ((hs.list ref).imp inside)]
          | object ref =>
              have hrow := (hs.object ref).entries.imp fun e f hentry => show
                  (do let key ← s.inspectUpTo depth (.object ref :: outer) e.1
                      let value ← s.inspectUpTo depth (.object ref :: outer) e.2
                      return key ++ ": " ++ value) =
                  (do let key ← t.inspectUpTo depth (.object ref :: outer') f.1
                      let value ← t.inspectUpTo depth (.object ref :: outer') f.2
                      return key ++ ": " ++ value) by
                rw [inside _ _ hentry.1, inside _ _ hentry.2]
              simp only [Store.inspectUpTo, hany, mapM_eq_of_forall₂ hrow]
          | _ => first | rfl | cases hplain

theorem Store.AlikeContents.inspect_eq (hv : v.Alike w) : s.inspect v = t.inspect w := by
  rw [Store.inspect, Store.inspect, hs.world]
  exact hs.inspectUpTo_eq _ .nil hv

theorem Store.AlikeContents.inspectBare_eq (hv : v.Alike w) :
    s.inspectBare v = t.inspectBare w := by
  have hinspect := hs.inspect_eq hv
  cases hv with
  | plain hplain => cases v <;> first | exact hinspect | rfl
  | _ => exact hinspect

theorem Store.AlikeContents.renderUpTo_eq (depth : Nat) (hv : v.Alike w) :
    s.renderUpTo depth v = t.renderUpTo depth w := by
  induction depth generalizing v w with
  | zero => rfl
  | succ depth ih =>
      have hentry {e f : Value × Value} (h : PairAlike e f) :
          (do
            let key ← s.inspectBare e.1
            let value ← s.renderUpTo depth e.2
            return key ++ ": " ++ value) =
          do
            let key ← t.inspectBare f.1
            let value ← t.renderUpTo depth f.2
            return key ++ ": " ++ value := by
        simp only [hs.inspectBare_eq h.1, ih h.2]
      have hrow {es fs : List (Value × Value)}
          (h : List.Forall₂ PairAlike es fs) :=
        mapM_eq_of_forall₂ (h.imp fun _ _ hpair => hentry hpair)
      have hentries := hs.entries? hv
      cases hv with
      | closure h => exact congrArg Except.ok h.summary_eq
      | library => rfl
      | host => rfl
      | frame ref =>
          cases hentries with
          | some hes =>
              simp only [Store.renderUpTo, Store.entries?]
              exact congrArg (· >>= _) (hrow hes)
      | tuple hlength hitems => exact hs.inspect_eq (.tuple hlength hitems)
      | plain hplain =>
          cases v with
          | list ref =>
              have hitems := mapM_eq_of_forall₂ ((hs.list ref).imp fun _ _ hxy => ih hxy)
              simp only [Store.renderUpTo, Store.entries?, hitems]
          | object ref =>
              cases hentries with
              | some hes =>
                  simp only [Store.renderUpTo, Store.entries?]
                  exact congrArg (· >>= _) (hrow hes)
          | _ => first | rfl | cases hplain

theorem Store.AlikeContents.display_eq (hv : v.Alike w) : s.display v = t.display w := by
  have hrender : s.render v = t.render w := by
    rw [Store.render, Store.render, hs.world]
    exact hs.renderUpTo_eq _ hv
  cases hv with
  | plain hplain => cases v <;> first | exact hrender | rfl
  | _ => exact hrender

end Writing

/-! ## Changes that keep stores alike -/

section Changes

variable {pairing : Pairing} {s t : Store} (h : s.Alike pairing t)

include h

theorem Store.Alike.sourceDir_eq (ref : RecorderRef) :
    (s.recorder ref).sourceDir = (t.recorder ref).sourceDir := pairing.dirs h.heard ref

theorem Store.Alike.modifyList (ref : ListRef) {f g : Array Value → Array Value}
    (hfg : ∀ xs ys, Rows (Value.Alike) xs ys →
      Rows (Value.Alike) (f xs) (g ys)) :
    (s.modifyList ref f).Alike pairing (t.modifyList ref g) :=
  { h with lists := Rows.modify h.lists ref hfg }

theorem Store.Alike.modifyObject (ref : ObjectRef) {f g : Object → Object}
    (hfg : ∀ o p, o.Alike p → (f o).Alike (g p)) :
    (s.modifyObject ref f).Alike pairing (t.modifyObject ref g) :=
  { h with objects := Rows.modify h.objects ref hfg }

theorem Store.Alike.modifyFrame (ref : FrameRef) {f g : Frame → Frame}
    (hfg : ∀ x y, x.Alike y → (f x).Alike (g y)) :
    (s.modifyFrame ref f).Alike pairing (t.modifyFrame ref g) :=
  { h with frames := Rows.modify h.frames ref hfg }

theorem Store.Alike.addFrame {f g : Frame} (hfg : f.Alike g) :
    (s.addFrame f).Alike pairing (t.addFrame g) :=
  { h with frames := Rows.push h.frames hfg }

theorem Store.Alike.capture (ref : FrameRef) : (s.capture ref).Alike pairing (t.capture ref) :=
  { h with captured := congrArg (·.insert ref) h.captured }

theorem Store.Alike.release (ref : FrameRef) : (s.release ref).Alike pairing (t.release ref) := by
  unfold Store.release
  rw [h.captured]
  split
  · exact h
  · exact { h with frames := Rows.set h.frames ref .empty }

theorem Store.Alike.record (ref : RecorderRef) (effect : Effect) :
    (s.record ref effect).Alike pairing (t.record ref effect) :=
  { h with heard := pairing.record h.heard ref effect }

end Changes

end Scriptlet
