/-
# The library side by side

On alike arguments every function of the library is its own twin: it gives alike
values or stops with the same fault, and does the same to alike stores.  This
walks through them once, function by function.  Functions of the host are twins
where the host overlooks places, which is their own business.
-/
import Scriptlet.Proofs.Evaluation.Twins

namespace Scriptlet

open Run

/-- Twins that give alike values. -/
abbrev Run.CallTwins (pairing : Pairing) (m n : Run Value) : Prop :=
  Twins pairing (Value.Alike) m n

abbrev Run.SameTwins {α : Type} (pairing : Pairing) (m n : Run α) : Prop :=
  Twins pairing Eq m n

section Library

variable {pairing : Pairing} {a a' b b' : Value} {xs ys : List Value}

/-! ## New things in the store -/

theorem twins_newList {items items' : Array Value}
    (h : Rows (Value.Alike) items items') :
    Twins pairing (Value.Alike) (Run.newList items) (Run.newList items') := by
  intro s t hs
  have hsize : s.lists.size = t.lists.size := Rows.size_eq hs.lists
  refine .ok { hs with lists := Rows.push hs.lists h } ?_
  rw [hsize]
  exact .plain rfl

theorem twins_newObject : CallTwins pairing (Run.newObject {}) (Run.newObject {}) := by
  intro s t hs
  have hsize : s.objects.size = t.objects.size := Rows.size_eq hs.objects
  refine .ok { hs with objects := Rows.push hs.objects .empty } ?_
  rw [hsize]
  exact .plain rfl

theorem twins_freshMark : Twins pairing Eq Run.freshMark Run.freshMark := by
  intro s t hs
  exact .ok { hs with fresh := congrArg (· + 1) hs.fresh } hs.fresh

theorem twins_newFloat (x : Float) : CallTwins pairing (Run.newFloat x) (Run.newFloat x) := by
  refine .ite (twins_freshMark.bind ?_) (.pure (.plain rfl))
  rintro mark _ rfl
  exact .pure (.plain rfl)

theorem twins_newTuple (h : AlikeAll xs ys) :
    CallTwins pairing (Run.newTuple xs) (Run.newTuple ys) := by
  refine twins_freshMark.bind ?_
  rintro mark _ rfl
  exact .pure (alike_tuple h)

theorem twins_lookup (ref : FrameRef) (name : String) :
    Twins pairing (Value.Alike) (Run.lookup ref name) (Run.lookup ref name) := by
  intro s t hs
  exact .ok hs (rel_getD ((hs.frame ref).get? name) (.plain rfl))

theorem twins_bindName (ref : FrameRef) (name : String) (h : a.Alike a') :
    Twins pairing Eq (Run.bindName ref name a) (Run.bindName ref name a') := by
  intro s t hs
  exact .ok (hs.modifyFrame ref fun _ _ hframe => hframe.insert name h) rfl

/-! ## Arithmetic -/

theorem twins_finish (result : Except Mishap Number) :
    CallTwins pairing (Arithmetic.finish result) (Arithmetic.finish result) := by
  unfold Arithmetic.finish
  split
  · unfold Arithmetic.ofNumber
    split
    · exact .pure (.plain rfl)
    · exact twins_newFloat _
  · exact .raise _

theorem twins_refuse (symbol : String) (ha : a.Alike a')
    (hb : b.Alike b') :
    CallTwins pairing (Arithmetic.refuse symbol a b) (Arithmetic.refuse symbol a' b') := by
  rw [Arithmetic.refuse, Arithmetic.refuse, ha.typeWord_eq, hb.typeWord_eq]
  exact .raise _

theorem twins_itemsOf (ref : ListRef) :
    Twins pairing (Rows (Value.Alike))
      (Arithmetic.itemsOf ref) (Arithmetic.itemsOf ref) := by
  intro s t hs
  exact .ok hs (hs.list ref)

theorem isEmpty_eq_of_forall₂ {α β : Type} {R : α → β → Prop} {xs : List α} {ys : List β}
    (h : List.Forall₂ R xs ys) : xs.isEmpty = ys.isEmpty := by
  cases h <;> rfl

theorem twins_joinTuples {i j : Nat} {xs' ys' : List Value} (hx : AlikeAll xs xs')
    (hy : AlikeAll ys ys') :
    CallTwins pairing (Arithmetic.joinTuples i xs j ys) (Arithmetic.joinTuples i xs' j ys') := by
  unfold Arithmetic.joinTuples
  rw [isEmpty_eq_of_forall₂ hx, isEmpty_eq_of_forall₂ hy]
  exact .ite (.pure (alike_tuple hy))
    (.ite (.pure (alike_tuple hx)) (twins_newTuple (List.rel_append hx hy)))

theorem twins_add (ha : a.Alike a') (hb : b.Alike b') :
    CallTwins pairing (Arithmetic.add a b) (Arithmetic.add a' b') := by
  unfold Arithmetic.add
  rw [ha.number?_eq, hb.number?_eq]
  split
  · exact twins_finish _
  · have refused : CallTwins pairing _ _ := twins_refuse "+" ha hb
    cases ha with
    | tuple hlength hitems =>
        cases hb with
        | tuple hlength' hitems' =>
            exact twins_joinTuples (forall₂_of_zip hlength hitems)
              (forall₂_of_zip hlength' hitems')
        | plain hplain => cases b <;> first | exact .raise _ | cases hplain
        | _ => exact .raise _
    | plain hplain =>
        cases a with
        | text s =>
            cases hb with
            | plain => cases b <;> first | exact .raise _ | exact .pure (.plain rfl)
            | _ => exact .raise _
        | list r =>
            cases hb with
            | plain =>
                cases b with
                | list q =>
                    refine (twins_itemsOf r).bind fun xs xs' hx => ?_
                    refine (twins_itemsOf q).bind fun ys ys' hy => twins_newList ?_
                    exact (Rows.append .nil hx).append hy
                | _ => exact .raise _
            | _ => exact .raise _
        | tuple => cases hplain
        | _ => exact refused
    | _ => exact refused

theorem twins_subtract (symbol : String) (ha : a.Alike a')
    (hb : b.Alike b') :
    CallTwins pairing (Arithmetic.subtract symbol a b) (Arithmetic.subtract symbol a' b') := by
  unfold Arithmetic.subtract
  rw [ha.number?_eq, hb.number?_eq]
  split
  · exact twins_finish _
  · exact twins_refuse symbol ha hb

theorem twins_divide (ha : a.Alike a') (hb : b.Alike b') :
    CallTwins pairing (Arithmetic.divide a b) (Arithmetic.divide a' b') := by
  unfold Arithmetic.divide
  rw [ha.number?_eq, hb.number?_eq]
  split
  · exact twins_finish _
  · exact twins_refuse "/" ha hb

theorem twins_checkMemory (bytes : Nat) :
    SameTwins pairing (Arithmetic.checkMemory bytes) (Arithmetic.checkMemory bytes) := by
  intro s t hs
  unfold Arithmetic.checkMemory
  rw [hs.world]
  split
  · exact .error hs (.same _)
  · exact .ok hs rfl

theorem twins_repetitions (text : Bool) (size : Nat) {count count' : Value}
    (h : count.Alike count') (n : Int) :
    SameTwins pairing (Arithmetic.repetitions text size count n)
      (Arithmetic.repetitions text size count' n) := by
  unfold Arithmetic.repetitions
  rw [h.typeWord_eq]
  exact .ite (.raise _) (.ite (.raise _) ((twins_checkMemory _).andThen (.pure rfl)))

theorem copies_related {α : Type} [Append α] {R : α → α → Prop}
    {empty empty' sequence sequence' : α}
    (hempty : R empty empty') (hsequence : R sequence sequence')
    (happend : ∀ {x x' y y'}, R x x' → R y y' → R (x ++ y) (x' ++ y')) (n : Nat) :
    R (Arithmetic.copies empty sequence n) (Arithmetic.copies empty' sequence' n) := by
  fun_induction Arithmetic.copies empty sequence n with
  | case1 =>
      rw [Arithmetic.copies, if_pos rfl]
      exact hempty
  | case2 n hn half heven ih =>
      rw [Arithmetic.copies, if_neg hn, if_pos heven]
      exact happend ih ih
  | case3 n hn half hodd ih =>
      rw [Arithmetic.copies, if_neg hn, if_neg hodd]
      exact happend (happend ih ih) hsequence

/-- Two computations that may be there: both are, and are twins, or neither is. -/
abbrev TwinOption (pairing : Pairing) : Option (Run Value) → Option (Run Value) → Prop :=
  Option.Rel (CallTwins pairing)

theorem twins_repeat (ha : a.Alike a') (hb : b.Alike b') :
    TwinOption pairing (Arithmetic.repeat? a b) (Arithmetic.repeat? a' b') := by
  unfold Arithmetic.repeat?
  extract_lets times times'
  have htimes (text : Bool) (size : Nat) :
      SameTwins pairing (times text size) (times' text size) := by
    simp only [times, times', hb.integer?_eq, hb.typeWord_eq]
    split
    · exact twins_repetitions text size hb _
    · exact .raise _
  cases ha with
  | tuple hlength hitems =>
      have hrow := forall₂_of_zip hlength hitems
      refine .some ?_
      rw [hlength]
      refine (htimes false _).bind ?_
      rintro n _ rfl
      have hcopies := copies_related .nil hrow (fun h h' => List.rel_append h h') n
      exact .ite (.pure (alike_tuple hrow)) (twins_newTuple hcopies)
  | plain hplain =>
      cases a with
      | text s =>
          refine .some ((htimes true _).bind ?_)
          rintro n _ rfl
          exact .pure (.plain rfl)
      | list r =>
          refine .some ((twins_itemsOf r).bind fun xs ys hrow => ?_)
          rw [hrow.size_eq]
          refine (htimes false _).bind ?_
          rintro n _ rfl
          exact twins_newList (copies_related .nil hrow (fun h h' => Rows.append h h') n)
      | tuple => cases hplain
      | _ => exact .none
  | _ => exact .none

theorem twins_multiply (ha : a.Alike a') (hb : b.Alike b') :
    CallTwins pairing (Arithmetic.multiply a b) (Arithmetic.multiply a' b') := by
  unfold Arithmetic.multiply
  rw [ha.number?_eq, hb.number?_eq]
  split
  · exact twins_finish _
  · have left : TwinOption pairing _ _ := twins_repeat ha hb
    have right : TwinOption pairing _ _ := twins_repeat hb ha
    generalize Arithmetic.repeat? a b = x, Arithmetic.repeat? a' b' = x' at left
    generalize Arithmetic.repeat? b a = y, Arithmetic.repeat? b' a' = y' at right
    cases left with
    | some h => exact h
    | none =>
        cases right with
        | some h => exact h
        | none => exact twins_refuse "*" ha hb

/-! ## Printing and comparing -/

theorem twins_print (recorder : RecorderRef) (h : AlikeAll xs ys) :
    CallTwins pairing (Library.print recorder xs) (Library.print recorder ys) := by
  have line : SameTwins pairing (Library.ask fun s => Library.printedLine s xs)
      (Library.ask fun s => Library.printedLine s ys) := by
    refine .ask fun s t hs => ?_
    have hshown := mapM_eq_of_forall₂ (h.imp fun _ _ hv => hs.display_eq hv)
    unfold Library.printedLine
    rw [hshown]
    split
    · exact .ok rfl
    · exact .error _
  refine line.bind ?_
  rintro text _ rfl
  exact Twins.andThen (Q := Eq) (.modify (fun s t hs => hs.record recorder _) rfl)
    (.pure (.plain rfl))

theorem twins_equal (ha : a.Alike a') (hb : b.Alike b') :
    SameTwins pairing (Library.equal a b) (Library.equal a' b') := by
  have asked : SameTwins pairing (Library.ask fun s => Library.decided (s.equal a b))
      (Library.ask fun s => Library.decided (s.equal a' b')) := by
    refine .ask fun s t hs => ?_
    rw [Store.equal, Store.equal, hs.world, hs.equalUpTo_eq _ ha hb]
    cases t.equalUpTo t.world.limits.depth a' b' with
    | some same => exact .ok rfl
    | none => exact .error _
  -- A truth value on either side is decided without a look at the store.
  cases ha with
  | plain =>
      cases a with
      | bool x =>
          cases hb with
          | plain => cases b <;> exact .pure rfl
          | _ => exact .pure rfl
      | _ =>
          cases hb with
          | plain =>
              cases b with
              | bool y => exact .pure rfl
              | _ => exact asked
          | _ => exact asked
  | _ =>
      cases hb with
      | plain =>
          cases b with
          | bool y => exact .pure rfl
          | _ => exact asked
      | _ => exact asked

theorem twins_compareBy (op : Comparison) (ha : a.Alike a')
    (hb : b.Alike b') :
    CallTwins pairing (Library.compareBy op a b) (Library.compareBy op a' b') := by
  have asked : SameTwins pairing (Library.ask fun s => s.orderUpTo op s.world.limits.depth a b)
      (Library.ask fun s => s.orderUpTo op s.world.limits.depth a' b') := by
    refine .ask fun s t hs => ?_
    rw [hs.world, hs.orderUpTo_eq op _ ha hb]
    cases t.orderUpTo op t.world.limits.depth a' b' with
    | ok answer => exact .ok rfl
    | error fault => exact .error fault
  refine asked.bind ?_
  rintro answer _ rfl
  exact .pure (.plain rfl)

/-! ## Containers -/

theorem Store.Alike.isTrue_eq {s t : Store} (hs : s.Alike pairing t)
    (ha : a.Alike a') : s.isTrue a = t.isTrue a' := by
  cases ha with
  | tuple hlength hitems =>
      have hrow := forall₂_of_zip hlength hitems
      rw [Store.isTrue, Store.isTrue, isEmpty_eq_of_forall₂ hrow]
  | frame ref =>
      rw [Store.isTrue, Store.isTrue, isEmpty_eq_of_forall₂ (hs.frame ref).bindings]
  | plain hplain =>
      cases a with
      | list ref =>
          rw [Store.isTrue, Store.isTrue, ← Array.isEmpty_toList, ← Array.isEmpty_toList,
            isEmpty_eq_of_forall₂ (hs.list ref)]
      | object ref =>
          rw [Store.isTrue, Store.isTrue, Object.size, Object.size, (hs.object ref).keys.size_eq]
      | tuple => cases hplain
      | frame => cases hplain
      | _ => rfl
  | _ => rfl

theorem twins_push (ha : a.Alike a') (hb : b.Alike b') :
    CallTwins pairing (Library.push a b) (Library.push a' b') := by
  have refused : CallTwins pairing (Run.raise (.noAttribute a.ownerWord "append"))
      (Run.raise (.noAttribute a'.ownerWord "append")) := by
    rw [ha.ownerWord_eq]
    exact .raise _
  cases ha with
  | plain =>
      cases a with
      | list ref =>
          refine Twins.andThen (Q := Eq) (.modify (fun s t hs => ?_) rfl) (.pure (.plain rfl))
          exact hs.modifyList ref fun _ _ hrow => hrow.push hb
      | _ => exact refused
  | _ => exact refused

theorem twins_pop (ha : a.Alike a') :
    CallTwins pairing (Library.pop a) (Library.pop a') := by
  have asked : SameTwins pairing (Library.ask fun s => .ok (!s.isTrue a))
      (Library.ask fun s => .ok (!s.isTrue a')) :=
    .ask fun s t hs => .ok (congrArg not (hs.isTrue_eq ha))
  refine asked.bind ?_
  rintro empty _ rfl
  refine .ite (.pure (.plain rfl)) ?_
  have refused : CallTwins pairing (Run.raise (.noAttribute a.ownerWord "pop"))
      (Run.raise (.noAttribute a'.ownerWord "pop")) := by
    rw [ha.ownerWord_eq]
    exact .raise _
  cases ha with
  | frame => exact .raise _
  | plain hplain =>
      cases a with
      | list ref =>
          refine Twins.bind (Q := Option.Rel (Value.Alike)) ?_ fun last last' h => ?_
          · refine .ask fun s t hs => .ok ?_
            rw [Array.back?, Array.back?, (hs.list ref).size_eq]
            exact (hs.list ref).getElem? _
          · refine Twins.andThen (Q := Eq) (.modify (fun s t hs => ?_) rfl)
              (.pure (rel_getD h (.plain rfl)))
            exact hs.modifyList ref fun _ _ hrow => hrow.pop
      | object => exact .raise _
      | frame => cases hplain
      | _ => exact refused
  | _ => exact refused

theorem twins_checkKey (ha : a.Alike a') :
    SameTwins pairing (Library.checkKey a) (Library.checkKey a') := by
  unfold Library.checkKey
  rw [ha.unhashable?_eq]
  split
  · exact .raise _
  · exact .pure rfl

theorem twins_get (ha : a.Alike a') (hb : b.Alike b') :
    CallTwins pairing (Library.get a b) (Library.get a' b') := by
  have refused : CallTwins pairing (Run.raise (.cannotIndex a.typeWord b.typeWord))
      (Run.raise (.cannotIndex a'.typeWord b'.typeWord)) := by
    rw [ha.typeWord_eq, hb.typeWord_eq]
    exact .raise _
  have hindex := hb.index?_eq
  cases ha with
  | frame ref =>
      refine (twins_checkKey hb).andThen ?_
      cases hb with
      | plain =>
          cases b with
          | text name => exact twins_lookup ref name
          | _ => exact .pure (.plain rfl)
      | _ => exact .pure (.plain rfl)
  | plain hplain =>
      cases a with
      | object ref =>
          refine (twins_checkKey hb).andThen (.ask fun s t hs => .ok ?_)
          exact rel_getD ((hs.object ref).get? hb) (.plain rfl)
      | list ref => 
          unfold Library.get
          dsimp only
          rw [hindex]
          split
          · exact refused
          · next n _ =>
              refine .ask fun s t hs => .ok (rel_getD ?_ (.plain rfl))
              rw [(hs.list ref).size_eq]
              cases Library.slot? (t.list ref).size n with
              | none => exact .none
              | some i => exact (hs.list ref).getElem? i
      | text x =>
          unfold Library.get
          dsimp only
          rw [hindex]
          split
          · exact refused
          · next n _ =>
              refine .pure ?_
              cases (Library.slot? x.length n).bind (Text.charAt? x) with
              | none => exact .plain rfl
              | some c => exact .plain rfl
      | frame => cases hplain
      | _ => exact refused
  | _ => exact refused

theorem twins_checkIndex (ha : a.Alike a') :
    SameTwins pairing (Library.checkIndex a) (Library.checkIndex a') := by
  unfold Library.checkIndex
  rw [ha.integer?_eq, ha.typeWord_eq]
  split
  · exact .pure rfl
  · exact .ite (.raise _) (.pure rfl)

theorem twins_setItem (ref : ListRef) (index : Int) (hb : b.Alike b') :
    SameTwins pairing (Library.setItem ref index b) (Library.setItem ref index b') := by
  have asked : SameTwins pairing (Library.ask fun s => .ok (s.list ref).size)
      (Library.ask fun s => .ok (s.list ref).size) :=
    .ask fun s t hs => .ok (hs.list ref).size_eq
  refine asked.bind ?_
  rintro size _ rfl
  split
  · exact .raise _
  · exact .modify (fun s t hs => hs.modifyList ref fun _ _ hrow => hrow.set _ hb) rfl

theorem twins_set {v v' : Value} (ha : a.Alike a') (hb : b.Alike b')
    (hv : v.Alike v') :
    CallTwins pairing (Library.set a b v) (Library.set a' b' v') := by
  have refused : CallTwins pairing
      (Run.raise (.noItemAssignment a.typeWord) >>= fun (_ : PUnit) => pure v)
      (Run.raise (.noItemAssignment a'.typeWord) >>= fun (_ : PUnit) => pure v') := by
    rw [ha.typeWord_eq]
    exact Twins.andThen (Q := Eq) (.raise _) (.pure hv)
  have other : CallTwins pairing
      (if Library.looksAtIndex a = true then
        Library.checkIndex b >>= fun _ =>
          Run.raise (.noItemAssignment a.typeWord) >>= fun (_ : PUnit) => pure v
      else Run.raise (.noItemAssignment a.typeWord) >>= fun (_ : PUnit) => pure v)
      (if Library.looksAtIndex a' = true then
        Library.checkIndex b' >>= fun _ =>
          Run.raise (.noItemAssignment a'.typeWord) >>= fun (_ : PUnit) => pure v'
      else Run.raise (.noItemAssignment a'.typeWord) >>= fun (_ : PUnit) => pure v') := by
    rw [ha.looksAtIndex_eq]
    exact .ite ((twins_checkIndex hb).andThen refused) refused
  cases ha with
  | frame ref =>
      cases hb with
      | plain =>
          cases b with
          | text name => exact (twins_bindName ref name hv).andThen (.pure hv)
          | _ => exact Twins.andThen (Q := Eq) (.raise _) (.pure hv)
      | _ => exact Twins.andThen (Q := Eq) (.raise _) (.pure hv)
  | plain hplain =>
      cases a with
      | list ref =>
          unfold Library.set
          dsimp only
          have hindex : SameTwins pairing _ _ := twins_checkIndex hb
          rw [hb.integer?_eq, hb.typeWord_eq]
          split
          · exact hindex.andThen ((twins_setItem ref _ hv).andThen (.pure hv))
          · exact Twins.andThen (Q := Eq) (.raise _) (.pure hv)
      | object ref =>
          refine (twins_checkKey hb).andThen (Twins.andThen (Q := Eq) ?_ (.pure hv))
          exact .modify (fun s t hs => hs.modifyObject ref fun _ _ ho => ho.put hb hv) rfl
      | frame => cases hplain
      | _ => exact other
  | _ => exact other

/-! ## Ranges, sizes and names -/

theorem twins_rangeArgument (ha : a.Alike a') :
    SameTwins pairing (Library.rangeArgument a) (Library.rangeArgument a') := by
  unfold Library.rangeArgument
  rw [ha.integer?_eq, ha.typeWord_eq]
  split
  · exact .pure rfl
  · exact .raise _

theorem twins_rangeList (start stop step : Int) :
    CallTwins pairing (Library.rangeList start stop step) (Library.rangeList start stop step) := by
  have numbers (size : Nat) : CallTwins pairing
      (Run.newList ((Array.range size).map fun (i : Nat) => .int (start + i * step)))
      (Run.newList ((Array.range size).map fun (i : Nat) => .int (start + i * step))) := by
    refine twins_newList (List.forall₂_same.2 fun v hv => ?_)
    obtain ⟨i, -, rfl⟩ := Array.mem_map.1 (Array.mem_toList_iff.1 hv)
    exact .plain rfl
  have refuse {mishap : Mishap} {m n : Run Value} (h : CallTwins pairing m n) : CallTwins pairing
      (Run.raise mishap >>= fun (_ : PUnit) => m) (Run.raise mishap >>= fun (_ : PUnit) => n) :=
    Twins.andThen (Q := Eq) (.raise _) h
  unfold Library.rangeList
  dsimp only
  have sized (size : Nat) : CallTwins pairing _ _ :=
    (twins_checkMemory (32 * size)).andThen (numbers size)
  refine .ite (refuse ?_) ?_
  all_goals exact .ite (refuse (sized _)) (sized _)

theorem twins_range (h : AlikeAll xs ys) :
    CallTwins pairing (Library.range xs) (Library.range ys) := by
  rcases h with _ | ⟨ha, _ | ⟨hb, _ | ⟨hc, _ | ⟨hd, hrest⟩⟩⟩⟩
  · exact .raise _
  · refine (twins_rangeArgument ha).bind ?_
    rintro stop _ rfl
    exact twins_rangeList _ _ _
  · refine (twins_rangeArgument ha).bind ?_
    rintro start _ rfl
    refine (twins_rangeArgument hb).bind ?_
    rintro stop _ rfl
    exact twins_rangeList _ _ _
  · refine (twins_rangeArgument ha).bind ?_
    rintro start _ rfl
    refine (twins_rangeArgument hb).bind ?_
    rintro stop _ rfl
    refine (twins_rangeArgument hc).bind ?_
    rintro step _ rfl
    exact twins_rangeList _ _ _
  · have hlength := hrest.length_eq
    simp only [Library.range, List.length_cons, hlength]
    exact .raise _

theorem twins_size (ha : a.Alike a') :
    SameTwins pairing (Library.ask fun s => Library.size s a)
      (Library.ask fun s => Library.size s a') := by
  refine .ask fun s t hs => ?_
  cases ha with
  | tuple hlength => exact .ok hlength
  | frame ref => exact .ok (hs.frame ref).bindings.length_eq
  | plain hplain =>
      cases a with
      | list ref => exact .ok (hs.list ref).size_eq
      | text x => exact .ok rfl
      | object ref => exact .ok (hs.object ref).keys.size_eq
      | tuple => cases hplain
      | frame => cases hplain
      | _ => exact .error _
  | _ => exact .error _

theorem twins_keys (ha : a.Alike a') :
    CallTwins pairing (Library.keys a) (Library.keys a') := by
  have asked : Twins pairing
      (Option.Rel (List.Forall₂ PairAlike))
      (Library.ask fun s => .ok (s.entries? a)) (Library.ask fun s => .ok (s.entries? a')) :=
    .ask fun s t hs => .ok (hs.entries? ha)
  refine asked.bind fun es fs hentries => ?_
  cases hentries with
  | none =>
      rw [ha.ownerWord_eq]
      exact .raise _
  | some hes =>
      refine twins_newList (List.forall₂_map_left_iff.2 (List.forall₂_map_right_iff.2 ?_))
      exact hes.imp fun _ _ hentry => hentry.1

theorem twins_check (sig : Signature) (h : AlikeAll xs ys) :
    SameTwins pairing (sig.check xs) (sig.check ys) := by
  unfold Signature.check
  rw [h.length_eq]
  split
  · exact .raise _
  · exact .pure rfl

/-! ## Functions that call back -/

section Calling

variable {call call' : Value → List Value → Run Value}

/-- The two ways to call are twins on alike functions and arguments. -/
def CallsAlike (pairing : Pairing) (call call' : Value → List Value → Run Value) : Prop :=
  ∀ {f f' : Value} {xs ys : List Value}, f.Alike f' → AlikeAll xs ys →
    CallTwins pairing (call f xs) (call' f' ys)

variable (hcall : CallsAlike pairing call call')

include hcall

theorem twins_choose {c c' : Value} (hc : c.Alike c')
    (ha : a.Alike a') (hb : b.Alike b') :
    CallTwins pairing (Library.choose call c a b) (Library.choose call' c' a' b') := by
  have asked : SameTwins pairing (Library.ask fun s => .ok (s.isTrue c))
      (Library.ask fun s => .ok (s.isTrue c')) := .ask fun s t hs => .ok (hs.isTrue_eq hc)
  refine asked.bind ?_
  rintro answer _ rfl
  refine .ite (hcall ha .nil) ?_
  have otherwise := hcall hb .nil
  cases hb with
  | plain =>
      cases b with
      | nothing => exact .pure (.plain rfl)
      | _ => exact otherwise
  | _ => exact otherwise

omit hcall in
theorem answered_iterate {s t : Store} (hs : s.Alike pairing t) (ha : a.Alike a') :
    Answered (AlikeAll) (Library.iterate s a)
      (Library.iterate t a') := by
  cases ha with
  | tuple hlength hitems => exact .ok (forall₂_of_zip hlength hitems)
  | frame ref =>
      rw [Library.iterate, Library.iterate, (hs.frame ref).names_eq]
      refine .ok (List.forall₂_same.2 fun v hv => ?_)
      obtain ⟨name, -, rfl⟩ := List.mem_map.1 hv
      exact .plain rfl
  | plain hplain =>
      cases a with
      | list ref => exact .ok (hs.list ref)
      | text x =>
          refine .ok (List.forall₂_same.2 fun v hv => ?_)
          obtain ⟨c, -, rfl⟩ := List.mem_map.1 hv
          exact .plain rfl
      | object ref => exact .ok (hs.object ref).keys
      | tuple => cases hplain
      | frame => cases hplain
      | _ => exact .error _
  | _ => exact .error _

theorem twins_callEach (ha : a.Alike a') (index : Nat)
    (h : AlikeAll xs ys) :
    SameTwins pairing (Library.callEach call a index xs) (Library.callEach call' a' index ys) := by
  induction h generalizing index with
  | nil => exact .pure rfl
  | cons hfirst _ ih =>
      exact (hcall ha (.cons hfirst (.cons (.plain rfl) .nil))).andThen (ih (index + 1))

theorem twins_each (ha : a.Alike a') (hb : b.Alike b') :
    CallTwins pairing (Library.each call a b) (Library.each call' a' b') := by
  have asked : Twins pairing (AlikeAll)
      (Library.ask fun s => Library.iterate s a) (Library.ask fun s => Library.iterate s a') :=
    .ask fun s t hs => answered_iterate hs ha
  refine asked.bind fun items items' hitems => ?_
  exact (twins_callEach hcall hb 0 hitems).andThen (.pure (.plain rfl))

theorem twins_library (recorder : RecorderRef) (f : LibraryFunction)
    (h : AlikeAll xs ys) :
    CallTwins pairing (f.run call recorder xs) (f.run call' recorder ys) := by
  rcases h with _ | ⟨ha, _ | ⟨hb, _ | ⟨hc, _ | ⟨hd, hrest⟩⟩⟩⟩
  · cases f with
    | print => exact twins_print recorder .nil
    | range => exact twins_range .nil
    | object => exact twins_newObject
    | _ => exact .pure (.plain rfl)
  · cases f with
    | print => exact twins_print recorder (.cons ha .nil)
    | range => exact twins_range (.cons ha .nil)
    | pop => exact twins_pop ha
    | len =>
        refine (twins_size ha).bind ?_
        rintro size _ rfl
        exact .pure (.plain rfl)
    | keys => exact twins_keys ha
    | _ => exact .pure (.plain rfl)
  · cases f with
    | print => exact twins_print recorder (.cons ha (.cons hb .nil))
    | range => exact twins_range (.cons ha (.cons hb .nil))
    | add => exact twins_add ha hb
    | sub => exact twins_subtract "-" ha hb
    | mul => exact twins_multiply ha hb
    | div => exact twins_divide ha hb
    | eq =>
        refine (twins_equal ha hb).bind ?_
        rintro answer _ rfl
        exact .pure (.plain rfl)
    | neq =>
        refine (twins_equal ha hb).bind ?_
        rintro answer _ rfl
        exact .pure (.plain rfl)
    | gt => exact twins_compareBy .greater ha hb
    | gte => exact twins_compareBy .greaterOrEqual ha hb
    | lt => exact twins_compareBy .less ha hb
    | lte => exact twins_compareBy .lessOrEqual ha hb
    | «if» => exact twins_choose hcall ha hb (.plain (v := .nothing) rfl)
    | each => exact twins_each hcall ha hb
    | push => exact twins_push ha hb
    | get => exact twins_get ha hb
    | _ => exact .pure (.plain rfl)
  · cases f with
    | print => exact twins_print recorder (.cons ha (.cons hb (.cons hc .nil)))
    | range => exact twins_range (.cons ha (.cons hb (.cons hc .nil)))
    | «if» => exact twins_choose hcall ha hb hc
    | set => exact twins_set ha hb hc
    | _ => exact .pure (.plain rfl)
  · cases f with
    | print => exact twins_print recorder (.cons ha (.cons hb (.cons hc (.cons hd hrest))))
    | range => exact twins_range (.cons ha (.cons hb (.cons hc (.cons hd hrest))))
    | _ => exact .pure (.plain rfl)

/-! ## Calls -/

theorem twins_applyLibrary (recorder : RecorderRef) (f : LibraryFunction)
    (h : AlikeAll xs ys) :
    CallTwins pairing (f.apply call recorder xs) (f.apply call' recorder ys) := by
  unfold LibraryFunction.apply
  split
  · exact (twins_check _ h).andThen (twins_library hcall recorder f h)
  · exact twins_library hcall recorder f h

theorem twins_conduct {conduct conduct' : Conduct} (h : conduct.Alike pairing conduct') :
    CallTwins pairing (conduct.run call) (conduct'.run call') := by
  induction h with
  | finish h =>
      cases h with
      | done hvw => exact .pure hvw
      | stopped hlike => exact .throw hlike
  | @act edit edit' next next' hmake _ ih =>
      refine Twins.bind (Q := fun before before' => before.Alike pairing before')
        (fun s t hs => .ok (hmake s t hs) hs) fun before before' hbefore => ?_
      exact ih before before' hbefore
  | call hf hargs _ ih =>
      exact (hcall hf hargs).settle.bind fun outcome outcome' h => ih outcome outcome' h

end Calling

end Library

end Scriptlet
