/-
# Plain data

Data is what lists make up over nothing, truth values, whole numbers and texts.  A value
of a store holds data when it is that data written out in the store (`Holds`); lists may
be shared, but not contain themselves, since data is a finite tree.

Printing and comparing look into lists only so deep.  How deep they have to look is the
height of the data: with a higher limit they succeed, with any other they run out
(`renderUpTo_of_holds`), and values that hold the same data are equal
(`equalUpTo_of_holds`).

Whole numbers are short enough to be written (`Data.Short`).  A value may have the mark of a
large integer or not, whatever the number: which of the two is up to where it came from, and
`Holds` has it as a parameter (`AnyMark`, `SafeMark`).

What holds data goes on doing so while new lists are made (`Store.Grown`), which is all that
evaluating a tree of data does.
-/
import Mathlib.Data.List.Forall2
import Scriptlet.Value.Print
import Scriptlet.Proofs.Token.Recut

namespace Scriptlet

/-- What a script can write without names and operators. -/
inductive Data where
  | nothing
  | bool (b : Bool)
  | int (n : Nat)
  | text (t : String)
  | list (items : List Data)

namespace Data

mutual

/-- How deep lists are nested in the data, an empty list not counted. -/
def height : Data → Nat
  | nothing | bool _ | int _ | text _ => 0
  | list items => heightAll items

/-- How deep lists are nested in a list with these items. -/
def heightAll : List Data → Nat
  | [] => 0
  | d :: rest => max (height d + 1) (heightAll rest)

end

mutual

theorem induct {P : Data → Prop} (nothing : P .nothing) (bool : ∀ b, P (.bool b))
    (int : ∀ n, P (.int n)) (text : ∀ t, P (.text t))
    (list : ∀ items, (∀ d ∈ items, P d) → P (.list items)) : ∀ d, P d
  | .nothing => nothing
  | .bool b => bool b
  | .int n => int n
  | .text t => text t
  | .list items => list items (inductAll nothing bool int text list items)

theorem inductAll {P : Data → Prop} (nothing : P .nothing) (bool : ∀ b, P (.bool b))
    (int : ∀ n, P (.int n)) (text : ∀ t, P (.text t))
    (list : ∀ items, (∀ d ∈ items, P d) → P (.list items)) : ∀ (items : List Data), ∀ d ∈ items, P d
  | [] => nofun
  | d :: rest => List.forall_mem_cons.2
      ⟨induct nothing bool int text list d, inductAll nothing bool int text list rest⟩

end

theorem heightAll_le_iff {items : List Data} {k : Nat} :
    heightAll items ≤ k ↔ ∀ d ∈ items, d.height < k := by
  induction items with
  | nil => simp [heightAll]
  | cons d rest ih =>
      rw [heightAll, List.forall_mem_cons, ← ih]
      omega

theorem height_list_lt_iff {items : List Data} {k : Nat} :
    (list items).height < k + 1 ↔ ∀ d ∈ items, d.height < k := by
  rw [height, Nat.lt_succ_iff, heightAll_le_iff]

/-- Every integer has at most as many digits as may be written. -/
inductive Short : Data → Prop
  | nothing : Short .nothing
  | bool (b : Bool) : Short (.bool b)
  | int {n : Nat} : (Nat.toDigits 10 n).length ≤ digitLimit → Short (.int n)
  | text (t : String) : Short (.text t)
  | list {items : List Data} : (∀ d ∈ items, Short d) → Short (.list items)

/-! ## Text -/

/-- What stands between the items of a list. -/
def separator : List Piece := [⟨.operator, [',']⟩, ⟨.whitespace, [' ']⟩]

mutual

/-- The lexemes of the text of data. -/
def pieces : Data → List Piece
  | nothing => [⟨.identifier, ['n', 'o', 'n', 'e']⟩]
  | bool true => [⟨.boolean, ['t', 'r', 'u', 'e']⟩]
  | bool false => [⟨.boolean, ['f', 'a', 'l', 's', 'e']⟩]
  | int n => [⟨.integer, Nat.toDigits 10 n⟩]
  | text t => [⟨.string, '"' :: t.toList.flatMap Store.quoteChar ++ ['"']⟩]
  | list items => ⟨.operator, ['[']⟩ :: (piecesAll items ++ [⟨.operator, [']']⟩])

/-- The lexemes of items with separators between them. -/
def piecesAll : List Data → List Piece
  | [] => []
  | [d] => pieces d
  | d :: e :: rest => pieces d ++ (separator ++ piecesAll (e :: rest))

end

/-- The text of data. -/
def chars (d : Data) : List Char := written d.pieces

end Data

/-! ## Values that hold data -/

/-- The value is the data as it stands in the store; `whole` says how an integer may stand
there. -/
inductive Holds (s : Store) (whole : Nat → Value → Prop) : Value → Data → Prop
  | nothing : Holds s whole .nothing .nothing
  | bool (b : Bool) : Holds s whole (.bool b) (.bool b)
  | int {n : Nat} {v : Value} : whole n v → Holds s whole v (.int n)
  | text (t : String) : Holds s whole (.text t) (.text t)
  | list {ref : ListRef} {items : List Data} : ref < s.lists.size →
      List.Forall₂ (Holds s whole) (s.list ref).toList items →
      Holds s whole (.list ref) (.list items)

/-- An integer, with or without the mark of a large one. -/
def AnyMark (n : Nat) (v : Value) : Prop := v = .int n ∨ v = .big n

/-- An integer with the mark of a large one just beyond the safe range. -/
def SafeMark (n : Nat) (v : Value) : Prop := v = if safeIntegerMax < n then .big n else .int n

theorem SafeMark.anyMark {n : Nat} {v : Value} (h : SafeMark n v) : AnyMark n v := by
  unfold SafeMark at h
  split at h
  · exact .inr h
  · exact .inl h

theorem forall₂_of_mem {α β : Type} {R S : α → β → Prop} {xs : List α} {ys : List β}
    (h : List.Forall₂ R xs ys) (himp : ∀ x, ∀ y ∈ ys, R x y → S x y) : List.Forall₂ S xs ys := by
  induction h with
  | nil => exact .nil
  | cons hxy _ ih =>
      exact .cons (himp _ _ (List.mem_cons_self ..) hxy)
        (ih fun x y hy => himp x y (List.mem_cons_of_mem _ hy))

theorem forall₂_of_common {α β γ : Type} {R : α → γ → Prop} {S : β → γ → Prop} {T : α → β → Prop}
    {xs : List α} {ys : List β} {zs : List γ} (hx : List.Forall₂ R xs zs)
    (hy : List.Forall₂ S ys zs) (hcommon : ∀ z ∈ zs, ∀ x y, R x z → S y z → T x y) :
    List.Forall₂ T xs ys := by
  induction hx generalizing ys with
  | nil => cases hy; exact .nil
  | cons hxz _ ih =>
      cases hy with
      | cons hyz hrest =>
          exact .cons (hcommon _ (List.mem_cons_self ..) _ _ hxz hyz)
            (ih hrest fun z hz => hcommon z (List.mem_cons_of_mem _ hz))

/-! ## Printing -/

section Printing

variable {s : Store} {v : Value} {d : Data} {items : List Data}

theorem lt_tenTo_iff {n k : Nat} (hk : 0 < k) :
    n < Decimal.tenTo k ↔ (Nat.toDigits 10 n).length ≤ k :=
  (Nat.length_toDigits_le_iff (by decide) hk).symm

theorem integerText_of_short {n : Nat} (h : (Nat.toDigits 10 n).length ≤ digitLimit) :
    integerText (n : Int) = .ok (String.ofList (Nat.toDigits 10 n)) := by
  have htext : toString (n : Int) = String.ofList (Nat.toDigits 10 n) := Nat.repr_eq_ofList_toDigits
  have hlimit := Nat.not_le.2 ((lt_tenTo_iff (by decide)).2 h)
  rw [integerText, Int.natAbs_natCast, if_neg hlimit, htext]

theorem commas_eq (items : List Data) :
    Store.commas (items.map fun d => String.ofList d.chars) =
      String.ofList (written (Data.piecesAll items)) := by
  have hchars : ∀ items : List Data,
      [',', ' '].intercalate (items.map Data.chars) = written (Data.piecesAll items) := by
    intro items
    induction items with
    | nil => rfl
    | cons d rest ih =>
        cases rest with
        | nil => simp [Data.piecesAll, Data.chars, List.intercalate]
        | cons e rest =>
            rw [Data.piecesAll, written_append, written_append, ← ih]
            simp [Data.chars, Data.separator, written, List.intercalate]
  apply String.toList_inj.1
  rw [Store.commas, String.toList_intercalate, String.toList_ofList, ← hchars]
  simp [Function.comp_def]

theorem mapM_of_forall₂ {p : Data → Prop} [DecidablePred p] {f : Value → Except Obstacle String}
    {g : Data → String} {vs : List Value} {e : Obstacle}
    (h : List.Forall₂ (fun v d => f v = if p d then .ok (g d) else .error e) vs items) :
    vs.mapM f = if ∀ d ∈ items, p d then .ok (items.map g) else .error e := by
  induction h with
  | nil => simp [pure, Except.pure]
  | @cons v d vs items hfirst _ ih =>
      rw [List.mapM_cons, hfirst, ih]
      by_cases hd : p d
      · by_cases hrest : ∀ d ∈ items, p d
        · rw [if_pos hd, if_pos hrest, if_pos (List.forall_mem_cons.2 ⟨hd, hrest⟩)]
          rfl
        · rw [if_pos hd, if_neg hrest, if_neg fun h => hrest (List.forall_mem_cons.1 h).2]
          rfl
      · rw [if_neg hd, if_neg fun h => hd (List.forall_mem_cons.1 h).1]
        rfl

/-- What is not a list is printed by any limit but none. -/
theorem renderUpTo_leaf (hheight : d.height = 0)
    (h : ∀ limit, s.renderUpTo (limit + 1) v = .ok (String.ofList d.chars)) (limit : Nat) :
    s.renderUpTo limit v =
      if d.height < limit then .ok (String.ofList d.chars) else .error .tooDeep := by
  rw [hheight]
  cases limit with
  | zero => rfl
  | succ limit => rw [h, if_pos (Nat.succ_pos limit)]

theorem renderUpTo_list (s : Store) (ref : ListRef) (limit : Nat) :
    s.renderUpTo (limit + 1) (.list ref) = do
      let parts ← (s.list ref).toList.mapM (s.renderUpTo limit)
      return "[" ++ Store.commas parts ++ "]" :=
  rfl

theorem text_list (items : List Data) :
    "[" ++ String.ofList (written (Data.piecesAll items)) ++ "]" =
      String.ofList (Data.list items).chars := by
  apply String.toList_inj.1
  simp [Data.chars, Data.pieces, written]

/-- **Data is printed as its text by any limit above its height, and by no other.** -/
theorem renderUpTo_of_holds (h : Holds s AnyMark v d) (hshort : d.Short) :
    ∀ limit, s.renderUpTo limit v =
      if d.height < limit then .ok (String.ofList d.chars) else .error .tooDeep := by
  induction d using Data.induct generalizing v with
  | nothing =>
      cases h
      exact renderUpTo_leaf rfl fun _ => rfl
  | bool b =>
      cases h
      refine renderUpTo_leaf rfl fun _ => ?_
      cases b <;> rfl
  | int n =>
      cases h with
      | int hn =>
          cases hshort with
          | int hdigits =>
              have htext : integerText n = .ok (String.ofList (Data.int n).chars) := by
                rw [integerText_of_short hdigits]
                simp [Data.chars, Data.pieces, written]
              refine renderUpTo_leaf rfl fun _ => ?_
              rcases hn with rfl | rfl
              · exact htext
              · exact htext
  | text t =>
      cases h
      have htext : Store.quoteText t = String.ofList (Data.text t).chars := by
        apply String.toList_inj.1
        simp [Store.quoteText, Data.chars, Data.pieces, written]
      exact renderUpTo_leaf rfl fun _ => congrArg Except.ok htext
  | list items ih =>
      cases h with
      | @list ref _ hlt hitems =>
          cases hshort with
          | list hshort =>
              intro limit
              cases limit with
              | zero => rfl
              | succ limit =>
                  have hmap := mapM_of_forall₂ (forall₂_of_mem hitems fun v d hd hv =>
                    ih d hd hv (hshort d hd) limit)
                  rw [renderUpTo_list, hmap]
                  by_cases hdeep : ∀ d ∈ items, d.height < limit
                  · rw [if_pos hdeep, if_pos (Data.height_list_lt_iff.2 hdeep), ← text_list,
                      ← commas_eq]
                    rfl
                  · rw [if_neg hdeep, if_neg (mt Data.height_list_lt_iff.1 hdeep)]
                    rfl

end Printing

/-! ## Comparing -/

section Comparing

variable {s : Store} {whole whole' : Nat → Value → Prop} {v w : Value} {d : Data}

theorem shallowEqual_of_anyMark {n : Nat} (hv : AnyMark n v) (hw : AnyMark n w) :
    v.shallowEqual w = true := by
  have hnumber : (Number.integer n).equal (.integer n) = true := by
    simp [Number.equal, Number.compare?]
  rcases hv with rfl | rfl <;> rcases hw with rfl | rfl
  · exact beq_self_eq_true (n : Int)
  · exact hnumber
  · exact hnumber
  · exact hnumber

theorem rowEqual_of_forall₂ {equal : Value → Value → Option Bool} {xs ys : List Value}
    (h : List.Forall₂ (fun x y => equal x y = some true) xs ys) :
    Store.rowEqual equal xs ys = some true := by
  induction h with
  | nil => rfl
  | @cons x y xs ys hxy _ ih =>
      have hitem : Store.itemEqual equal x y = some true := by
        unfold Store.itemEqual
        split
        · rfl
        · exact hxy
      rw [Store.rowEqual, hitem]
      exact ih

/-- Values that hold the same data are equal, however large integers are marked. -/
theorem equalUpTo_of_holds (hwhole : ∀ n v, whole n v → AnyMark n v)
    (hwhole' : ∀ n v, whole' n v → AnyMark n v) (hv : Holds s whole v d)
    (hw : Holds s whole' w d) {limit : Nat} (hlimit : d.height < limit) :
    s.equalUpTo limit v w = some true := by
  induction d using Data.induct generalizing v w limit with
  | nothing =>
      cases hv
      cases hw
      cases limit with
      | zero => cases hlimit
      | succ limit => rfl
  | bool b =>
      cases hv
      cases hw
      cases limit with
      | zero => cases hlimit
      | succ limit => cases b <;> rfl
  | int n =>
      cases hv with
      | int hv =>
          cases hw with
          | int hw =>
              cases limit with
              | zero => cases hlimit
              | succ limit =>
                  have hmark := hwhole n v hv
                  have hmark' := hwhole' n w hw
                  have hequal := congrArg some (shallowEqual_of_anyMark hmark hmark')
                  rcases hmark with rfl | rfl <;> rcases hmark' with rfl | rfl <;> exact hequal
  | text t =>
      cases hv
      cases hw
      cases limit with
      | zero => cases hlimit
      | succ limit => exact congrArg some (beq_self_eq_true t)
  | list items ih =>
      cases hv with
      | list _ hxs =>
          cases hw with
          | list _ hys =>
              cases limit with
              | zero => cases hlimit
              | succ limit =>
                  have hitems := Data.height_list_lt_iff.1 hlimit
                  rw [Store.equalUpTo]
                  simp only [hxs.length_eq, hys.length_eq, bne_self_eq_false, Bool.false_eq_true,
                    if_false]
                  exact rowEqual_of_forall₂ (forall₂_of_common hxs hys fun d hd x y hx hy =>
                    ih d hd hx hy (hitems d hd))

end Comparing

/-! ## Stores that grow -/

/-- The second store has more lists than the first, and is the same otherwise. -/
def Store.Grown (s s' : Store) : Prop := ∃ more, s' = { s with lists := s.lists ++ more }

section Growing

variable {s s' s'' : Store} {whole : Nat → Value → Prop} {v : Value} {d : Data}

theorem Store.Grown.refl (s : Store) : s.Grown s := ⟨#[], by simp⟩

theorem Store.Grown.trans (h : s.Grown s') (h' : s'.Grown s'') : s.Grown s'' := by
  obtain ⟨more, rfl⟩ := h
  obtain ⟨more', rfl⟩ := h'
  exact ⟨more ++ more', by simp⟩

theorem Store.Grown.list_eq (h : s.Grown s') {ref : ListRef} (href : ref < s.lists.size) :
    s'.list ref = s.list ref := by
  obtain ⟨more, rfl⟩ := h
  simp only [Store.list]
  rw [Array.getD_eq_getD_getElem?, Array.getD_eq_getD_getElem?, Array.getElem?_append_left href]

theorem Store.Grown.frame_eq (h : s.Grown s') (ref : FrameRef) : s'.frame ref = s.frame ref := by
  obtain ⟨more, rfl⟩ := h
  rfl

theorem Holds.grown (h : Holds s whole v d) (hgrown : s.Grown s') : Holds s' whole v d := by
  induction d using Data.induct generalizing v with
  | nothing => cases h; exact .nothing
  | bool b => cases h; exact .bool b
  | int n =>
      cases h with
      | int hn => exact .int hn
  | text t => cases h; exact .text t
  | list items ih =>
      cases h with
      | list hlt hitems =>
          refine .list ?_ ?_
          · obtain ⟨more, rfl⟩ := hgrown
            rw [Array.size_append]
            exact Nat.lt_add_right more.size hlt
          · rw [hgrown.list_eq hlt]
            exact forall₂_of_mem hitems fun v d hd hv => ih d hd hv

end Growing

end Scriptlet
