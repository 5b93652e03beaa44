/-
# Printed data reads back as itself

The text of data is cut into tokens, parsed and evaluated; what comes out is a new value
that holds the same data, and so is equal to the one that was printed
(`printed_data_reads_back`).

## Four parts

    printing      the value is written as the text of its data      `Value/Data`
    tokens        the text is cut into the pieces it was made of    `Token/DataText`
    tree          the tokens are read as the tree of the data       `Syntax/DataTree`
    evaluation    the tree makes the data again, list by list       `perform_of_spells`

The first three were each shown to be right for data; the last is shown here, and they are
put together.  Nothing has no literal and is written as a name; so it comes back where that
name is not bound.

## Three limits

Printer, parser and evaluator each keep a limit on how deep lists may be nested.  The
height of the data decides against all three: a stage with a limit above it succeeds, and
one with any other refuses.  So data of a given height may be printed and not be read, or
be read and not be evaluated, and whatever the limits are, there is data that does not come
back (`tower_not_read_back`).

## What comes back

A new value: its lists are new ones, and a list that was shared is two lists now.  An
integer is marked as large if it is beyond the safe range, whatever mark it had before.
-/
import Scriptlet.Eval.Evaluator
import Scriptlet.Proofs.Evaluation.Library
import Scriptlet.Proofs.Syntax.DataTree

namespace Scriptlet

/-! ## Running with enough room, and with too little -/

/-- Whether there is room decides: with room the run completes, without it is exhausted. -/
structure Run.GivenRoom {α : Type} (room : Prop) (good : α → Store → Prop)
    (r : EStateM.Result Fault Store α) : Prop where
  ok : room → ∃ a s', r = .ok a s' ∧ good a s'
  exhausted : ¬ room → ∃ s', r = .error .exhausted s'

section Room

variable {α β : Type} {room room' : Prop} {good : α → Store → Prop} {good' : β → Store → Prop}
  {m : Run α} {f : α → Run β} {s : Store}

theorem Run.GivenRoom.of_ok {r : EStateM.Result Fault Store α} {a : α} {s' : Store}
    (hr : r = .ok a s') (hroom : room) (ha : good a s') : Run.GivenRoom room good r :=
  ⟨fun _ => ⟨a, s', hr, ha⟩, fun hno => absurd hroom hno⟩

theorem Run.GivenRoom.iff {r : EStateM.Result Fault Store α} (h : Run.GivenRoom room good r)
    (hiff : room ↔ room') : Run.GivenRoom room' good r :=
  propext hiff ▸ h

theorem Run.GivenRoom.bind (h : Run.GivenRoom room good (m s))
    (hf : ∀ a s', good a s' → Run.GivenRoom room' good' (f a s')) :
    Run.GivenRoom (room ∧ room') good' ((m >>= f) s) where
  ok := by
    rintro ⟨hroom, hroom'⟩
    obtain ⟨a, s', hm, ha⟩ := h.ok hroom
    rw [Run.bind_of_ok hm]
    exact (hf a s' ha).ok hroom'
  exhausted := by
    intro hno
    by_cases hroom : room
    · obtain ⟨a, s', hm, ha⟩ := h.ok hroom
      rw [Run.bind_of_ok hm]
      exact (hf a s' ha).exhausted fun hroom' => hno ⟨hroom, hroom'⟩
    · obtain ⟨s', hm⟩ := h.exhausted hroom
      exact ⟨s', Run.bind_of_error hm⟩

theorem Run.GivenRoom.andThen (h : Run.GivenRoom room good (m s))
    (hf : ∀ a s', good a s' → ∃ b s'', f a s' = .ok b s'' ∧ good' b s'') :
    Run.GivenRoom room good' ((m >>= f) s) := by
  have hboth : Run.GivenRoom (room ∧ True) good' ((m >>= f) s) := by
    refine h.bind fun a s' ha => ?_
    obtain ⟨b, s'', hb, hgood⟩ := hf a s' ha
    exact .of_ok hb trivial hgood
  exact hboth.iff (iff_of_eq (and_true room))

end Room

/-! ## Evaluating the trees of data -/

/-- The store grew by the data that the value holds. -/
def Made (s : Store) (d : Data) (w : Value) (s' : Store) : Prop :=
  s.Grown s' ∧ Holds s' SafeMark w d

theorem newList_of_holds {s : Store} {ws : List Value} {items : List Data}
    (h : List.Forall₂ (Holds s SafeMark) ws items) :
    ∃ w s', Run.newList ws.toArray s = .ok w s' ∧ Made s (.list items) w s' := by
  have hgrown : s.Grown { s with lists := s.lists.push ws.toArray } :=
    ⟨#[ws.toArray], by rw [Array.push_eq_append]⟩
  refine ⟨_, _, rfl, hgrown, .list ?_ ?_⟩
  · rw [Array.size_push]
    exact Nat.lt_succ_self _
  · have hlist : ({ s with lists := s.lists.push ws.toArray } : Store).list s.lists.size =
        ws.toArray := by
      simp [Store.list]
    rw [hlist]
    exact h.imp fun _ _ hw => hw.grown hgrown

section Evaluating

variable {host : Host} {scope : Scope} {depth : Nat}

/-- Wherever `none` is not bound, the tree of the data makes the data if there is room. -/
def Makes (next : Task → Run Value) (scope : Scope) (room : Prop) (d : Data) : Prop :=
  ∀ node s, Spells node d → (s.frame scope.frame).get? "none" = none →
    Run.GivenRoom room (Made s d) (next (.eval scope node) s)

/-- The items of a list are made in order; there must be room for every one. -/
theorem evalAll_of_spells {next : Task → Run Value} {room : Data → Prop} {nodes : List Node}
    {items : List Data} (h : List.Forall₂ Spells nodes items)
    (hitems : ∀ d ∈ items, Makes next scope (room d) d) :
    ∀ s : Store, (s.frame scope.frame).get? "none" = none →
      Run.GivenRoom (∀ d ∈ items, room d)
        (fun ws s' => s.Grown s' ∧ List.Forall₂ (Holds s' SafeMark) ws items)
        (Evaluator.evalAll next scope nodes s) := by
  induction h with
  | nil =>
      intro s _
      exact .of_ok rfl (List.forall_mem_nil _) ⟨.refl s, .nil⟩
  | @cons node d nodes items hnode _ ih =>
      obtain ⟨hd, hitems⟩ := List.forall_mem_cons.1 hitems
      intro s hfree
      refine Run.GivenRoom.iff ?_ List.forall_mem_cons.symm
      -- the later items are made in a grown store, which keeps the first one
      refine (hd node s hnode hfree).bind fun w s₁ ⟨hgrown, hw⟩ => ?_
      have hrest := ih hitems s₁ (by rw [hgrown.frame_eq, hfree])
      refine hrest.andThen fun ws s₂ ⟨hgrown', hws⟩ => ?_
      exact ⟨w :: ws, s₂, rfl, hgrown.trans hgrown', .cons (hw.grown hgrown') hws⟩

theorem makes_of_step {d : Data}
    (h : ∀ depth, Makes (Evaluator.step host (Evaluator.perform host depth)) scope
      (d.height < depth + 1) d) :
    ∀ depth, Makes (Evaluator.perform host depth) scope (d.height < depth) d
  | 0 => fun _ s _ _ => ⟨fun hroom => absurd hroom (Nat.not_lt_zero _), fun _ => ⟨s, rfl⟩⟩
  | depth + 1 => h depth

/-- **The tree of data makes the data with any limit above its height, and with no other.** -/
theorem perform_of_spells (host : Host) (scope : Scope) (d : Data) :
    ∀ depth, Makes (Evaluator.perform host depth) scope (d.height < depth) d := by
  induction d using Data.induct with
  | nothing =>
      refine makes_of_step fun depth node s hnode hfree => ?_
      cases hnode
      have hvalue : Run.lookup scope.frame "none" s = .ok .nothing s := by
        rw [Run.lookup, hfree]
        rfl
      exact .of_ok hvalue (Nat.succ_pos depth) ⟨.refl s, .nothing⟩
  | bool b =>
      refine makes_of_step fun depth node s hnode _ => ?_
      cases hnode
      exact .of_ok rfl (Nat.succ_pos depth) ⟨.refl s, .bool b⟩
  | int n =>
      refine makes_of_step fun depth node s hnode _ => ?_
      cases hnode
      exact .of_ok rfl (Nat.succ_pos depth) ⟨.refl s, .int rfl⟩
  | text t =>
      refine makes_of_step fun depth node s hnode _ => ?_
      cases hnode
      exact .of_ok rfl (Nat.succ_pos depth) ⟨.refl s, .text t⟩
  | list items ih =>
      refine makes_of_step fun depth node s hnode hfree => ?_
      cases hnode with
      | list span hnodes =>
          have hall := evalAll_of_spells hnodes (fun d hd => ih d hd depth) s hfree
          refine Run.GivenRoom.iff ?_ Data.height_list_lt_iff.symm
          refine hall.andThen fun ws s₁ ⟨hgrown, hws⟩ => ?_
          obtain ⟨w, s₂, hnew, hgrown', hw⟩ := newList_of_holds hws
          exact ⟨w, s₂, hnew, hgrown.trans hgrown', hw⟩

end Evaluating

/-! ## Reading back -/

/-- **Printed data reads back as itself.**  Where lists are nested less deeply than the
limits of printer, parser and evaluator allow, data is printed, its text has tokens, these
parse as one expression, and where no name is bound its value is equal to the one that was
printed, with the mark of a large integer just on those beyond the safe range.  A stage
whose limit is not above the height of the data refuses it instead. -/
theorem printed_data_reads_back {s : Store} {v : Value} {d : Data} {scope : Scope}
    (hv : Holds s AnyMark v d) (hshort : d.Short)
    (hempty : (s.frame scope.frame).bindings = []) (host : Host)
    (limit nesting depth : Nat) :
    (d.height < limit → d.height < nesting → d.height < depth →
      ∃ text, s.renderUpTo limit v = .ok text ∧
        ∀ source : Source, source.text = text →
          ∃ tokens node w s', tokenize source = .ok tokens ∧
            expressionWithin nesting source tokens = .ok node ∧
            Evaluator.perform host depth (.eval scope node) s = .ok w s' ∧
            s.Grown s' ∧ Holds s' SafeMark w d ∧ s'.equalUpTo limit v w = some true) ∧
    (limit ≤ d.height → s.renderUpTo limit v = .error .tooDeep) ∧
    ∀ source : Source, source.text = String.ofList d.chars →
      ∃ tokens, tokenize source = .ok tokens ∧
        (nesting ≤ d.height → Parser.Exhausted (expressionWithin nesting source tokens)) ∧
        (depth ≤ d.height → ∀ node, expressionWithin nesting source tokens = .ok node →
          ∃ s', Evaluator.perform host depth (.eval scope node) s = .error .exhausted s') := by
  have hrender := renderUpTo_of_holds hv hshort limit
  have hfree : (s.frame scope.frame).get? "none" = none := by
    rw [Frame.get?, hempty]
    rfl
  have hmake := perform_of_spells host scope d depth
  refine ⟨fun hlimit hnesting hdepth => ?_, fun hlimit => ?_, fun source hsource => ?_⟩
  · refine ⟨_, hrender.trans (if_pos hlimit), fun source hsource => ?_⟩
    obtain ⟨tokens, htokens, hcontents⟩ := Data.tokenize_chars hshort hsource
    obtain ⟨node, hnode, hspells⟩ :=
      (expressionWithin_of_contents hcontents nesting source).1 hnesting
    obtain ⟨w, s', hw, hgrown, hholds⟩ := (hmake node s hspells hfree).ok hdepth
    have hequal : s'.equalUpTo limit v w = some true :=
      equalUpTo_of_holds (fun _ _ h => h) (fun _ _ h => h.anyMark) (hv.grown hgrown) hholds hlimit
    exact ⟨tokens, node, w, s', htokens, hnode, hw, hgrown, hholds, hequal⟩
  · exact hrender.trans (if_neg (Nat.not_lt.2 hlimit))
  · obtain ⟨tokens, htokens, hcontents⟩ := Data.tokenize_chars hshort hsource
    have hparse := expressionWithin_of_contents hcontents nesting source
    refine ⟨tokens, htokens, hparse.2, fun hdepth node hnode => ?_⟩
    -- there is a tree, so that it was not nesting that stopped the parser
    have hnesting : d.height < nesting := by
      by_contra hno
      have hdeep := hparse.2 (Nat.not_lt.1 hno)
      rw [hnode] at hdeep
      exact hdeep
    obtain ⟨other, hother, hspells⟩ := hparse.1 hnesting
    obtain rfl : node = other := Except.ok.inj (hnode.symm.trans hother)
    exact (hmake node s hspells hfree).exhausted (Nat.not_lt.2 hdepth)

/-- A text with quotes, a backslash and control characters, a small and a large integer, and
lists in one another. -/
def mixedData : Data :=
  .list [.text "\"\\\n\t\r\x00", .int 7, .int 9007199254740992,
    .list [.nothing, .bool true, .list []], .list []]

/-- A value that holds `mixedData`, with an empty frame.  The small integer has the mark of a
large one and the large one has not; the empty list is one list in two places. -/
def mixedStore : Store where
  lists := #[#[], #[.nothing, .bool true, .list 0],
    #[.text "\"\\\n\t\r\x00", .big 7, .int 9007199254740992, .list 1, .list 0]]
  frames := #[{}]

theorem mixedStore_holds : Holds mixedStore AnyMark (.list 2) mixedData := by
  have hnil : Holds mixedStore AnyMark (.list 0) (.list []) := .list (by decide) .nil
  have hinner : Holds mixedStore AnyMark (.list 1) (.list [.nothing, .bool true, .list []]) :=
    .list (by decide) (.cons .nothing (.cons (.bool true) (.cons hnil .nil)))
  exact .list (by decide) (.cons (.text _) (.cons (.int (.inr rfl)) (.cons (.int (.inl rfl))
    (.cons hinner (.cons hnil .nil)))))

theorem mixedData_short : mixedData.Short := by
  have hnil : (Data.list []).Short := .list (List.forall_mem_nil _)
  have hinner : (Data.list [.nothing, .bool true, .list []]).Short := by
    refine .list ?_
    simp only [List.forall_mem_cons]
    exact ⟨.nothing, .bool true, hnil, List.forall_mem_nil _⟩
  refine .list ?_
  simp only [List.forall_mem_cons]
  exact ⟨.text _, .int (by decide), .int (by decide), hinner, hnil, List.forall_mem_nil _⟩

def mixedSource : Source where
  text := "[\"\\\"\\\\\\n\\t\r\x00\", 7, 9007199254740992, [none, true, []], []]"

/-- The text of the value is parsed and evaluated to an equal one, with the large integer
marked and the small one not. -/
theorem mixed_reads_back :
    Holds mixedStore AnyMark (.list 2) mixedData ∧ mixedData.Short ∧
      (mixedStore.frame 0).bindings = [] ∧
      mixedStore.render (.list 2) = .ok mixedSource.text ∧
      ∃ tokens node w s', tokenize mixedSource = .ok tokens ∧
        parseExpression mixedSource tokens = .ok node ∧
        Evaluator.perform .none 2000 (.eval ⟨0, mixedSource, 0⟩ node) mixedStore = .ok w s' ∧
        Holds s' SafeMark w mixedData ∧ s'.equal (.list 2) w = some true := by
  have hrender : mixedStore.render (.list 2) = .ok mixedSource.text := by decide +kernel
  have hempty : (mixedStore.frame (⟨0, mixedSource, 0⟩ : Scope).frame).bindings = [] := rfl
  have hback := printed_data_reads_back mixedStore_holds mixedData_short hempty .none 500 500 2000
  obtain ⟨text, htext, hread⟩ := hback.1 (by decide) (by decide) (by decide)
  have hsource : mixedSource.text = text := Except.ok.inj (hrender.symm.trans htext)
  obtain ⟨tokens, node, w, s', htokens, hnode, hw, hgrown, hholds, hequal⟩ :=
    hread mixedSource hsource
  -- the limits are still those of the store that the value was printed from
  obtain ⟨lists, rfl⟩ := hgrown
  exact ⟨mixedStore_holds, mixedData_short, hempty, hrender, tokens, node, w, _, htokens, hnode,
    hw, hholds, hequal⟩

/-! ## Data that is nested too deeply -/

/-- Lists in one another, the innermost empty. -/
def Data.tower : Nat → Data
  | 0 => .list []
  | n + 1 => .list [tower n]

theorem height_tower (n : Nat) : (Data.tower n).height = n := by
  induction n with
  | zero => rfl
  | succ n ih => rw [Data.tower, Data.height, Data.heightAll, Data.heightAll, ih, Nat.max_zero]

theorem short_tower (n : Nat) : (Data.tower n).Short := by
  induction n with
  | zero => exact .list (List.forall_mem_nil _)
  | succ n ih => exact .list (List.forall_mem_singleton.2 ih)

/-- A store in which every list has the one before it as its only item. -/
def towerStore (n : Nat) : Store where
  lists := Array.ofFn fun k : Fin (n + 1) => if k.val = 0 then #[] else #[.list (k.val - 1)]

theorem towerStore_list {n k : Nat} (hk : k < n + 1) :
    (towerStore n).list k = if k = 0 then #[] else #[.list (k - 1)] := by
  have hget : (towerStore n).lists[k]? = some (if k = 0 then #[] else #[.list (k - 1)]) := by
    rw [towerStore, Array.getElem?_ofFn, dif_pos hk]
  rw [Store.list, Array.getD_eq_getD_getElem?, hget, Option.getD_some]

theorem towerStore_holds {n k : Nat} (hk : k < n + 1) :
    Holds (towerStore n) AnyMark (.list k) (.tower k) := by
  have hsize : (towerStore n).lists.size = n + 1 := Array.size_ofFn
  induction k with
  | zero =>
      refine .list (hsize ▸ hk) ?_
      rw [towerStore_list hk]
      exact .nil
  | succ k ih =>
      refine .list (hsize ▸ hk) ?_
      rw [towerStore_list hk]
      exact .cons (ih (Nat.lt_of_succ_lt hk)) .nil

/-- Not all data reads back: a tower of lists may be too deep to be printed, and its text
too deep to be parsed. -/
theorem tower_not_read_back :
    Holds (towerStore 3000) AnyMark (.list 3000) (.tower 3000) ∧ (Data.tower 3000).Short ∧
      (¬ ∃ text, (towerStore 3000).render (.list 3000) = .ok text) ∧
      ∀ source : Source, source.text = String.ofList (Data.tower 3000).chars →
        ∃ tokens, tokenize source = .ok tokens ∧
          ¬ ∃ node, parseExpression source tokens = .ok node := by
  have hholds := towerStore_holds (Nat.lt_succ_self 3000)
  have hshort := short_tower 3000
  have hdeep : 500 ≤ (Data.tower 3000).height := by
    rw [height_tower]
    decide
  refine ⟨hholds, hshort, ?_, fun source hsource => ?_⟩
  · rintro ⟨text, htext⟩
    have hrender := (renderUpTo_of_holds hholds hshort 500).trans
      (if_neg (Nat.not_lt.2 hdeep))
    cases htext.symm.trans hrender
  · obtain ⟨tokens, htokens, hcontents⟩ := Data.tokenize_chars hshort hsource
    refine ⟨tokens, htokens, ?_⟩
    rintro ⟨node, hnode⟩
    have hexhausted := (expressionWithin_of_contents hcontents 500 source).2 hdeep
    rw [show expressionWithin 500 source tokens = .ok node from hnode] at hexhausted
    exact hexhausted

end Scriptlet
