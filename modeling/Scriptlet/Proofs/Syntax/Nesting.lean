/-
# Nodes placed on tokens

A node is placed on the tokens from one index up to another when its span reaches from
the first of them to the last, and the nodes below it are placed on tokens among these,
one behind the other (`Placed`, `InRow`).  Only a list of no statements stands on no
tokens; its span is the empty one at the next token.

Since the tokens of a text are in order, a placed tree is nested (`Placed.nested`): a
span contains all the spans below it, neighbours are apart, and a walk over the tree
never goes back in the text.
-/
import Scriptlet.Syntax.Parser
import Scriptlet.Proofs.Token.Around

namespace Scriptlet

/-- What the spans of a tree are to one another. -/
structure Nested (node : Node) : Prop where
  /-- Every node contains all that is below it. -/
  contains : ∀ outer ∈ node.walk, ∀ inner ∈ outer.walk,
    outer.span.start.offset ≤ inner.span.start.offset ∧
      inner.span.stop.offset ≤ outer.span.stop.offset
  /-- Neighbours stand in order and apart. -/
  apart : ∀ outer ∈ node.walk,
    outer.children.Pairwise fun a b => a.span.stop.offset ≤ b.span.start.offset
  /-- The walk does not go back. -/
  onward : node.walk.Pairwise fun a b => a.span.start.offset ≤ b.span.start.offset

theorem Node.walk_eq (node : Node) : node.walk = node :: walkAll node.children := by
  cases node <;> simp [walk, walkAll, children]

theorem Node.mem_walkAll {node : Node} {nodes : List Node} (h : node ∈ nodes) :
    node ∈ walkAll nodes := by
  induction h with
  | head rest =>
      rw [walkAll, walk_eq]
      exact List.mem_append_left _ (List.mem_cons_self ..)
  | tail other _ ih => exact List.mem_append_right _ ih

theorem Node.walk_subset_walkAll {node : Node} {nodes : List Node} (h : node ∈ nodes) :
    node.walk ⊆ walkAll nodes := by
  induction h with
  | head rest => exact List.subset_append_left ..
  | tail other _ ih => exact List.Subset.trans ih (List.subset_append_right ..)

theorem Node.walk_subset_of_mem_children {node child : Node} (h : child ∈ node.children) :
    child.walk ⊆ node.walk := by
  intro n hn
  rw [node.walk_eq]
  exact List.mem_cons_of_mem node (walk_subset_walkAll h hn)

namespace Parser

/-- The tokens from `a` up to `b`. -/
def Input.part (i : Input) (a b : Nat) : List Token := (i.tokens.toList.drop a).take (b - a)

mutual

/-- The node stands on the tokens from `a` up to `b`, and all that is below it on some of
these tokens. -/
inductive Placed (i : Input) : Nat → Nat → Node → Prop
  | filled {a b : Nat} {node : Node} : a < b → b ≤ i.tokens.size →
      Around (i.part a b) node.span → InRow i a b node.children → Placed i a b node
  | empty (a : Nat) : Placed i a a (.statements [] (i.hereSpan a))

/-- The nodes stand one behind the other on tokens from `a` up to `b`, each of them
beginning before `b`. -/
inductive InRow (i : Input) : Nat → Nat → List Node → Prop
  | nil {a b : Nat} : a ≤ b → InRow i a b []
  | cons {a b c d : Nat} {node : Node} {rest : List Node} : a ≤ c → c < b →
      Placed i c d node → InRow i d b rest → InRow i a b (node :: rest)

end

/-! ## Parts of the tokens -/

section Parts

variable {i : Input} {a b c : Nat} {t : Token} {span : Span}

theorem part_append (hab : a ≤ b) (hbc : b ≤ c) : i.part a b ++ i.part b c = i.part a c := by
  have hdrop : i.tokens.toList.drop b = (i.tokens.toList.drop a).drop (b - a) := by
    rw [List.drop_drop, Nat.add_sub_cancel' hab]
  simp only [Input.part]
  rw [hdrop, ← List.take_add, show b - a + (c - b) = c - a by omega]

theorem part_self (i : Input) (a : Nat) : i.part a a = [] := by
  simp [Input.part]

theorem part_single (h : i.tokens[a]? = some t) : i.part a (a + 1) = [t] := by
  obtain ⟨hlt, rfl⟩ := Array.getElem?_eq_some_iff.1 h
  have hlist : a < i.tokens.toList.length := hlt
  simp only [Input.part]
  rw [List.drop_eq_getElem_cons hlist, Nat.add_sub_cancel_left, Array.getElem_toList]
  rfl

theorem part_sublist (i : Input) (a b : Nat) : (i.part a b).Sublist i.tokens.toList :=
  (List.take_sublist _ _).trans (List.drop_sublist _ _)

/-- The span around the tokens from one index up to another, by the first and the last of
them. -/
theorem around_part (hab : a < b) (hb : b ≤ i.tokens.size) (h : Around (i.part a b) span) :
    ∃ first last, i.tokens[a]? = some first ∧ i.tokens[b - 1]? = some last ∧
      span = ⟨first.span.start, last.span.stop⟩ := by
  obtain ⟨first, last, hfirst, hlast, rfl⟩ := h
  have ha : i.tokens[a]? = some i.tokens[a] := Array.getElem?_eq_getElem (by omega)
  have hb' : i.tokens[b - 1]? = some i.tokens[b - 1] := Array.getElem?_eq_getElem (by omega)
  have hsingle := part_single hb'
  rw [Nat.sub_add_cancel (by omega)] at hsingle
  rw [← part_append (Nat.le_succ a) hab, part_single ha] at hfirst
  rw [← part_append (Nat.le_sub_one_of_lt hab) (Nat.sub_le b 1), hsingle] at hlast
  rw [List.head?_append] at hfirst
  rw [List.getLast?_append] at hlast
  cases hfirst
  cases hlast
  exact ⟨_, _, ha, hb', rfl⟩

end Parts

/-! ## What is below a placed node -/

section Below

variable {i : Input} {a b c : Nat} {node : Node} {nodes : List Node}

theorem Placed.le (h : Placed i a b node) : a ≤ b := by
  cases h with
  | filled hlt => exact Nat.le_of_lt hlt
  | empty => exact Nat.le_refl _

/-- A node that stands on no tokens has nothing below it. -/
theorem Placed.walk_of_empty (h : Placed i a b node) (hab : ¬ a < b) : node.walk = [node] := by
  cases h with
  | filled hlt => exact absurd hlt hab
  | empty => rfl

theorem InRow.le (h : InRow i a b nodes) : a ≤ b := by
  induction nodes generalizing a with
  | nil =>
      cases h with
      | nil hle => exact hle
  | cons node rest ih =>
      cases h with
      | cons hac _ hnode hrest => exact Nat.le_trans hac (Nat.le_trans hnode.le (ih hrest))

theorem InRow.earlier (h : InRow i b c nodes) (hab : a ≤ b) : InRow i a c nodes := by
  cases h with
  | nil hle => exact .nil (Nat.le_trans hab hle)
  | cons hle hlt hnode hrest => exact .cons (Nat.le_trans hab hle) hlt hnode hrest

theorem InRow.later (h : InRow i a b nodes) (hbc : b ≤ c) : InRow i a c nodes := by
  induction nodes generalizing a with
  | nil =>
      cases h with
      | nil hle => exact .nil (Nat.le_trans hle hbc)
  | cons node rest ih =>
      cases h with
      | cons hle hlt hnode hrest => exact .cons hle (Nat.lt_of_lt_of_le hlt hbc) hnode (ih hrest)

/-- Some node stands on tokens from `a` up to `b`, and begins before `b` if there are any. -/
def Within (i : Input) (a b : Nat) (node : Node) : Prop :=
  ∃ c d, a ≤ c ∧ c ≤ b ∧ d ≤ b ∧ (a < b → c < b) ∧ Placed i c d node

mutual

/-- All that is below a node stands on some of its tokens. -/
theorem Placed.walk_within :
    ∀ {a b : Nat} {node : Node}, Placed i a b node → ∀ n ∈ node.walk, Within i a b n
  | a, b, node, .filled hab hb haround hrow => by
      intro n hn
      rw [Node.walk_eq] at hn
      rcases List.mem_cons.1 hn with rfl | hn
      · exact ⟨a, b, Nat.le_refl a, Nat.le_of_lt hab, Nat.le_refl b, id,
          .filled hab hb haround hrow⟩
      · obtain ⟨c, d, hac, hcb, hdb, hplaced⟩ := InRow.walk_within hrow n hn
        exact ⟨c, d, hac, Nat.le_of_lt hcb, hdb, fun _ => hcb, hplaced⟩
  | a, _, _, .empty _ => by
      intro n hn
      obtain rfl := List.mem_singleton.1 hn
      exact ⟨a, a, Nat.le_refl a, Nat.le_refl a, Nat.le_refl a, id, .empty a⟩

theorem InRow.walk_within :
    ∀ {a b : Nat} {nodes : List Node}, InRow i a b nodes → ∀ n ∈ Node.walkAll nodes,
      ∃ c d, a ≤ c ∧ c < b ∧ d ≤ b ∧ Placed i c d n
  | _, _, _, .nil _ => nofun
  | a, b, _, @InRow.cons _ _ _ c d node rest hac hcb hnode hrest => by
      intro n hn
      have hdb := hrest.le
      rcases List.mem_append.1 hn with hn | hn
      · obtain ⟨c', d', hcc, hcd, hdd, hlt, hplaced⟩ := Placed.walk_within hnode n hn
        have hle := hnode.le
        exact ⟨c', d', by omega, by omega, by omega, hplaced⟩
      · obtain ⟨c', d', hcc, hcb', hdb', hplaced⟩ := InRow.walk_within hrest n hn
        have hle := hnode.le
        exact ⟨c', d', by omega, hcb', hdb', hplaced⟩

end

end Below

/-! ## Spans of placed nodes -/

section Order

variable {i : Input} {a b c d : Nat} {node x y : Node} {nodes : List Node}
  (hordered : Ordered i.tokens.toList)

include hordered

theorem stop_le_start {j k : Nat} {t u : Token} (hjk : j < k) (ht : i.tokens[j]? = some t)
    (hu : i.tokens[k]? = some u) : t.span.stop.offset ≤ u.span.start.offset := by
  obtain ⟨hj, rfl⟩ := Array.getElem?_eq_some_iff.1 ht
  obtain ⟨hk, rfl⟩ := Array.getElem?_eq_some_iff.1 hu
  exact List.pairwise_iff_getElem.1 hordered.apart j k hj hk hjk

theorem start_lt_stop {k : Nat} {t : Token} (ht : i.tokens[k]? = some t) :
    t.span.start.offset < t.span.stop.offset := by
  obtain ⟨hk, rfl⟩ := Array.getElem?_eq_some_iff.1 ht
  exact hordered.filled _ (Array.getElem_mem_toList hk)

theorem start_le_start {j k : Nat} {t u : Token} (hjk : j ≤ k) (ht : i.tokens[j]? = some t)
    (hu : i.tokens[k]? = some u) : t.span.start.offset ≤ u.span.start.offset := by
  rcases Nat.eq_or_lt_of_le hjk with rfl | hlt
  · cases ht.symm.trans hu
    exact Nat.le_refl _
  · have hapart := stop_le_start hordered hlt ht hu
    have hfilled := start_lt_stop hordered ht
    omega

theorem stop_le_stop {j k : Nat} {t u : Token} (hjk : j ≤ k) (ht : i.tokens[j]? = some t)
    (hu : i.tokens[k]? = some u) : t.span.stop.offset ≤ u.span.stop.offset := by
  rcases Nat.eq_or_lt_of_le hjk with rfl | hlt
  · cases ht.symm.trans hu
    exact Nat.le_refl _
  · have hapart := stop_le_start hordered hlt ht hu
    have hfilled := start_lt_stop hordered hu
    omega

omit hordered in
/-- A node begins with the first of its tokens, or where the next token does. -/
theorem Placed.start_eq (h : Placed i a b node) (ha : a < i.tokens.size) :
    ∃ first, i.tokens[a]? = some first ∧ node.span.start = first.span.start := by
  cases h with
  | filled hab hb haround =>
      obtain ⟨first, last, hfirst, -, hspan⟩ := around_part hab hb haround
      exact ⟨first, hfirst, by rw [hspan]⟩
  | empty =>
      have hfirst : i.tokens[a]? = some i.tokens[a] := Array.getElem?_eq_getElem ha
      refine ⟨_, hfirst, ?_⟩
      simp only [Node.span, Input.hereSpan, hfirst, Span.point]

omit hordered in
/-- A node ends with the last of its tokens, or where it begins. -/
theorem Placed.stop_eq (h : Placed i a b node) :
    (a < b ∧ ∃ last, i.tokens[b - 1]? = some last ∧ node.span.stop = last.span.stop) ∨
      a = b ∧ node.span.stop = node.span.start := by
  cases h with
  | filled hab hb haround =>
      obtain ⟨first, last, -, hlast, hspan⟩ := around_part hab hb haround
      exact .inl ⟨hab, last, hlast, by rw [hspan]⟩
  | empty =>
      refine .inr ⟨rfl, ?_⟩
      simp only [Node.span, Input.hereSpan]
      split <;> rfl

theorem Placed.start_le (hx : Placed i a b x) (hy : Placed i c d y) (hac : a ≤ c)
    (hc : c < i.tokens.size) : x.span.start.offset ≤ y.span.start.offset := by
  obtain ⟨first, hfirst, hstart⟩ := hx.start_eq (Nat.lt_of_le_of_lt hac hc)
  obtain ⟨first', hfirst', hstart'⟩ := hy.start_eq hc
  rw [hstart, hstart']
  exact start_le_start hordered hac hfirst hfirst'

/-- What stands on earlier tokens ends before what stands on later ones begins. -/
theorem Placed.stop_le_start (hx : Placed i a b x) (hy : Placed i c d y) (hbc : b ≤ c)
    (hc : c < i.tokens.size) : x.span.stop.offset ≤ y.span.start.offset := by
  rcases hx.stop_eq with ⟨hab, last, hlast, hstop⟩ | ⟨rfl, hstop⟩
  · obtain ⟨first, hfirst, hstart⟩ := hy.start_eq hc
    rw [hstop, hstart]
    exact Parser.stop_le_start hordered (by omega) hlast hfirst
  · rw [hstop]
    exact hx.start_le hordered hy hbc hc

/-- What stands on some of the tokens does not end behind what stands on all of them. -/
theorem Placed.stop_le (hx : Placed i a b x) (hab : a < b) (hy : Placed i c d y) (hcb : c < b)
    (hdb : d ≤ b) : y.span.stop.offset ≤ x.span.stop.offset := by
  obtain ⟨-, last, hlast, hstop⟩ := hx.stop_eq.resolve_right fun h => Nat.ne_of_lt hab h.1
  rw [hstop]
  rcases hy.stop_eq with ⟨hcd, last', hlast', hstop'⟩ | ⟨rfl, hstop'⟩
  · rw [hstop']
    exact stop_le_stop hordered (by omega) hlast' hlast
  · have hb : b - 1 < i.tokens.size := (Array.getElem?_eq_some_iff.1 hlast).1
    obtain ⟨first, hfirst, hstart⟩ := hy.start_eq (by omega)
    have hle := start_le_start hordered (show c ≤ b - 1 by omega) hfirst hlast
    have hlt := start_lt_stop hordered hlast
    rw [hstop', hstart]
    omega

theorem InRow.apart (h : InRow i a b nodes) (hb : b ≤ i.tokens.size) :
    nodes.Pairwise fun x y => x.span.stop.offset ≤ y.span.start.offset := by
  induction nodes generalizing a with
  | nil => exact .nil
  | cons x rest ih =>
      cases h with
      | cons hac hcb hx hrest =>
          refine .cons (fun y hy => ?_) (ih hrest)
          obtain ⟨c', d', hdc, hcb', -, hplaced⟩ := hrest.walk_within y (Node.mem_walkAll hy)
          exact hx.stop_le_start hordered hplaced hdc (by omega)

theorem Placed.contains (h : Placed i a b node) {n : Node} (hn : n ∈ node.walk) :
    node.span.start.offset ≤ n.span.start.offset ∧ n.span.stop.offset ≤ node.span.stop.offset := by
  by_cases hab : a < b
  · obtain ⟨c, d, hac, -, hdb, hcb, hplaced⟩ := h.walk_within n hn
    have hb : b ≤ i.tokens.size := by
      cases h with
      | filled _ hb => exact hb
      | empty => exact absurd hab (Nat.lt_irrefl _)
    exact ⟨h.start_le hordered hplaced hac (Nat.lt_of_lt_of_le (hcb hab) hb),
      h.stop_le hordered hab hplaced (hcb hab) hdb⟩
  · rw [h.walk_of_empty hab] at hn
    obtain rfl := List.mem_singleton.1 hn
    exact ⟨Nat.le_refl _, Nat.le_refl _⟩

mutual

theorem Placed.onward : ∀ {a b : Nat} {node : Node}, Placed i a b node →
    node.walk.Pairwise fun x y => x.span.start.offset ≤ y.span.start.offset
  | a, b, node, .filled hab hb haround hrow => by
      have hplaced := Placed.filled hab hb haround hrow
      have hcontains : ∀ n ∈ node.walk, node.span.start.offset ≤ n.span.start.offset :=
        fun n hn => (hplaced.contains hordered hn).1
      rw [Node.walk_eq] at hcontains ⊢
      exact .cons (fun n hn => hcontains n (List.mem_cons_of_mem _ hn)) (InRow.onward hrow hb)
  | _, _, _, .empty _ => List.pairwise_singleton _ _

theorem InRow.onward : ∀ {a b : Nat} {nodes : List Node}, InRow i a b nodes →
    b ≤ i.tokens.size →
      (Node.walkAll nodes).Pairwise fun x y => x.span.start.offset ≤ y.span.start.offset
  | _, _, _, .nil _, _ => .nil
  | _, _, _, .cons _ _ hnode hrest, hb => by
      refine List.pairwise_append.2 ⟨Placed.onward hnode, InRow.onward hrest hb, ?_⟩
      intro x hx y hy
      obtain ⟨c, d, -, hcd, -, -, hx⟩ := hnode.walk_within x hx
      obtain ⟨c', d', hdc, hcb, -, hy⟩ := hrest.walk_within y hy
      exact hx.start_le hordered hy (Nat.le_trans hcd hdc) (Nat.lt_of_lt_of_le hcb hb)

end

theorem Placed.nested (h : Placed i a b node) : Nested node := by
  refine ⟨?_, ?_, h.onward hordered⟩
  · intro outer houter inner hinner
    obtain ⟨c, d, -, -, -, -, hplaced⟩ := h.walk_within outer houter
    exact hplaced.contains hordered hinner
  · intro outer houter
    obtain ⟨c, d, -, -, -, -, hplaced⟩ := h.walk_within outer houter
    cases hplaced with
    | filled _ hd _ hrow => exact hrow.apart hordered hd
    | empty => exact .nil

end Order

end Parser

end Scriptlet
