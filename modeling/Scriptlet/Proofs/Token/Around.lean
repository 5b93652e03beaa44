/-
# Spans around tokens

Tokens stand in a text one behind the other (`Ordered`), and the span around some
of them in a row reaches from the first to the last (`Around`).  Merging the spans
of neighbours, as the parser does to find the span of a node, gives the span around
the tokens of both: nothing has to be known of the positions but their order.
-/
import Scriptlet.Token.Basic

namespace Scriptlet

/-- Tokens that hold at least one character each and do not overlap. -/
structure Ordered (ts : List Token) : Prop where
  apart : ts.Pairwise fun a b => a.span.stop.offset ≤ b.span.start.offset
  filled : ∀ t ∈ ts, t.span.start.offset < t.span.stop.offset

/-- The span from the first of the tokens to the last. -/
def Around (ts : List Token) (span : Span) : Prop :=
  ∃ first last, ts.head? = some first ∧ ts.getLast? = some last ∧
    span = ⟨first.span.start, last.span.stop⟩

def inFirstLine (offset length : Nat) : Span :=
  ⟨⟨offset, 1, offset + 1⟩, ⟨offset + length, 1, offset + length + 1⟩⟩

section Spans

variable {us vs ts : List Token} {a b : Span}

theorem Ordered.sublist (h : Ordered ts) (hsub : us.Sublist ts) : Ordered us :=
  ⟨h.apart.sublist hsub, fun t ht => h.filled t (hsub.subset ht)⟩

theorem Ordered.left (h : Ordered (us ++ vs)) : Ordered us :=
  h.sublist (List.sublist_append_left us vs)

theorem Ordered.right (h : Ordered (us ++ vs)) : Ordered vs :=
  h.sublist (List.sublist_append_right us vs)

theorem around_single (t : Token) : Around [t] t.span := ⟨t, t, rfl, rfl, rfl⟩

theorem Around.merge (ws : List Token) (ha : Around us a) (hb : Around vs b)
    (h : Ordered (us ++ (ws ++ vs))) :
    Around (us ++ (ws ++ vs)) (a.merge b) := by
  obtain ⟨first, last, hfirst, hlast, rfl⟩ := ha
  obtain ⟨first', last', hfirst', hlast', rfl⟩ := hb
  have hbefore : ∀ x ∈ us, ∀ y ∈ vs, x.span.stop.offset ≤ y.span.start.offset := by
    intro x hx y hy
    exact (List.pairwise_append.1 h.apart).2.2 x hx y (List.mem_append_right ws hy)
  have hmem := List.mem_of_mem_head? hfirst
  have hmem' := List.mem_of_mem_getLast? hlast'
  have hstart := hbefore first hmem first' (List.mem_of_mem_head? hfirst')
  have hstop := hbefore last (List.mem_of_mem_getLast? hlast) last' hmem'
  have hfilled := h.filled first (List.mem_append_left _ hmem)
  have hfilled' := h.filled last' (List.mem_append_right _ (List.mem_append_right _ hmem'))
  refine ⟨first, last', ?_, ?_, ?_⟩
  · rw [List.head?_append, hfirst, Option.some_or]
  · rw [List.getLast?_append, List.getLast?_append, hlast', Option.some_or, Option.some_or]
  · have hle : first.span.start.offset ≤ first'.span.start.offset := by omega
    have hgt : ¬ last'.span.stop.offset ≤ last.span.stop.offset := by omega
    simp only [Span.merge, hle, hgt, if_true, if_false]

theorem Around.merge_adjacent (ha : Around us a) (hb : Around vs b) (h : Ordered (us ++ vs)) :
    Around (us ++ vs) (a.merge b) :=
  ha.merge [] hb h

/-- Spans around parts that together are all of the tokens. -/
inductive Tiles : List Token → List Span → Prop
  | nil : Tiles [] []
  | cons {us vs : List Token} {a : Span} {spans : List Span} :
      Around us a → Tiles vs spans → Tiles (us ++ vs) (a :: spans)

theorem Tiles.mergeAll {spans : List Span} (h : Tiles vs spans) (ha : Around us a)
    (hordered : Ordered (us ++ vs)) : Around (us ++ vs) (Span.mergeAll a spans) := by
  induction h generalizing us a with
  | nil => rw [List.append_nil]; exact ha
  | cons hb _ ih =>
      rw [← List.append_assoc] at hordered ⊢
      exact ih (ha.merge_adjacent hb hordered.left) hordered

theorem Tiles.append {spans more : List Span} (h : Tiles us spans) (h' : Tiles vs more) :
    Tiles (us ++ vs) (spans ++ more) := by
  induction h with
  | nil => exact h'
  | cons ha _ ih => rw [List.append_assoc]; exact .cons ha ih

end Spans

end Scriptlet
