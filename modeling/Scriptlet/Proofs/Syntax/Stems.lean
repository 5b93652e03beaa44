/-
# Where nodes come from

A node stems from a source if it is part of a tree that was read from the tokens of the
source (`Node.StemsFrom`).  Its span reaches from the beginning of one token to the end of
another, or is a point at a token or at the end of the source, so that it is marked, and so
are the places at which the parser reports errors.
-/
import Scriptlet.Proofs.Syntax.Placement
import Scriptlet.Proofs.Syntax.Diagnosis
import Scriptlet.Proofs.Token.Underline

namespace Scriptlet

open Scriptlet.Parser

/-- The node is part of a tree that was read from the source. -/
inductive Node.StemsFrom (source : Source) : Node → Prop
  | program {tokens : List Token} {node : Node} : tokenize source = .ok tokens →
      parseProgram source tokens = .ok node → StemsFrom source node
  | expression {tokens : List Token} {node : Node} : tokenize source = .ok tokens →
      parseExpression source tokens = .ok node → StemsFrom source node
  | part {node child : Node} : StemsFrom source node → child ∈ node.children →
      StemsFrom source child

section Marks

variable {source : Source} {tokens : List Token} {node : Node} {d : Diagnostic}

theorem ordered_of_tokenize (h : tokenize source = .ok tokens) : Ordered tokens := by
  obtain ⟨xs, hcut, -, hxs⟩ := tokenize_eq_ok_iff.1 h
  exact (ordered_of_cut hcut hxs).1

theorem marked_tokenAt (h : tokenize source = .ok tokens) {k : Nat} {t : Token}
    (ht : (Input.ofTokens source tokens).tokens[k]? = some t) : Marked source t.span := by
  refine marked_token h ?_
  have hmem := Array.mem_of_getElem? ht
  exact List.mem_toArray.1 hmem

theorem marked_cursorSpan (h : tokenize source = .ok tokens) (k : Nat) :
    Marked source ((Input.ofTokens source tokens).cursorSpan k) := by
  unfold Input.cursorSpan
  split
  · next ht => exact marked_tokenAt h ht
  · exact marked_end source

/-! ## Nodes -/

theorem marked_of_placed (h : tokenize source = .ok tokens) {a b : Nat}
    (hplaced : Placed (.ofTokens source tokens) a b node) : Marked source node.span := by
  have honward := hplaced.span_onward (ordered_of_tokenize h)
  cases hplaced with
  | filled hab hb haround =>
      obtain ⟨first, last, hfirst, hlast, hspan⟩ := around_part hab hb haround
      rw [hspan] at honward ⊢
      exact ⟨(marked_tokenAt h hfirst).start, (marked_tokenAt h hlast).stop, honward⟩
  | empty =>
      simp only [Node.span, Input.hereSpan]
      split
      · next ht => exact (marked_tokenAt h ht).start.marked
      · exact marked_end source

theorem Node.StemsFrom.placed (h : node.StemsFrom source) :
    ∃ tokens a b, tokenize source = .ok tokens ∧ Placed (.ofTokens source tokens) a b node := by
  have hsound (i : Input) : Sound i ({} : State).memory := by
    intro start node stop hentry
    simp at hentry
  induction h with
  | program htokens hparse =>
      obtain ⟨b, hplaced⟩ := (leaves_wholeProgram (i := .ofTokens source _)
        (ordered_of_tokenize htokens) (hsound _)).1 _ hparse
      exact ⟨_, _, b, htokens, hplaced⟩
  | expression htokens hparse =>
      obtain ⟨b, hplaced⟩ := (leaves_wholeExpression (i := .ofTokens source _)
        (ordered_of_tokenize htokens) (hsound _)).1 _ hparse
      exact ⟨_, _, b, htokens, hplaced⟩
  | part _ hchild ih =>
      obtain ⟨tokens, a, b, htokens, hplaced⟩ := ih
      cases hplaced with
      | filled _ _ _ hrow =>
          obtain ⟨c, d, -, -, -, hplaced⟩ := hrow.walk_within _ (Node.mem_walkAll hchild)
          exact ⟨tokens, c, d, htokens, hplaced⟩
      | empty => cases hchild

theorem Node.StemsFrom.marked (h : node.StemsFrom source) : Marked source node.span := by
  obtain ⟨tokens, a, b, htokens, hplaced⟩ := h.placed
  exact marked_of_placed htokens hplaced

/-! ## Errors of the parser -/

/-- An answer that is an error is one at the token that reading has come to, or at the end. -/
theorem Parser.Meets.place_of_error {i : Input} {s : State} {room : Nat}
    {stuck : Node → State → Prop} {v : Forward.Verdict Node} {r : Result Node}
    (hmeets : Meets i s room stuck v r) (h : i.answer v = .error d) :
    ∃ k, d.location = some (.ofSpan i.source (i.cursorSpan k)) := by
  cases v with
  | ok node rest =>
      obtain ⟨s', -, rfl, -⟩ := hmeets
      refine ⟨s'.pos, ?_⟩
      rw [cursorSpan_eq]
      generalize i.left s'.pos = rest at h
      cases rest with
      | nil => cases h
      | cons t rest => cases h; rfl
  | stop cause rest =>
      obtain ⟨m, rfl, -⟩ := hmeets
      cases h
      exact ⟨m, by rw [cursorSpan_eq]; rfl⟩
  | deep rest =>
      obtain ⟨s', -, rfl⟩ := hmeets
      cases h
      exact ⟨s'.pos, by rw [cursorSpan_eq]; rfl⟩

/-- An error of the parser is at a place of the source that is marked. -/
theorem marked_of_unparsed (htokens : tokenize source = .ok tokens)
    (h : parseProgram source tokens = .error d ∨ parseExpression source tokens = .error d) :
    ∃ span, d.location = some (.ofSpan source span) ∧ Marked source span := by
  obtain ⟨k, hk⟩ : ∃ k, d.location =
      some (.ofSpan source ((Input.ofTokens source tokens).cursorSpan k)) := by
    rcases h with h | h
    · exact (meets_program _).place_of_error ((wholeProgram_eq _).symm.trans h)
    · exact (follows_expression {} (fresh_empty _)).place_of_error
        ((wholeExpression_eq _).symm.trans h)
  exact ⟨_, hk, marked_cursorSpan htokens k⟩

end Marks

end Scriptlet
