/-
# The parser accepts exactly the grammar

A whole input is read as a program or as one expression just when all of its
tokens derive one, with the shape that they derive, and no tokens derive two
shapes (`parse_iff_derives`).

## What is compared with what

    parser     `parseProgram`, `parseExpression`: a cursor, alternatives that are tried in
               order, a memory of terms
    grammar    `Whole`, `Expr`: relations between rows of contents and shapes

The grammar knows of none of the things that make up the parser.  Nor is it told which rule
goes first: that no tokens derive two shapes is a theorem about it, and so it cannot be the
order of the alternatives that hides a second tree.

What the rules read was shown in `Rules`, one rule at a time.  Here it is put together with
what a whole input asks for on top of that, that nothing is left over.

## The limit on nesting

The parser keeps a limit on expressions inside one another, and refuses what
goes beyond it.  The law holds wherever it does not; and since no input is
nested more deeply than it has tokens, a limit above their number, as
`programWithin` and `expressionWithin` take one, is never met.

## What is not said

Shapes have no places.  That nodes stand on the tokens that they were read from is the
subject of `Placement`; where an input that derives nothing is refused, that of
`FirstOffence`.
-/
import Scriptlet.Proofs.Syntax.Rules

namespace Scriptlet

open Grammar

namespace Parser

/-! ## Whole inputs -/

variable {i : Input} {s : State}

/-- The answer is a tree of the given shape. -/
def Yields (answer : Except Diagnostic Node) (p : Shape) : Prop :=
  ∃ node, answer = .ok node ∧ node.shape = p

/-- The answer is that the input is nested too deeply. -/
def Exhausted : Except Diagnostic Node → Prop
  | .ok _ => False
  | .error d => d.cause = .nestedTooDeeply

theorem Yields.unique {answer : Except Diagnostic Node} {p q : Shape}
    (hp : Yields answer p) (hq : Yields answer q) : p = q := by
  obtain ⟨node, rfl, rfl⟩ := hp
  obtain ⟨other, heq, rfl⟩ := hq
  cases heq
  rfl

/-- An answer with a tree is not that of a nesting too deep. -/
theorem Yields.not_exhausted {answer : Except Diagnostic Node} {p : Shape}
    (h : Yields answer p) : ¬ Exhausted answer := by
  obtain ⟨node, rfl, -⟩ := h
  exact id

theorem yields_complete {node : Node} {p : Shape} :
    Yields (i.complete node s) p ↔ i.rest s.pos = [] ∧ node.shape = p := by
  unfold Input.complete
  cases h : i.tokens[s.pos]? with
  | some token =>
      rw [rest_of_some h]
      constructor
      · rintro ⟨_, heq, -⟩
        cases heq
      · rintro ⟨heq, -⟩
        cases heq
  | none =>
      rw [rest_of_none h]
      constructor
      · rintro ⟨_, heq, hshape⟩
        cases heq
        exact ⟨rfl, hshape⟩
      · rintro ⟨-, hshape⟩
        exact ⟨node, rfl, hshape⟩

/-- The right answer for the whole input decides whether all of it derives a phrase. -/
theorem reading_whole {σ : Type} {Phrase : List Content → σ → Prop}
    {mayEnd : σ → List Content → Prop} {input rest : List Content} {p : σ}
    (hend : ∀ q, mayEnd q []) (h : Reading Phrase mayEnd input (some (p, rest))) (q : σ) :
    Phrase input q ↔ rest = [] ∧ p = q := by
  obtain ⟨⟨ts, hin, hd⟩, honly⟩ := h
  constructor
  · intro hq
    obtain ⟨rfl, rfl⟩ := honly _ _ _ (List.append_nil _).symm hq (hend q)
    exact ⟨rfl, rfl⟩
  · rintro ⟨rfl, rfl⟩
    rw [hin, List.append_nil]
    exact hd

theorem wholeProgram_answer (i : Input) :
    (Exhausted (wholeProgram i {}).1 ∧ i.nesting ≤ i.tokens.size) ∨
      ∀ p, Yields (wholeProgram i {}).1 p ↔ Whole (i.rest 0) p := by
  have hitems := statementItems_reads (expression_reads i) {} (faithful_empty i)
  have hlist : (statementList expression i {}).Post
      (fun node s' => ∃ ps, node.shape = .statements ps ∧
        Reading Program ProgramMayEnd (i.rest 0) (some (ps, i.rest s'.pos)))
      (fun _ => False) (i.nesting ≤ (i.rest 0).length) := by
    refine Post.bind hitems nofun id ?_
    rintro ⟨items, span⟩ s' ⟨hfound, -⟩
    refine ⟨items.map Node.shape, ?_, hfound⟩
    simp only [Node.shape, Node.shapes_eq_map]
  unfold wholeProgram
  cases hr : statementList expression i {} with
  | ok node s' =>
      rw [hr] at hlist
      obtain ⟨ps, hshape, hfound⟩ := hlist
      refine .inr ?_
      intro p
      have hprogram := reading_whole (fun _ => .inl rfl) hfound
      rw [yields_complete, hshape]
      constructor
      · rintro ⟨hrest, rfl⟩
        exact .program ((hprogram ps).2 ⟨hrest, rfl⟩)
      · rintro ⟨hqs⟩
        obtain ⟨hrest, rfl⟩ := (hprogram _).1 hqs
        exact ⟨hrest, rfl⟩
  | fail failure s' =>
      rw [hr] at hlist
      exact hlist.elim
  | tooDeep s' =>
      rw [hr] at hlist
      have hdeep : i.nesting ≤ (i.rest 0).length := hlist
      rw [length_rest] at hdeep
      exact .inl ⟨rfl, hdeep⟩

theorem wholeExpression_answer (i : Input) :
    (Exhausted (wholeExpression i {}).1 ∧ i.nesting ≤ i.tokens.size) ∨
      ∀ p, Yields (wholeExpression i {}).1 p ↔ Expr (i.rest 0) p := by
  have hexpr : (expression i {}).Post (Found i Expr ExprMayEnd Node.shape (i.rest 0))
      (Missed i Expr ExprMayEnd (i.rest 0)) (i.nesting ≤ (i.rest 0).length) :=
    expression_reads i {} (faithful_empty i)
  unfold wholeExpression
  cases hr : expression i {} with
  | ok node s' =>
      rw [hr] at hexpr
      refine .inr ?_
      intro p
      rw [yields_complete, reading_whole exprMayEnd_nil hexpr.1 p]
  | fail failure s' =>
      rw [hr] at hexpr
      refine .inr fun p => ⟨?_, fun hd => ?_⟩
      · rintro ⟨_, heq, -⟩
        cases heq
      · exact absurd (exprMayEnd_nil p) (hexpr.1 _ _ _ (List.append_nil _).symm hd)
  | tooDeep s' =>
      rw [hr] at hexpr
      have hdeep : i.nesting ≤ (i.rest 0).length := hexpr
      rw [length_rest] at hdeep
      exact .inl ⟨rfl, hdeep⟩

end Parser

open Scriptlet.Parser

/-- A program of tokens, with at most `nesting` expressions inside one another. -/
def programWithin (nesting : Nat) (source : Source) (tokens : List Token) :
    Except Diagnostic Node :=
  (wholeProgram { Input.ofTokens source tokens with nesting := nesting } {}).1

/-- One expression of tokens, with at most `nesting` expressions inside one another. -/
def expressionWithin (nesting : Nat) (source : Source) (tokens : List Token) :
    Except Diagnostic Node :=
  (wholeExpression { Input.ofTokens source tokens with nesting := nesting } {}).1

section Whole

variable (nesting : Nat) (source : Source) (tokens : List Token)

theorem programWithin_answer :
    (Exhausted (programWithin nesting source tokens) ∧ nesting ≤ tokens.length) ∨
      ∀ p, Yields (programWithin nesting source tokens) p ↔
        Whole (tokens.map Token.content) p :=
  wholeProgram_answer { Input.ofTokens source tokens with nesting := nesting }

theorem expressionWithin_answer :
    (Exhausted (expressionWithin nesting source tokens) ∧ nesting ≤ tokens.length) ∨
      ∀ p, Yields (expressionWithin nesting source tokens) p ↔
        Expr (tokens.map Token.content) p :=
  wholeExpression_answer { Input.ofTokens source tokens with nesting := nesting }

variable {nesting}

theorem yields_programWithin_iff (h : tokens.length < nesting) (p : Shape) :
    Yields (programWithin nesting source tokens) p ↔ Whole (tokens.map Token.content) p := by
  rcases programWithin_answer nesting source tokens with ⟨-, hle⟩ | hiff
  · exact absurd h (Nat.not_lt.2 hle)
  · exact hiff p

theorem yields_expressionWithin_iff (h : tokens.length < nesting) (p : Shape) :
    Yields (expressionWithin nesting source tokens) p ↔ Expr (tokens.map Token.content) p := by
  rcases expressionWithin_answer nesting source tokens with ⟨-, hle⟩ | hiff
  · exact absurd h (Nat.not_lt.2 hle)
  · exact hiff p

end Whole

/-- **The parser accepts exactly the grammar.**  Unless the input is nested too
deeply, tokens are read as a program of some shape just when they derive it,
and as an expression of some shape just when they derive that; with a limit
above the number of tokens there is no exception.  No tokens derive two shapes. -/
theorem parse_iff_derives (source : Source) (tokens : List Token) (p : Shape) :
    (¬ Exhausted (parseProgram source tokens) →
      (Yields (parseProgram source tokens) p ↔ Whole (tokens.map Token.content) p)) ∧
    (¬ Exhausted (parseExpression source tokens) →
      (Yields (parseExpression source tokens) p ↔ Expr (tokens.map Token.content) p)) ∧
    (∀ nesting, tokens.length < nesting →
      (Yields (programWithin nesting source tokens) p ↔ Whole (tokens.map Token.content) p) ∧
      (Yields (expressionWithin nesting source tokens) p ↔ Expr (tokens.map Token.content) p)) ∧
    (∀ q, Whole (tokens.map Token.content) p → Whole (tokens.map Token.content) q → p = q) ∧
    (∀ q, Expr (tokens.map Token.content) p → Expr (tokens.map Token.content) q → p = q) := by
  refine ⟨fun hdeep => ?_, fun hdeep => ?_, fun nesting hnesting => ⟨?_, ?_⟩, fun q hp hq => ?_,
    fun q hp hq => ?_⟩
  · rcases programWithin_answer 500 source tokens with ⟨hno, -⟩ | hiff
    · exact absurd hno hdeep
    · exact hiff p
  · rcases expressionWithin_answer 500 source tokens with ⟨hno, -⟩ | hiff
    · exact absurd hno hdeep
    · exact hiff p
  · exact yields_programWithin_iff source tokens hnesting p
  · exact yields_expressionWithin_iff source tokens hnesting p
  · have hiff := yields_programWithin_iff source tokens (Nat.lt_succ_self tokens.length)
    exact ((hiff p).2 hp).unique ((hiff q).2 hq)
  · have hiff := yields_expressionWithin_iff source tokens (Nat.lt_succ_self tokens.length)
    exact ((hiff p).2 hp).unique ((hiff q).2 hq)

/-- A comment, and then a function with a comma behind its only parameter and a
chain that groups to the right. -/
def chainContents : List Content :=
  [.comment " c", .identifier "f", .operator "=", .operator "(", .identifier "a", .operator ",",
   .operator ")", .operator "=>", .identifier "a", .operator "-", .identifier "a", .operator "-",
   .literal (.integer 1), .operator ";"]

def chainTokens : List Token := chainContents.map fun content => ⟨content, "", default⟩

def chainShape : Shape :=
  .statements
    [.comment " c",
     .assignment "f"
       (.function ["a"]
         (.call "-" [.identifier "a", .call "-" [.identifier "a", .literal (.integer 1)]]))]

theorem chain_derives : Whole chainContents chainShape := by
  have hminus : "-" ∈ binaryOperators := by decide
  have hchain := Expr.binary (.identifier "a") hminus
    (.binary (.identifier "a") hminus (.term (.literal (.integer 1))))
  have hname : Name [.identifier "a"] "a" := rfl
  have hfunction : Expr _ (.assignment "f" _) :=
    .assignment (.function (.more hname .none) hchain)
  exact .program (.more (.comment " c") (.more (.ended hfunction rfl) .none))

theorem parse_chain :
    ¬ Exhausted (parseProgram { text := "" } chainTokens) ∧
      Yields (parseProgram { text := "" } chainTokens) chainShape ∧
      Yields (programWithin 15 { text := "" } chainTokens) chainShape := by
  have hanswer : Yields (programWithin 500 { text := "" } chainTokens) chainShape :=
    (yields_programWithin_iff _ _ (by decide) _).2 chain_derives
  have hclaim := parse_iff_derives { text := "" } chainTokens chainShape
  exact ⟨hanswer.not_exhausted, (hclaim.1 hanswer.not_exhausted).2 chain_derives,
    (hclaim.2.2.1 15 (by decide)).1.2 chain_derives⟩

end Scriptlet
