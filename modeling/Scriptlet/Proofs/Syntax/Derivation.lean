/-
# The grammar as a relation

What the parser is measured against.  A `Shape` is a tree without its spans,
and the grammar says which rows of tokens derive which shapes; of a token it
looks at the content only.  Nothing here knows about cursors, alternatives that
are tried in order, or memory.

    Program   → Statement*
    Statement → comment ";"?  |  Expr ";"          (no comment)
    Expr      → comment  |  name "=" Expr  |  "(" names ")" "=>" Expr
              | Term operator Expr  |  Term
    Term      → name "(" Exprs ")"  |  "{" Program "}"  |  "[" Exprs "]"
              | literal  |  name

Rows of names and of expressions have commas between their items and perhaps
one behind the last.

The second half is about first tokens and about what may stand behind a phrase:
`TermMayEnd`, `ExprMayEnd`, `StatementMayEnd` and `ProgramMayEnd` are the
conditions under which the phrase cannot be read further than it was derived.
-/
import Scriptlet.Syntax.Grammar

namespace Scriptlet

/-! ## Shapes -/

/-- A tree without spans. -/
inductive Shape where
  | comment (text : String)
  | literal (value : Literal)
  | identifier (name : String)
  | assignment (name : String) (value : Shape)
  | function (params : List String) (body : Shape)
  | call (callee : String) (args : List Shape)
  | statements (items : List Shape)
  | block (items : List Shape)
  | list (items : List Shape)
  deriving Inhabited

/-- Whether the shape is that of a comment. -/
def Shape.isComment : Shape → Bool
  | .comment _ => true
  | _ => false

namespace Node

mutual

/-- The node without its spans. -/
def shape : Node → Shape
  | .comment text _ => .comment text
  | .literal value _ => .literal value
  | .identifier name _ => .identifier name
  | .assignment name value _ => .assignment name (shape value)
  | .function params body _ => .function params (shape body)
  | .call callee args _ => .call callee (shapes args)
  | .statements items _ => .statements (shapes items)
  | .block items _ _ => .block (shapes items)
  | .list items _ => .list (shapes items)

/-- Several nodes without their spans. -/
def shapes : List Node → List Shape
  | [] => []
  | node :: rest => shape node :: shapes rest

end

theorem shapes_eq_map : ∀ nodes : List Node, shapes nodes = nodes.map shape
  | [] => rfl
  | node :: rest => by rw [shapes, shapes_eq_map rest, List.map_cons]

theorem isComment_shape (node : Node) : node.shape.isComment = node.isComment := by
  cases node <;> rfl

end Node

namespace Grammar

/-! ## Derivations -/

/-- A row of items with commas between them and perhaps one behind the last. -/
inductive Row {σ : Type} (Item : List Content → σ → Prop) : List Content → List σ → Prop
  | none : Row Item [] []
  | last {ts : List Content} {p : σ} : Item ts p → Row Item ts [p]
  | more {ts us : List Content} {p : σ} {ps : List σ} :
      Item ts p → Row Item us ps → Row Item (ts ++ .operator "," :: us) (p :: ps)

def Name (ts : List Content) (name : String) : Prop := ts = [.identifier name]

mutual

/-- Statements in a row. -/
inductive Program : List Content → List Shape → Prop
  | none : Program [] []
  | more {ts us : List Content} {p : Shape} {ps : List Shape} :
      Statement ts p → Program us ps → Program (ts ++ us) (p :: ps)

/-- A statement: a comment needs no `;` behind it, everything else does. -/
inductive Statement : List Content → Shape → Prop
  | comment (text : String) : Statement [.comment text] (.comment text)
  | commentEnded (text : String) :
      Statement [.comment text, .operator ";"] (.comment text)
  | ended {ts : List Content} {p : Shape} :
      Expr ts p → p.isComment = false → Statement (ts ++ [.operator ";"]) p

inductive Expr : List Content → Shape → Prop
  | comment (text : String) : Expr [.comment text] (.comment text)
  | assignment {name : String} {ts : List Content} {p : Shape} :
      Expr ts p → Expr (.identifier name :: .operator "=" :: ts) (.assignment name p)
  | function {ts us : List Content} {names : List String} {p : Shape} :
      Row Name ts names → Expr us p →
      Expr (.operator "(" :: (ts ++ .operator ")" :: .operator "=>" :: us)) (.function names p)
  | binary {ts us : List Content} {p q : Shape} {symbol : String} :
      Term ts p → symbol ∈ Parser.binaryOperators → Expr us q →
      Expr (ts ++ .operator symbol :: us) (.call symbol [p, q])
  | term {ts : List Content} {p : Shape} : Term ts p → Expr ts p

inductive Term : List Content → Shape → Prop
  | call {name : String} {ts : List Content} {ps : List Shape} :
      Row Expr ts ps →
      Term (.identifier name :: .operator "(" :: (ts ++ [.operator ")"])) (.call name ps)
  | block {ts : List Content} {ps : List Shape} :
      Program ts ps → Term (.operator "\x7b" :: (ts ++ [.operator "\x7d"])) (.block ps)
  | list {ts : List Content} {ps : List Shape} :
      Row Expr ts ps → Term (.operator "[" :: (ts ++ [.operator "]"])) (.list ps)
  | literal (value : Literal) : Term [.literal value] (.literal value)
  | identifier (name : String) : Term [.identifier name] (.identifier name)

end

/-- A whole program, as a tree. -/
inductive Whole : List Content → Shape → Prop
  | program {ts : List Content} {ps : List Shape} : Program ts ps → Whole ts (.statements ps)

/-! ## First tokens -/

/-- The tokens that a term may begin with. -/
def opensTerm : Content → Bool
  | .identifier _ | .literal _ => true
  | .operator symbol => symbol == "\x7b" || symbol == "["
  | .comment _ => false

/-- The tokens that an expression may begin with. -/
def opensExpr : Content → Bool
  | .comment _ => true
  | .operator symbol => symbol == "(" || opensTerm (.operator symbol)
  | c => opensTerm c

theorem opensExpr_of_opensTerm {c : Content} (h : opensTerm c = true) : opensExpr c = true := by
  cases c with
  | operator symbol => simp only [opensExpr, h, Bool.or_true]
  | comment _ => rfl
  | identifier _ => rfl
  | literal _ => rfl

theorem Term.head {ts : List Content} {p : Shape} (h : Term ts p) :
    ∃ c us, ts = c :: us ∧ opensTerm c = true := by
  cases h with
  | call _ => exact ⟨_, _, rfl, rfl⟩
  | block _ => exact ⟨_, _, rfl, rfl⟩
  | list _ => exact ⟨_, _, rfl, rfl⟩
  | literal _ => exact ⟨_, _, rfl, rfl⟩
  | identifier _ => exact ⟨_, _, rfl, rfl⟩

theorem Expr.head {ts : List Content} {p : Shape} (h : Expr ts p) :
    ∃ c us, ts = c :: us ∧ opensExpr c = true := by
  cases h with
  | comment _ => exact ⟨_, _, rfl, rfl⟩
  | assignment _ => exact ⟨_, _, rfl, rfl⟩
  | function _ _ => exact ⟨_, _, rfl, rfl⟩
  | binary left _ _ =>
      obtain ⟨c, us, rfl, hc⟩ := left.head
      exact ⟨c, _, rfl, opensExpr_of_opensTerm hc⟩
  | term inner =>
      obtain ⟨c, us, rfl, hc⟩ := inner.head
      exact ⟨c, us, rfl, opensExpr_of_opensTerm hc⟩

theorem Statement.head {ts : List Content} {p : Shape} (h : Statement ts p) :
    ∃ c us, ts = c :: us ∧ opensExpr c = true := by
  cases h with
  | comment _ => exact ⟨_, _, rfl, rfl⟩
  | commentEnded _ => exact ⟨_, _, rfl, rfl⟩
  | ended inner _ =>
      obtain ⟨c, us, rfl, hc⟩ := inner.head
      exact ⟨c, _, rfl, hc⟩

theorem Expr.of_isComment {ts : List Content} {p : Shape} (h : Expr ts p)
    (hp : p.isComment = true) : ∃ text, ts = [.comment text] ∧ p = .comment text := by
  cases h with
  | comment text => exact ⟨text, rfl, rfl⟩
  | assignment _ => cases hp
  | function _ _ => cases hp
  | binary _ _ _ => cases hp
  | term inner => cases inner <;> cases hp

/-! ## What may stand behind a phrase

A name could go on as a call, a term as the left side of an operator, a name
as the target of an assignment, and a comment could take the `;` behind it. -/

def TermMayEnd (_ : Shape) (us : List Content) : Prop :=
  ∀ vs, us ≠ .operator "(" :: vs

/-- What may stand behind an expression; behind a comment, anything. -/
def ExprMayEnd (p : Shape) (us : List Content) : Prop :=
  p.isComment = true ∨
    ∀ symbol vs, us = .operator symbol :: vs →
      symbol ≠ "(" ∧ symbol ≠ "=" ∧ symbol ∉ Parser.binaryOperators

def StatementMayEnd (_ : Shape) (us : List Content) : Prop :=
  ∀ vs, us ≠ .operator ";" :: vs

/-- What may stand behind a program: nothing, or the end of the block. -/
def ProgramMayEnd (_ : List Shape) (us : List Content) : Prop :=
  us = [] ∨ ∃ vs, us = .operator "\x7d" :: vs

/-- What stands behind a row: its closer. -/
def RowMayEnd {σ : Type} (closer : String) (_ : List σ) (us : List Content) : Prop :=
  ∃ vs, us = .operator closer :: vs

theorem exprMayEnd_operator {symbol : String} (p : Shape) (vs : List Content)
    (h : symbol ≠ "(" ∧ symbol ≠ "=" ∧ symbol ∉ Parser.binaryOperators) :
    ExprMayEnd p (.operator symbol :: vs) := by
  refine .inr ?_
  intro other ws hws
  cases hws
  exact h

theorem exprMayEnd_nil (p : Shape) : ExprMayEnd p [] :=
  .inr fun _ _ h => nomatch h

/-- Where an expression that is no comment may end, the term at its end may, too. -/
theorem termMayEnd_of_exprMayEnd {p : Shape} {us : List Content} (hp : p.isComment = false)
    (h : ExprMayEnd p us) : TermMayEnd p us := by
  rintro vs rfl
  rcases h with h | h
  · rw [hp] at h
    cases h
  · exact (h _ _ rfl).1 rfl

theorem Term.isComment_eq_false {ts : List Content} {p : Shape} (h : Term ts p) :
    p.isComment = false := by
  cases h <;> rfl

/-- No term may end where an operator begins its right side, but every term may
stand in front of one. -/
theorem termMayEnd_binary {symbol : String} (h : symbol ∈ Parser.binaryOperators)
    (p : Shape) (us : List Content) : TermMayEnd p (.operator symbol :: us) := by
  rintro vs heq
  cases heq
  exact absurd h (by decide)

/-- A program and what may stand behind it never begin with `;`. -/
theorem Program.statementMayEnd {ts us : List Content} {ps : List Shape} (p : Shape)
    (h : Program ts ps) (hus : ProgramMayEnd ps us) : StatementMayEnd p (ts ++ us) := by
  intro vs heq
  cases h with
  | none =>
      rcases hus with rfl | ⟨ws, rfl⟩
      · cases heq
      · simp at heq
  | more first _ =>
      obtain ⟨c, ws, rfl, hc⟩ := first.head
      cases heq
      exact absurd hc (by decide)

/-! ## Inversion by the first token -/

/-- A term that begins with a name is the name or a call. -/
theorem Term.of_identifier {name : String} {ts us vs : List Content} {p : Shape}
    (h : Term ts p) (heq : .identifier name :: vs = ts ++ us) :
    (p = .identifier name ∧ us = vs) ∨
      ∃ rs ps, p = .call name ps ∧ Row Expr rs ps ∧
        vs = .operator "(" :: (rs ++ .operator ")" :: us) := by
  cases h with
  | call row =>
      cases heq
      exact .inr ⟨_, _, rfl, row, by simp⟩
  | block _ => cases heq
  | list _ => cases heq
  | literal _ => cases heq
  | identifier _ =>
      cases heq
      exact .inl ⟨rfl, rfl⟩

theorem Expr.of_comment {text : String} {ts us vs : List Content} {p : Shape}
    (h : Expr ts p) (heq : .comment text :: vs = ts ++ us) : p = .comment text ∧ us = vs := by
  cases h with
  | comment _ =>
      cases heq
      exact ⟨rfl, rfl⟩
  | assignment _ => cases heq
  | function _ _ => cases heq
  | binary left _ _ =>
      obtain ⟨c, ws, rfl, hc⟩ := left.head
      cases heq
      cases hc
  | term inner =>
      obtain ⟨c, ws, rfl, hc⟩ := inner.head
      cases heq
      cases hc

theorem Expr.of_paren {ts us vs : List Content} {p : Shape}
    (h : Expr ts p) (heq : .operator "(" :: vs = ts ++ us) :
    ∃ rs ws names q, p = .function names q ∧ Row Name rs names ∧ Expr ws q ∧
      vs = rs ++ .operator ")" :: .operator "=>" :: (ws ++ us) := by
  cases h with
  | comment _ => cases heq
  | assignment _ => cases heq
  | function row body =>
      cases heq
      exact ⟨_, _, _, _, rfl, row, body, by simp⟩
  | binary left _ _ =>
      obtain ⟨c, ws, rfl, hc⟩ := left.head
      cases heq
      cases hc
  | term inner =>
      obtain ⟨c, ws, rfl, hc⟩ := inner.head
      cases heq
      cases hc

/-- An expression that begins with `name =` is an assignment, or ends before the `=`. -/
theorem Expr.of_target {name : String} {ts us vs : List Content} {p : Shape}
    (h : Expr ts p) (heq : .identifier name :: .operator "=" :: vs = ts ++ us) :
    (∃ ws q, p = .assignment name q ∧ Expr ws q ∧ vs = ws ++ us) ∨ ¬ ExprMayEnd p us := by
  cases h with
  | comment _ => cases heq
  | assignment inner =>
      cases heq
      exact .inl ⟨_, _, rfl, inner, rfl⟩
  | function _ _ => cases heq
  | binary left hsymbol _ =>
      rw [List.append_assoc] at heq
      rcases left.of_identifier heq with ⟨rfl, heq⟩ | ⟨_, _, rfl, _, heq⟩
      · cases heq
        exact absurd hsymbol (by decide)
      · simp at heq
  | term inner =>
      refine .inr ?_
      rcases inner.of_identifier heq with ⟨rfl, rfl⟩ | ⟨_, _, rfl, _, heq⟩
      · rintro (h | h)
        · cases h
        · exact (h _ _ rfl).2.1 rfl
      · simp at heq

end Grammar

end Scriptlet
