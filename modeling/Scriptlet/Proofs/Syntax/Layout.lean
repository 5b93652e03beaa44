/-
# Layout does not show in trees

Of a token the parser looks at the content only; the place and the exact
characters go into spans and diagnostics.  So two rows of tokens with the same
contents are read alike: both as trees of the same shape, or both not at all
(`parseProgram_alike`).

The readers that go forward are compared with themselves (`Reader.Blind`), one
rule at a time; that the parser answers as they do is known from `Diagnosis`.  Comparing the
parser with itself would have to carry two memories and two furthest failures along, and
would say nothing more.

What two refusals say may differ, since a diagnostic quotes a token as it was written.
-/
import Scriptlet.Proofs.Syntax.Diagnosis
import Scriptlet.Proofs.Syntax.Derivation
import Mathlib.Data.List.Forall2

namespace Scriptlet

namespace Forward

open Scriptlet.Parser (textOf binaryOperator?)

/-! ## Blind readers -/

abbrev SameContents : List Token → List Token → Prop :=
  List.Forall₂ fun t u => t.content = u.content

theorem sameContents_iff {ts us : List Token} :
    SameContents ts us ↔ ts.map Token.content = us.map Token.content := by
  rw [← List.forall₂_eq_eq_eq, List.forall₂_map_left_iff, List.forall₂_map_right_iff]

/-- Two readers end alike, with tokens of the same contents left. -/
inductive Verdict.Alike {α β : Type} (Q : α → β → Prop) : Verdict α → Verdict β → Prop
  | ok {a : α} {b : β} {ts us : List Token} (hrest : SameContents ts us) (h : Q a b) :
      Alike Q (.ok a ts) (.ok b us)
  | stop {cause cause' : Cause} {ts us : List Token} (hrest : SameContents ts us) :
      Alike Q (.stop cause ts) (.stop cause' us)
  | deep {ts us : List Token} (hrest : SameContents ts us) : Alike Q (.deep ts) (.deep us)

/-- The two readers end alike on tokens of the same contents. -/
def Reader.Blind {α β : Type} (Q : α → β → Prop) (q : Reader α) (q' : Reader β) : Prop :=
  ∀ ts us, SameContents ts us → Verdict.Alike Q (q ts) (q' us)

section Combinators

variable {α β γ δ : Type} {Q : α → β → Prop} {R : γ → δ → Prop} {q : Reader α} {q' : Reader β}

theorem Reader.Blind.pure {a : α} {b : β} (h : Q a b) :
    Blind Q (Pure.pure a : Reader α) (Pure.pure b : Reader β) := by
  intro ts us hts
  exact .ok hts h

theorem Reader.Blind.refuse (what : String) :
    Blind Q (Forward.refuse what : Reader α) (Forward.refuse what : Reader β) := by
  intro ts us hts
  exact .stop hts

theorem Reader.Blind.bind {f : α → Reader γ} {g : β → Reader δ} (hq : Blind Q q q')
    (hfg : ∀ a b, Q a b → Blind R (f a) (g b)) : Blind R (q >>= f) (q' >>= g) := by
  intro ts us hts
  have hboth := hq ts us hts
  show Verdict.Alike R (Reader.bind q f ts) (Reader.bind q' g us)
  unfold Reader.bind
  generalize q ts = v, q' us = w at hboth
  cases hboth with
  | ok hrest h => exact hfg _ _ h _ _ hrest
  | stop hrest => exact .stop hrest
  | deep hrest => exact .deep hrest

theorem Reader.Blind.mono {Q' : α → β → Prop} (h : Blind Q q q') (hQ : ∀ a b, Q a b → Q' a b) :
    Blind Q' q q' := by
  intro ts us hts
  have hboth := h ts us hts
  generalize q ts = v, q' us = w at hboth
  cases hboth with
  | ok hrest h => exact .ok hrest (hQ _ _ h)
  | stop hrest => exact .stop hrest
  | deep hrest => exact .deep hrest

theorem Reader.Blind.ite {c : Prop} [Decidable c] {p : Reader α} {p' : Reader β}
    (h : Blind Q q q') (h' : Blind Q p p') :
    Blind Q (if c then q else p) (if c then q' else p') := by
  split
  · exact h
  · exact h'

theorem Reader.Blind.optional (hq : Blind Q q q') :
    Blind (Option.Rel Q) (Forward.optional q) (Forward.optional q') := by
  intro ts us hts
  have hboth := hq ts us hts
  unfold Forward.optional
  generalize q ts = v, q' us = w at hboth
  cases hboth with
  | ok hrest h => exact .ok hrest (.some h)
  | deep hrest => exact .deep hrest
  | stop hrest =>
      dsimp only
      rw [hrest.length_eq, hts.length_eq]
      split
      · exact .ok hts .none
      · exact .stop hrest

/-- A reader that looks at the next token, and sees no more of it than its content. -/
theorem blind_look {f : Option Token → α} {g : Option Token → β}
    (hnone : Q (f none) (g none))
    (hsome : ∀ t u, t.content = u.content → Q (f (some t)) (g (some u))) :
    Reader.Blind Q (fun ts => .ok (f ts.head?) ts) (fun us => .ok (g us.head?) us) := by
  intro ts us hts
  refine .ok hts ?_
  cases hts with
  | nil => exact hnone
  | cons h _ => exact hsome _ _ h

end Combinators

/-! ## Single tokens -/

section Tokens

variable {t u : Token}

theorem isOperator_eq (h : t.content = u.content) (symbol : String) :
    t.isOperator symbol = u.isOperator symbol := by
  rw [Token.isOperator, Token.isOperator, h]

theorem textOf_eq (h : t.content = u.content) (hkind : t.kind ≠ .literal) :
    textOf t = textOf u := by
  unfold textOf
  rw [← h]
  cases hc : t.content with
  | literal value => exact absurd (congrArg Content.kind hc) hkind
  | _ => rfl

theorem binaryOperator?_eq (h : t.content = u.content) :
    binaryOperator? t = binaryOperator? u := by
  rw [binaryOperator?, binaryOperator?, h]

theorem blind_take (fits : Token → Bool) (what : String)
    (h : ∀ t u, t.content = u.content → fits t = fits u) :
    Reader.Blind (fun t u => t.content = u.content ∧ fits t = true) (take fits what)
      (take fits what) := by
  intro ts us hts
  cases hts with
  | nil => exact .stop .nil
  | @cons t u _ _ htu hrest =>
      by_cases hfits : fits t = true
      · rw [take_of_fits hfits, take_of_fits (h t u htu ▸ hfits)]
        exact .ok hrest ⟨htu, hfits⟩
      · rw [take_of_not hfits, take_of_not (h t u htu ▸ hfits)]
        exact .stop (.cons htu hrest)

theorem blind_takeIf {β : Type} {R : β → β → Prop} (use : Token → Option β)
    (h : ∀ t u, t.content = u.content → Option.Rel R (use t) (use u)) :
    Reader.Blind (Option.Rel R) (takeIf use) (takeIf use) := by
  intro ts us hts
  cases hts with
  | nil => exact .ok .nil .none
  | @cons t u ts us htu hrest =>
      have hboth := h t u htu
      cases hleft : use t with
      | none =>
          rw [hleft] at hboth
          cases hright : use u with
          | none =>
              rw [takeIf_of_none hleft, takeIf_of_none hright]
              exact .ok (.cons htu hrest) .none
          | some c =>
              rw [hright] at hboth
              cases hboth
      | some b =>
          rw [hleft] at hboth
          cases hright : use u with
          | none =>
              rw [hright] at hboth
              cases hboth
          | some c =>
              rw [hright] at hboth
              rw [takeIf_of_some hleft, takeIf_of_some hright]
              exact .ok hrest hboth

theorem blind_ofKind (kind : TokenKind) :
    Reader.Blind (fun t u => t.content = u.content ∧ t.kind = kind) (ofKind kind) (ofKind kind) := by
  have hkind : ∀ t u : Token, t.content = u.content →
      decide (t.kind = kind) = decide (u.kind = kind) := by
    intro t u htu
    rw [Token.kind, Token.kind, htu]
  refine (blind_take _ kind.label hkind).mono ?_
  intro t u h
  exact ⟨h.1, of_decide_eq_true h.2⟩

theorem blind_operator (symbol : String) :
    Reader.Blind (fun _ _ => True) (operator symbol) (operator symbol) :=
  (blind_take _ _ fun _ _ htu => isOperator_eq htu symbol).mono fun _ _ _ => trivial

theorem blind_accept (symbol : String) :
    Reader.Blind (Option.Rel fun _ _ => True) (accept symbol) (accept symbol) := by
  refine blind_takeIf _ ?_
  intro t u htu
  rw [isOperator_eq htu symbol]
  split
  · exact .some trivial
  · exact .none

theorem blind_nextIs (symbol : String) : Reader.Blind Eq (nextIs symbol) (nextIs symbol) :=
  blind_look rfl fun _ _ htu => isOperator_eq htu symbol

theorem blind_atEnd : Reader.Blind Eq atEnd atEnd := blind_look rfl fun _ _ _ => rfl

theorem blind_here (finish finish' : Position) :
    Reader.Blind (fun _ _ => True) (here finish) (here finish') :=
  blind_look trivial fun _ _ _ => trivial

theorem blind_peek :
    Reader.Blind (fun t u => Opening.ofToken? t = Opening.ofToken? u) peek peek := by
  intro ts us hts
  refine .ok hts ?_
  cases hts with
  | nil => rfl
  | cons htu _ => exact congrArg Opening.ofContent htu

end Tokens

/-! ## Rules -/

abbrev SameShape (a b : Node) : Prop := a.shape = b.shape

theorem isComment_eq {a b : Node} (h : SameShape a b) : a.isComment = b.isComment := by
  rw [← Node.isComment_shape, ← Node.isComment_shape, h]

theorem shapes_eq {xs ys : List Node} (h : List.Forall₂ SameShape xs ys) :
    Node.shapes xs = Node.shapes ys := by
  induction h with
  | nil => rfl
  | cons hfirst _ ih => rw [Node.shapes, Node.shapes, hfirst, ih]

section Rows

variable {α β : Type} {Q : α → β → Prop} {item : Reader α} {item' : Reader β}

theorem blind_rowUpTo (h : Reader.Blind Q item item') (closer : String) (bound : Nat) :
    Reader.Blind (List.Forall₂ Q) (rowUpTo item closer bound) (rowUpTo item' closer bound) := by
  induction bound with
  | zero => exact .pure .nil
  | succ bound ih =>
      refine (blind_nextIs closer).bind ?_
      rintro closing _ rfl
      refine .ite (.pure .nil) (h.bind ?_)
      intro first first' hfirst
      refine (blind_accept ",").bind ?_
      intro comma comma' hcomma
      cases hcomma with
      | none => exact .pure (.cons hfirst .nil)
      | some =>
          refine ih.bind ?_
          intro rest rest' hrest
          exact .pure (.cons hfirst hrest)

theorem blind_row (h : Reader.Blind Q item item') (closer : String) :
    Reader.Blind (List.Forall₂ Q) (row item closer) (row item' closer) := by
  intro ts us hts
  unfold row
  rw [hts.length_eq]
  exact blind_rowUpTo h closer (us.length + 1) ts us hts

end Rows

section Rules

variable {finish finish' : Position} {expr expr' : Reader Node}
  (h : Reader.Blind SameShape expr expr')

include h

theorem blind_statement :
    Reader.Blind (fun a b => SameShape a.1 b.1) (statement expr) (statement expr') := by
  refine h.bind ?_
  intro node node' hnode
  rw [isComment_eq hnode]
  refine .ite ?_ ?_
  · exact (blind_accept ";").bind fun _ _ _ => .pure hnode
  · exact (blind_operator ";").bind fun _ _ _ => .pure hnode

theorem blind_statementsUpTo (bound : Nat) :
    Reader.Blind (List.Forall₂ fun a b => SameShape a.1 b.1) (statementsUpTo expr bound)
      (statementsUpTo expr' bound) := by
  induction bound with
  | zero => exact .pure .nil
  | succ bound ih =>
      refine blind_atEnd.bind ?_
      rintro ended _ rfl
      refine .ite (.pure .nil) ((blind_statement h).optional.bind ?_)
      intro first first' hfirst
      cases hfirst with
      | none => exact .pure .nil
      | some hfirst =>
          refine ih.bind ?_
          intro rest rest' hrest
          exact .pure (.cons hfirst hrest)

theorem blind_statements :
    Reader.Blind (List.Forall₂ fun a b => SameShape a.1 b.1) (statements expr)
      (statements expr') := by
  intro ts us hts
  unfold statements
  rw [hts.length_eq]
  exact blind_statementsUpTo h us.length ts us hts

theorem blind_items :
    Reader.Blind (fun a b => List.Forall₂ SameShape a.1 b.1) (items finish expr)
      (items finish' expr') := by
  refine (blind_here finish finish').bind ?_
  intro start start' _
  refine (blind_statements h).bind ?_
  intro found found' hfound
  exact .pure (List.forall₂_map_left_iff.2 (List.forall₂_map_right_iff.2 hfound))

theorem blind_program : Reader.Blind SameShape (program finish expr) (program finish' expr') := by
  refine (blind_items h).bind ?_
  intro found found' hfound
  exact .pure (congrArg Shape.statements (shapes_eq hfound))

omit h in
theorem blind_comment : Reader.Blind SameShape comment comment := by
  refine (blind_ofKind .comment).bind ?_
  rintro t u ⟨htu, hkind⟩
  have htext := textOf_eq htu (by rw [hkind]; decide)
  exact .pure (congrArg Shape.comment htext)

omit h in
theorem blind_literal : Reader.Blind SameShape literal literal := by
  refine (blind_ofKind .literal).bind ?_
  rintro t u ⟨htu, hkind⟩
  rw [htu]
  split
  · exact .pure rfl
  · exact .refuse _

/-- A name that was taken, and its partner. -/
abbrev SameName (t u : Token) : Prop := t.content = u.content ∧ t.kind = .identifier

omit h in
theorem SameName.textOf_eq {t u : Token} (h : SameName t u) : textOf t = textOf u :=
  Forward.textOf_eq h.1 (by rw [h.2]; decide)

theorem blind_afterName {t u : Token} (hname : SameName t u) :
    Reader.Blind SameShape (afterName expr t) (afterName expr' u) := by
  refine (blind_accept "(").bind ?_
  intro opener opener' hopener
  cases hopener with
  | none => exact .pure (congrArg Shape.identifier hname.textOf_eq)
  | some =>
      refine (blind_row h ")").bind ?_
      intro args args' hargs
      refine (blind_operator ")").bind ?_
      intro closer closer' _
      refine .pure ?_
      show Shape.call (textOf t) (Node.shapes args) = Shape.call (textOf u) (Node.shapes args')
      rw [hname.textOf_eq, shapes_eq hargs]

theorem blind_block : Reader.Blind SameShape (block finish expr) (block finish' expr') := by
  refine (blind_operator "\x7b").bind ?_
  intro opener opener' _
  refine (blind_items h).bind ?_
  intro found found' hfound
  refine (blind_operator "\x7d").bind ?_
  intro closer closer' _
  exact .pure (congrArg Shape.block (shapes_eq hfound))

theorem blind_listLiteral : Reader.Blind SameShape (listLiteral expr) (listLiteral expr') := by
  refine (blind_operator "[").bind ?_
  intro opener opener' _
  refine (blind_row h "]").bind ?_
  intro found found' hfound
  refine (blind_operator "]").bind ?_
  intro closer closer' _
  exact .pure (congrArg Shape.list (shapes_eq hfound))

omit h in
theorem names_eq {ts us : List Token} (h : List.Forall₂ SameName ts us) :
    ts.map textOf = us.map textOf := by
  induction h with
  | nil => rfl
  | cons hfirst _ ih => rw [List.map_cons, List.map_cons, SameName.textOf_eq hfirst, ih]

theorem blind_function : Reader.Blind SameShape (function expr) (function expr') := by
  refine (blind_operator "(").bind ?_
  intro opener opener' _
  refine (blind_row (blind_ofKind .identifier) ")").bind ?_
  intro params params' hparams
  refine (blind_operator ")").bind ?_
  intro closer closer' _
  refine (blind_operator "=>").bind ?_
  intro arrow arrow' _
  refine h.bind ?_
  intro body body' hbody
  refine .pure ?_
  show Shape.function (params.map textOf) body.shape = Shape.function (params'.map textOf) body'.shape
  rw [names_eq hparams, hbody]

theorem blind_afterOperand {left left' : Node} (hleft : SameShape left left') :
    Reader.Blind SameShape (afterOperand expr left) (afterOperand expr' left') := by
  have hsymbol : ∀ t u : Token, t.content = u.content →
      Option.Rel Eq (binaryOperator? t) (binaryOperator? u) := by
    intro t u htu
    rw [binaryOperator?_eq htu]
    cases binaryOperator? u with
    | none => exact .none
    | some symbol => exact .some rfl
  refine (blind_takeIf binaryOperator? hsymbol).bind ?_
  intro symbol symbol' hboth
  cases hboth with
  | none => exact .pure hleft
  | some hsame =>
      subst hsame
      refine h.bind ?_
      intro right right' hright
      exact .pure (congrArg (Shape.call _) (shapes_eq (.cons hleft (.cons hright .nil))))

theorem blind_afterFirstName {t u : Token} (hname : SameName t u) :
    Reader.Blind SameShape (afterFirstName expr t) (afterFirstName expr' u) := by
  refine (blind_accept "=").bind ?_
  intro equals equals' hequals
  cases hequals with
  | some =>
      refine h.bind ?_
      intro value value' hvalue
      refine .pure ?_
      show Shape.assignment (textOf t) value.shape = Shape.assignment (textOf u) value'.shape
      rw [hname.textOf_eq, hvalue]
  | none =>
      refine (blind_afterName h hname).bind ?_
      intro left left' hleft
      exact blind_afterOperand h hleft

theorem blind_term : Reader.Blind SameShape (term finish expr) (term finish' expr') := by
  refine blind_peek.bind ?_
  intro next next' hnext
  rw [hnext]
  cases Opening.ofToken? next' with
  | name =>
      refine (blind_ofKind .identifier).bind ?_
      intro t u hname
      exact blind_afterName h hname
  | literal => exact blind_literal
  | brace => exact blind_block h
  | bracket => exact blind_listLiteral h
  | _ => exact .refuse _

theorem blind_layer : Reader.Blind SameShape (layer finish expr) (layer finish' expr') := by
  have operation : Reader.Blind SameShape (term finish expr >>= afterOperand expr)
      (term finish' expr' >>= afterOperand expr') :=
    (blind_term h).bind fun _ _ hleft => blind_afterOperand h hleft
  refine blind_peek.bind ?_
  intro next next' hnext
  rw [hnext]
  cases Opening.ofToken? next' with
  | comment => exact blind_comment
  | name =>
      refine (blind_ofKind .identifier).bind ?_
      intro t u hname
      exact blind_afterFirstName h hname
  | paren => exact blind_function h
  | nothing => exact .refuse _
  | _ => exact operation

end Rules

theorem blind_exprUpTo (finish finish' : Position) (depth : Nat) :
    Reader.Blind SameShape (exprUpTo finish depth) (exprUpTo finish' depth) := by
  induction depth with
  | zero => exact fun ts us hts => .deep hts
  | succ depth ih => exact blind_layer ih

end Forward

/-! ## Whole programs -/

/-- Both are trees of the same shape, or both are refused. -/
inductive ReadAlike : Except Diagnostic Node → Except Diagnostic Node → Prop
  | parsed {node node' : Node} (h : node.shape = node'.shape) : ReadAlike (.ok node) (.ok node')
  | refused (d d' : Diagnostic) : ReadAlike (.error d) (.error d')

theorem answer_alike (i i' : Parser.Input) {v w : Forward.Verdict Node}
    (h : v.Alike Forward.SameShape w) : ReadAlike (i.answer v) (i'.answer w) := by
  cases h with
  | ok hrest hshape =>
      cases hrest with
      | nil => exact .parsed hshape
      | cons _ _ => exact .refused _ _
  | stop hrest => exact .refused _ _
  | deep hrest => exact .refused _ _

/-- **Tokens of the same contents are read alike**, whatever their places and sources. -/
theorem parseProgram_alike (source source' : Source) {tokens tokens' : List Token}
    (h : Forward.SameContents tokens tokens') :
    ReadAlike (parseProgram source tokens) (parseProgram source' tokens') := by
  rw [parseProgram, parseProgram, Parser.wholeProgram_eq, Parser.wholeProgram_eq]
  refine answer_alike _ _ (Forward.blind_program (Forward.blind_exprUpTo _ _ _) _ _ ?_)
  exact h

end Scriptlet
