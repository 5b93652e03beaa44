/-
# Reading phrases off the front of the input

`Reading Phrase mayEnd input answer` says what the right answer to "read a
phrase off the front of `input`" is.

    an answer with a rest    the tokens in front of the rest derive the phrase, so nothing is
                             made up; and every other way to take a phrase off the front,
                             with something behind it that may stand there, is this very one,
                             so nothing is hidden
    a refusal                there is no such way at all

What may stand behind a phrase is part of it, since a phrase can be the beginning of a longer
one: a name, of a call; a term, of an operation.  Without that, the first half of a phrase
would be another way to take it off the front.

The lemmas say how the right answer for a phrase comes from the right answers
for its parts: for rows with commas, for statements, for phrases with a closer behind them,
for terms and for expressions.  Here stands the whole argument that trying alternatives in
order, and taking as many items or statements as there are, never hides a
derivation; no parser is mentioned.
-/
import Scriptlet.Proofs.Syntax.Derivation

namespace Scriptlet.Grammar

/-- The right answer to reading a phrase off the front of the input. -/
def Reading {σ : Type} (Phrase : List Content → σ → Prop) (mayEnd : σ → List Content → Prop)
    (input : List Content) : Option (σ × List Content) → Prop
  | some (p, rest) =>
      (∃ ts, input = ts ++ rest ∧ Phrase ts p) ∧
        ∀ ts q us, input = ts ++ us → Phrase ts q → mayEnd q us → q = p ∧ us = rest
  | none => ∀ ts q us, input = ts ++ us → Phrase ts q → ¬ mayEnd q us

/-! ## Rows -/

section Rows

variable {σ : Type} {Item : List Content → σ → Prop} {mayEnd : σ → List Content → Prop}
  {closer : String}

/-- A row of items that never begin with the closer, and may end in front of a
comma and in front of the closer. -/
structure RowOf (Item : List Content → σ → Prop) (mayEnd : σ → List Content → Prop)
    (closer : String) : Prop where
  ne_comma : closer ≠ ","
  head_ne {ts : List Content} {p : σ} : Item ts p → ∃ c us, ts = c :: us ∧ c ≠ .operator closer
  comma (p : σ) (us : List Content) : mayEnd p (.operator "," :: us)
  closed (p : σ) (us : List Content) : mayEnd p (.operator closer :: us)

/-- In front of its closer a row is empty or begins with an item. -/
theorem RowOf.begins (row : RowOf Item mayEnd closer) {ts us : List Content} {ps : List σ}
    (h : Row Item ts ps) (hend : RowMayEnd closer ps us) :
    (ps = [] ∧ ts = []) ∨
      (∃ p, ps = [p] ∧ Item ts p ∧ mayEnd p us) ∨
      ∃ p qs vs ws, ps = p :: qs ∧ ts = vs ++ .operator "," :: ws ∧ Item vs p ∧
        mayEnd p (.operator "," :: (ws ++ us)) ∧ Row Item ws qs := by
  cases h with
  | none => exact .inl ⟨rfl, rfl⟩
  | last first =>
      obtain ⟨vs, rfl⟩ := hend
      exact .inr (.inl ⟨_, rfl, first, row.closed _ _⟩)
  | more first rest =>
      exact .inr (.inr ⟨_, _, _, _, rfl, rfl, first, row.comma _ _, rest⟩)

theorem reading_row_closed (row : RowOf Item mayEnd closer) {input : List Content}
    (h : ∃ us, input = .operator closer :: us) :
    Reading (Row Item) (RowMayEnd closer) input (some ([], input)) := by
  refine ⟨⟨[], rfl, .none⟩, ?_⟩
  intro ts qs us hin hd hend
  obtain ⟨vs, rfl⟩ := h
  rcases row.begins hd hend with
    ⟨rfl, rfl⟩ | ⟨p, rfl, first, -⟩ | ⟨p, qs, ts, ws, rfl, rfl, first, -⟩
  · exact ⟨rfl, hin.symm⟩
  · obtain ⟨c, ws, rfl, hc⟩ := row.head_ne first
    cases hin
    exact absurd rfl hc
  · obtain ⟨c, ws, rfl, hc⟩ := row.head_ne first
    cases hin
    exact absurd rfl hc

theorem reading_row_none (row : RowOf Item mayEnd closer) {input : List Content}
    (hopen : ¬ ∃ us, input = .operator closer :: us) (h : Reading Item mayEnd input none) :
    Reading (Row Item) (RowMayEnd closer) input none := by
  intro ts qs us hin hd hend
  rcases row.begins hd hend with ⟨rfl, rfl⟩ | ⟨p, rfl, first, hp⟩ |
      ⟨p, qs, vs, ws, rfl, rfl, first, hp, -⟩
  · obtain ⟨vs, rfl⟩ := hend
    exact hopen ⟨vs, hin⟩
  · exact h _ _ _ hin first hp
  · rw [List.append_assoc] at hin
    exact h _ _ _ hin first hp

theorem reading_row_last (row : RowOf Item mayEnd closer) {input rest : List Content} {p : σ}
    (hopen : ¬ ∃ us, input = .operator closer :: us)
    (h : Reading Item mayEnd input (some (p, rest))) (hrest : ∀ us, rest ≠ .operator "," :: us) :
    Reading (Row Item) (RowMayEnd closer) input (some ([p], rest)) := by
  obtain ⟨⟨ts, hin, first⟩, honly⟩ := h
  refine ⟨⟨ts, hin, .last first⟩, ?_⟩
  intro ts qs us hin hd hend
  rcases row.begins hd hend with ⟨rfl, rfl⟩ | ⟨q, rfl, first, hq⟩ |
      ⟨q, qs, vs, ws, rfl, rfl, first, hq, -⟩
  · obtain ⟨vs, rfl⟩ := hend
    exact absurd ⟨vs, hin⟩ hopen
  · obtain ⟨rfl, rfl⟩ := honly _ _ _ hin first hq
    exact ⟨rfl, rfl⟩
  · rw [List.append_assoc] at hin
    exact absurd (honly _ _ _ hin first hq).2.symm (hrest _)

theorem reading_row_more (row : RowOf Item mayEnd closer) {input behind : List Content} {p : σ}
    {answer : Option (List σ × List Content)}
    (hopen : ¬ ∃ us, input = .operator closer :: us)
    (h : Reading Item mayEnd input (some (p, .operator "," :: behind)))
    (hmore : Reading (Row Item) (RowMayEnd closer) behind answer) :
    Reading (Row Item) (RowMayEnd closer) input
      (answer.map fun (ps, rest) => (p :: ps, rest)) := by
  obtain ⟨⟨ts, hin, first⟩, honly⟩ := h
  -- Whatever row begins here, its first item is the one that was read.
  have hcont : ∀ us vs qs, input = us ++ vs → Row Item us qs → RowMayEnd closer qs vs →
      ∃ ws rs, qs = p :: rs ∧ behind = ws ++ vs ∧ Row Item ws rs := by
    intro us vs qs hin hd hend
    rcases row.begins hd hend with ⟨rfl, rfl⟩ | ⟨q, rfl, first, hq⟩ |
        ⟨q, qs, ts, ws, rfl, rfl, first, hq, rest⟩
    · obtain ⟨vs, rfl⟩ := hend
      exact absurd ⟨vs, hin⟩ hopen
    · obtain ⟨ws, rfl⟩ := hend
      have hcomma := (honly _ _ _ hin first hq).2
      injection hcomma with hhead _
      injection hhead with hhead
      exact absurd hhead row.ne_comma
    · rw [List.append_assoc] at hin
      obtain ⟨rfl, hbehind⟩ := honly _ _ _ hin first hq
      injection hbehind with _ hbehind
      exact ⟨ws, qs, rfl, hbehind.symm, rest⟩
  cases answer with
  | none =>
      intro us qs vs hin hd hend
      obtain ⟨ws, rs, -, hbehind, hrest⟩ := hcont _ _ _ hin hd hend
      exact hmore _ _ _ hbehind hrest hend
  | some found =>
      obtain ⟨⟨ws, rfl, hrest⟩, honlyRest⟩ := hmore
      refine ⟨⟨ts ++ .operator "," :: ws, by simp [hin], .more first hrest⟩, ?_⟩
      intro us qs vs hin hd hend
      obtain ⟨ws, rs, rfl, hbehind, hrest⟩ := hcont _ _ _ hin hd hend
      obtain ⟨rfl, rfl⟩ := honlyRest _ _ _ hbehind hrest hend
      exact ⟨rfl, rfl⟩

end Rows

/-! ## Statements -/

/-- A statement is an expression with something behind it that may stand there:
the `;`, or for a comment what follows it. -/
theorem Statement.expr {ts : List Content} {p : Shape} (h : Statement ts p)
    (us : List Content) :
    ∃ vs ws, ts ++ us = vs ++ ws ∧ Expr vs p ∧ ExprMayEnd p ws ∧
      (ws = .operator ";" :: us ∨ (p.isComment = true ∧ ws = us)) := by
  cases h with
  | comment text => exact ⟨_, us, rfl, .comment text, .inl rfl, .inr ⟨rfl, rfl⟩⟩
  | commentEnded text => exact ⟨_, .operator ";" :: us, rfl, .comment text, .inl rfl, .inl rfl⟩
  | ended inner _ =>
      refine ⟨_, .operator ";" :: us, ?_, inner, ?_, .inl rfl⟩
      · rw [List.append_assoc]
        rfl
      · exact exprMayEnd_operator _ _ (by decide)

theorem Expr.ended {ts : List Content} {p : Shape} (h : Expr ts p) :
    Statement (ts ++ [.operator ";"]) p := by
  cases hp : p.isComment with
  | false => exact .ended h hp
  | true =>
      obtain ⟨text, rfl, rfl⟩ := h.of_isComment hp
      exact .commentEnded text

theorem reading_statement_none {input : List Content} (h : Reading Expr ExprMayEnd input none) :
    Reading Statement StatementMayEnd input none := by
  intro ts q us hin hd _
  obtain ⟨vs, ws, heq, inner, hend, -⟩ := hd.expr us
  exact h _ _ _ (hin.trans heq) inner hend

theorem reading_statement_ended {input rest : List Content} {p : Shape}
    (h : Reading Expr ExprMayEnd input (some (p, .operator ";" :: rest))) :
    Reading Statement StatementMayEnd input (some (p, rest)) := by
  obtain ⟨⟨ts, hin, inner⟩, honly⟩ := h
  refine ⟨⟨ts ++ [.operator ";"], by simp [hin], inner.ended⟩, ?_⟩
  intro ts q us hin hd hend
  obtain ⟨vs, ws, heq, inner, hws, hsep⟩ := hd.expr us
  obtain ⟨rfl, rfl⟩ := honly _ _ _ (hin.trans heq) inner hws
  rcases hsep with hsep | ⟨-, hsep⟩
  · injection hsep with _ hsep
    exact ⟨rfl, hsep.symm⟩
  · exact absurd hsep.symm (hend _)

theorem reading_statement_comment {input rest : List Content} {p : Shape}
    (h : Reading Expr ExprMayEnd input (some (p, rest))) (hp : p.isComment = true)
    (hrest : ∀ us, rest ≠ .operator ";" :: us) :
    Reading Statement StatementMayEnd input (some (p, rest)) := by
  obtain ⟨⟨ts, hin, inner⟩, honly⟩ := h
  obtain ⟨text, rfl, rfl⟩ := inner.of_isComment hp
  refine ⟨⟨_, hin, .comment text⟩, ?_⟩
  intro ts q us hin hd _
  obtain ⟨vs, ws, heq, inner, hws, hsep⟩ := hd.expr us
  obtain ⟨rfl, rfl⟩ := honly _ _ _ (hin.trans heq) inner hws
  rcases hsep with hsep | ⟨-, hsep⟩
  · exact absurd hsep (hrest _)
  · exact ⟨rfl, hsep.symm⟩

theorem reading_statement_unended {input rest : List Content} {p : Shape}
    (h : Reading Expr ExprMayEnd input (some (p, rest))) (hp : p.isComment = false)
    (hrest : ∀ us, rest ≠ .operator ";" :: us) :
    Reading Statement StatementMayEnd input none := by
  obtain ⟨-, honly⟩ := h
  intro ts q us hin hd _
  obtain ⟨vs, ws, heq, inner, hws, hsep⟩ := hd.expr us
  obtain ⟨rfl, rfl⟩ := honly _ _ _ (hin.trans heq) inner hws
  rcases hsep with hsep | ⟨hq, -⟩
  · exact hrest _ hsep
  · rw [hp] at hq
    cases hq

theorem reading_program_nil : Reading Program ProgramMayEnd [] (some ([], [])) := by
  refine ⟨⟨[], rfl, .none⟩, ?_⟩
  intro ts qs us hin hd _
  cases hd with
  | none => exact ⟨rfl, hin.symm⟩
  | more first _ =>
      obtain ⟨c, vs, rfl, -⟩ := first.head
      cases hin

theorem reading_program_stop {input : List Content}
    (h : Reading Statement StatementMayEnd input none) :
    Reading Program ProgramMayEnd input (some ([], input)) := by
  refine ⟨⟨[], rfl, .none⟩, ?_⟩
  intro ts qs us hin hd hend
  cases hd with
  | none => exact ⟨rfl, hin.symm⟩
  | more first rest =>
      rw [List.append_assoc] at hin
      exact absurd (rest.statementMayEnd _ hend) (h _ _ _ hin first)

theorem reading_program_more {input behind rest : List Content} {p : Shape} {ps : List Shape}
    (hfirst : Reading Statement StatementMayEnd input (some (p, behind)))
    (hmore : Reading Program ProgramMayEnd behind (some (ps, rest))) :
    Reading Program ProgramMayEnd input (some (p :: ps, rest)) := by
  obtain ⟨⟨ts, rfl, first⟩, honly⟩ := hfirst
  obtain ⟨⟨us, rfl, more⟩, honlyMore⟩ := hmore
  refine ⟨⟨ts ++ us, by rw [List.append_assoc], .more first more⟩, ?_⟩
  intro vs qs ws hin hd hend
  cases hd with
  | none =>
      obtain ⟨c, cs, rfl, hc⟩ := first.head
      rcases hend with rfl | ⟨xs, rfl⟩
      · cases hin
      · cases hin
        exact absurd hc (by decide)
  | more other others =>
      rw [List.append_assoc] at hin
      obtain ⟨rfl, hbehind⟩ := honly _ _ _ hin other (others.statementMayEnd _ hend)
      obtain ⟨rfl, rfl⟩ := honlyMore _ _ _ hbehind.symm others hend
      exact ⟨rfl, rfl⟩

/-! ## Phrases with a closer behind them -/

def Closed {σ : Type} (Phrase : List Content → σ → Prop) (closer : String)
    (ts : List Content) (p : σ) : Prop :=
  ∃ us, ts = us ++ [.operator closer] ∧ Phrase us p

/-- Anything may stand behind a closer. -/
def AlwaysEnds {σ : Type} (_ : σ) (_ : List Content) : Prop := True

section Closers

variable {σ : Type} {Phrase : List Content → σ → Prop} {mayEnd : σ → List Content → Prop}
  {closer : String} {input rest : List Content} {p : σ}

theorem reading_closed_none (hend : ∀ q us, mayEnd q (.operator closer :: us))
    (h : Reading Phrase mayEnd input none) :
    Reading (Closed Phrase closer) AlwaysEnds input none := by
  rintro ts q us hin ⟨vs, rfl, inner⟩ -
  rw [List.append_assoc] at hin
  exact h _ _ _ hin inner (hend _ _)

theorem reading_unclosed (hend : ∀ q us, mayEnd q (.operator closer :: us))
    (h : Reading Phrase mayEnd input (some (p, rest)))
    (hrest : ∀ us, rest ≠ .operator closer :: us) :
    Reading (Closed Phrase closer) AlwaysEnds input none := by
  rintro ts q us hin ⟨vs, rfl, inner⟩ -
  rw [List.append_assoc] at hin
  exact hrest _ (h.2 _ _ _ hin inner (hend _ _)).2.symm

theorem reading_closed (hend : ∀ q us, mayEnd q (.operator closer :: us))
    (h : Reading Phrase mayEnd input (some (p, .operator closer :: rest))) :
    Reading (Closed Phrase closer) AlwaysEnds input (some (p, rest)) := by
  obtain ⟨⟨ts, hin, inner⟩, honly⟩ := h
  refine ⟨⟨ts ++ [.operator closer], by simp [hin], ts, rfl, inner⟩, ?_⟩
  rintro ts q us hin ⟨vs, rfl, inner⟩ -
  rw [List.append_assoc] at hin
  obtain ⟨rfl, heq⟩ := honly _ _ _ hin inner (hend _ _)
  injection heq with _ heq
  exact ⟨rfl, heq⟩

end Closers

/-! ## Terms -/

def IsCall (ts : List Content) (p : Shape) : Prop :=
  ∃ name us ps, ts = .identifier name :: .operator "(" :: us ∧ p = .call name ps ∧
    Closed (Row Expr) ")" us ps

def IsBlock (ts : List Content) (p : Shape) : Prop :=
  ∃ us ps, ts = .operator "\x7b" :: us ∧ p = .block ps ∧ Closed Program "\x7d" us ps

def IsList (ts : List Content) (p : Shape) : Prop :=
  ∃ us ps, ts = .operator "[" :: us ∧ p = .list ps ∧ Closed (Row Expr) "]" us ps

def IsLiteral (ts : List Content) (p : Shape) : Prop :=
  ∃ value, ts = [.literal value] ∧ p = .literal value

/-- A name. -/
def IsIdentifier (ts : List Content) (p : Shape) : Prop :=
  ∃ name, ts = [.identifier name] ∧ p = .identifier name

theorem term_iff {ts : List Content} {p : Shape} :
    Term ts p ↔ IsCall ts p ∨ IsBlock ts p ∨ IsList ts p ∨ IsLiteral ts p ∨ IsIdentifier ts p := by
  constructor
  · intro h
    cases h with
    | call row => exact .inl ⟨_, _, _, rfl, rfl, _, rfl, row⟩
    | block body => exact .inr (.inl ⟨_, _, rfl, rfl, _, rfl, body⟩)
    | list row => exact .inr (.inr (.inl ⟨_, _, rfl, rfl, _, rfl, row⟩))
    | literal value => exact .inr (.inr (.inr (.inl ⟨value, rfl, rfl⟩)))
    | identifier name => exact .inr (.inr (.inr (.inr ⟨name, rfl, rfl⟩)))
  · rintro (⟨_, _, _, rfl, rfl, _, rfl, row⟩ | ⟨_, _, rfl, rfl, _, rfl, body⟩ |
      ⟨_, _, rfl, rfl, _, rfl, row⟩ | ⟨value, rfl, rfl⟩ | ⟨name, rfl, rfl⟩)
    · exact .call row
    · exact .block body
    · exact .list row
    · exact .literal value
    · exact .identifier name

theorem reading_term_call {name : String} {behind rest : List Content} {ps : List Shape}
    (h : Reading (Closed (Row Expr) ")") AlwaysEnds behind (some (ps, rest))) :
    Reading Term TermMayEnd (.identifier name :: .operator "(" :: behind)
      (some (.call name ps, rest)) := by
  obtain ⟨⟨ts, rfl, hclosed⟩, honly⟩ := h
  refine ⟨⟨.identifier name :: .operator "(" :: ts, rfl,
    term_iff.2 (.inl ⟨_, _, _, rfl, rfl, hclosed⟩)⟩, ?_⟩
  intro us q vs hin hd hend
  rcases term_iff.1 hd with ⟨_, ws, qs, rfl, rfl, hother⟩ | ⟨_, _, rfl, -⟩ | ⟨_, _, rfl, -⟩ |
      ⟨_, rfl, -⟩ | ⟨_, rfl, -⟩
  · obtain ⟨hname, htail⟩ := List.cons.inj hin
    cases hname
    obtain ⟨rfl, rfl⟩ := honly _ _ _ (List.cons.inj htail).2 hother trivial
    exact ⟨rfl, rfl⟩
  · cases hin
  · cases hin
  · cases hin
  · cases hin
    exact absurd rfl (hend _)

theorem reading_term_block {behind rest : List Content} {ps : List Shape}
    (h : Reading (Closed Program "\x7d") AlwaysEnds behind (some (ps, rest))) :
    Reading Term TermMayEnd (.operator "\x7b" :: behind) (some (.block ps, rest)) := by
  obtain ⟨⟨ts, rfl, hclosed⟩, honly⟩ := h
  refine ⟨⟨.operator "\x7b" :: ts, rfl,
    term_iff.2 (.inr (.inl ⟨_, _, rfl, rfl, hclosed⟩))⟩, ?_⟩
  intro us q vs hin hd hend
  rcases term_iff.1 hd with ⟨_, _, _, rfl, -⟩ | ⟨ws, qs, rfl, rfl, hother⟩ | ⟨_, _, rfl, -⟩ |
      ⟨_, rfl, -⟩ | ⟨_, rfl, -⟩
  · cases hin
  · obtain ⟨rfl, rfl⟩ := honly _ _ _ (List.cons.inj hin).2 hother trivial
    exact ⟨rfl, rfl⟩
  · simp at hin
  · cases hin
  · cases hin

theorem reading_term_list {behind rest : List Content} {ps : List Shape}
    (h : Reading (Closed (Row Expr) "]") AlwaysEnds behind (some (ps, rest))) :
    Reading Term TermMayEnd (.operator "[" :: behind) (some (.list ps, rest)) := by
  obtain ⟨⟨ts, rfl, hclosed⟩, honly⟩ := h
  refine ⟨⟨.operator "[" :: ts, rfl,
    term_iff.2 (.inr (.inr (.inl ⟨_, _, rfl, rfl, hclosed⟩)))⟩, ?_⟩
  intro us q vs hin hd hend
  rcases term_iff.1 hd with ⟨_, _, _, rfl, -⟩ | ⟨_, _, rfl, -⟩ | ⟨ws, qs, rfl, rfl, hother⟩ |
      ⟨_, rfl, -⟩ | ⟨_, rfl, -⟩
  · cases hin
  · simp at hin
  · obtain ⟨rfl, rfl⟩ := honly _ _ _ (List.cons.inj hin).2 hother trivial
    exact ⟨rfl, rfl⟩
  · cases hin
  · cases hin

theorem reading_term_literal (value : Literal) (rest : List Content) :
    Reading Term TermMayEnd (.literal value :: rest) (some (.literal value, rest)) := by
  refine ⟨⟨_, rfl, .literal value⟩, ?_⟩
  intro us q vs hin hd _
  rcases term_iff.1 hd with ⟨_, _, _, rfl, -⟩ | ⟨_, _, rfl, -⟩ | ⟨_, _, rfl, -⟩ |
      ⟨_, rfl, rfl⟩ | ⟨_, rfl, -⟩ <;> cases hin
  exact ⟨rfl, rfl⟩

/-- A name that does not begin a call is read as a name. -/
theorem reading_term_identifier {name : String} {rest : List Content}
    (hcall : Reading IsCall TermMayEnd (.identifier name :: rest) none) :
    Reading Term TermMayEnd (.identifier name :: rest) (some (.identifier name, rest)) := by
  refine ⟨⟨_, rfl, .identifier name⟩, ?_⟩
  intro us q vs hin hd hend
  rcases term_iff.1 hd with hother | ⟨_, _, rfl, -⟩ | ⟨_, _, rfl, -⟩ | ⟨_, rfl, -⟩ | ⟨_, rfl, rfl⟩
  · exact absurd hend (hcall _ _ _ hin hother)
  · cases hin
  · cases hin
  · cases hin
  · cases hin
    exact ⟨rfl, rfl⟩

theorem reading_term_none {input : List Content} (hcall : Reading IsCall TermMayEnd input none)
    (hblock : Reading IsBlock TermMayEnd input none)
    (hlist : Reading IsList TermMayEnd input none)
    (hliteral : Reading IsLiteral TermMayEnd input none)
    (hidentifier : Reading IsIdentifier TermMayEnd input none) :
    Reading Term TermMayEnd input none := by
  intro ts p us hin hd
  rcases term_iff.1 hd with h | h | h | h | h
  · exact hcall _ _ _ hin h
  · exact hblock _ _ _ hin h
  · exact hlist _ _ _ hin h
  · exact hliteral _ _ _ hin h
  · exact hidentifier _ _ _ hin h

/-! ## Expressions -/

def IsComment (ts : List Content) (p : Shape) : Prop :=
  ∃ text, ts = [.comment text] ∧ p = .comment text

def IsAssignment (ts : List Content) (p : Shape) : Prop :=
  ∃ name us q, ts = .identifier name :: .operator "=" :: us ∧ p = .assignment name q ∧ Expr us q

def IsFunction (ts : List Content) (p : Shape) : Prop :=
  ∃ us vs names q, ts = .operator "(" :: (us ++ .operator "=>" :: vs) ∧ p = .function names q ∧
    Closed (Row Name) ")" us names ∧ Expr vs q

def IsBinary (ts : List Content) (p : Shape) : Prop :=
  ∃ us vs symbol l r, ts = us ++ .operator symbol :: vs ∧ p = .call symbol [l, r] ∧ Term us l ∧
    symbol ∈ Parser.binaryOperators ∧ Expr vs r

theorem expr_iff {ts : List Content} {p : Shape} :
    Expr ts p ↔
      IsComment ts p ∨ IsAssignment ts p ∨ IsFunction ts p ∨ IsBinary ts p ∨ Term ts p := by
  constructor
  · intro h
    cases h with
    | comment text => exact .inl ⟨text, rfl, rfl⟩
    | assignment inner => exact .inr (.inl ⟨_, _, _, rfl, rfl, inner⟩)
    | function row body =>
        exact .inr (.inr (.inl ⟨_, _, _, _, by simp, rfl, ⟨_, rfl, row⟩, body⟩))
    | binary left hsymbol right =>
        exact .inr (.inr (.inr (.inl ⟨_, _, _, _, _, rfl, rfl, left, hsymbol, right⟩)))
    | term inner => exact .inr (.inr (.inr (.inr inner)))
  · rintro (⟨text, rfl, rfl⟩ | ⟨_, _, _, rfl, rfl, inner⟩ |
      ⟨_, _, _, _, rfl, rfl, ⟨_, rfl, row⟩, body⟩ |
      ⟨_, _, _, _, _, rfl, rfl, left, hsymbol, right⟩ | inner)
    · exact .comment text
    · exact .assignment inner
    · rw [List.append_assoc]
      exact .function row body
    · exact .binary left hsymbol right
    · exact .term inner

theorem exprMayEnd_last {p : Shape} {us : List Content} (hp : p.isComment = false)
    (h : ExprMayEnd p us) (q : Shape) : ExprMayEnd q us := by
  rcases h with h | h
  · rw [hp] at h
    cases h
  · exact .inr h

theorem reading_expr_comment (text : String) (rest : List Content) :
    Reading Expr ExprMayEnd (.comment text :: rest) (some (.comment text, rest)) :=
  ⟨⟨_, rfl, .comment text⟩, fun _ _ _ hin hd _ => hd.of_comment hin⟩

theorem reading_expr_assignment {name : String} {behind rest : List Content} {q : Shape}
    (h : Reading Expr ExprMayEnd behind (some (q, rest))) :
    Reading Expr ExprMayEnd (.identifier name :: .operator "=" :: behind)
      (some (.assignment name q, rest)) := by
  obtain ⟨⟨ts, rfl, inner⟩, honly⟩ := h
  refine ⟨⟨_, rfl, .assignment inner⟩, ?_⟩
  intro us p vs hin hd hend
  rcases hd.of_target hin with ⟨ws, r, rfl, other, hbehind⟩ | hno
  · obtain ⟨rfl, rfl⟩ := honly _ _ _ hbehind other (exprMayEnd_last rfl hend _)
    exact ⟨rfl, rfl⟩
  · exact absurd hend hno

theorem reading_expr_function {params behind rest : List Content} {names : List String}
    {q : Shape}
    (hparams : Reading (Closed (Row Name) ")") AlwaysEnds params
      (some (names, .operator "=>" :: behind)))
    (h : Reading Expr ExprMayEnd behind (some (q, rest))) :
    Reading Expr ExprMayEnd (.operator "(" :: params) (some (.function names q, rest)) := by
  obtain ⟨⟨ts, rfl, closed⟩, honlyParams⟩ := hparams
  obtain ⟨⟨us, rfl, inner⟩, honly⟩ := h
  refine ⟨⟨.operator "(" :: (ts ++ .operator "=>" :: us), by simp,
    expr_iff.2 (.inr (.inr (.inl ⟨_, _, _, _, rfl, rfl, closed, inner⟩)))⟩, ?_⟩
  intro xs p vs hin hd hend
  obtain ⟨rs, ws, others, r, rfl, row, other, hparams⟩ := hd.of_paren hin
  have hclosed : ts ++ .operator "=>" :: (us ++ rest) =
      (rs ++ [.operator ")"]) ++ .operator "=>" :: (ws ++ vs) := by
    rw [hparams, List.append_assoc]
    rfl
  obtain ⟨rfl, hbehind⟩ := honlyParams _ _ _ hclosed ⟨rs, rfl, row⟩ trivial
  injection hbehind with _ hbehind
  obtain ⟨rfl, rfl⟩ := honly _ _ _ hbehind.symm other (exprMayEnd_last rfl hend _)
  exact ⟨rfl, rfl⟩

/-- A term with an operator behind it begins a binary operation and nothing else. -/
theorem reading_expr_binary {input behind rest : List Content} {symbol : String} {l r : Shape}
    (hleft : Reading Term TermMayEnd input (some (l, .operator symbol :: behind)))
    (hsymbol : symbol ∈ Parser.binaryOperators)
    (hright : Reading Expr ExprMayEnd behind (some (r, rest))) :
    Reading Expr ExprMayEnd input (some (.call symbol [l, r], rest)) := by
  obtain ⟨⟨ts, rfl, left⟩, honlyLeft⟩ := hleft
  obtain ⟨⟨us, rfl, right⟩, honly⟩ := hright
  refine ⟨⟨ts ++ .operator symbol :: us, by simp, .binary left hsymbol right⟩, ?_⟩
  intro vs p ws hin hd hend
  rcases expr_iff.1 hd with ⟨text, rfl, rfl⟩ | ⟨name, xs, q, rfl, rfl, -⟩ |
      ⟨xs, ys, names, q, rfl, -⟩ | ⟨xs, ys, other, l', r', rfl, rfl, left', hother, right'⟩ | inner
  · obtain ⟨c, cs, rfl, hc⟩ := left.head
    cases hin
    cases hc
  · -- The target of an assignment is a term by itself, and `=` joins no operands.
    have heq := (honlyLeft [.identifier name] _ _ hin (.identifier name) (by simp [TermMayEnd])).2
    injection heq with heq _
    injection heq with heq
    exact absurd (heq ▸ hsymbol) (by decide)
  · obtain ⟨c, cs, rfl, hc⟩ := left.head
    obtain ⟨rfl, -⟩ := List.cons.inj hin
    exact absurd hc (by decide)
  · rw [List.append_assoc] at hin
    obtain ⟨rfl, heq⟩ := honlyLeft _ _ _ hin left' (termMayEnd_binary hother _ _)
    injection heq with hhead hbehind
    injection hhead with hhead
    obtain ⟨rfl, rfl⟩ := honly _ _ _ hbehind.symm right' (exprMayEnd_last rfl hend _)
    exact ⟨by rw [hhead], rfl⟩
  · have hterm := termMayEnd_of_exprMayEnd inner.isComment_eq_false hend
    obtain ⟨rfl, rfl⟩ := honlyLeft _ _ _ hin inner hterm
    rcases hend with hend | hend
    · rw [inner.isComment_eq_false] at hend
      cases hend
    · exact absurd hsymbol (hend _ _ rfl).2.2

theorem reading_expr_term {input : List Content} {answer : Option (Shape × List Content)}
    (hcomment : Reading IsComment ExprMayEnd input none)
    (hassignment : Reading IsAssignment ExprMayEnd input none)
    (hfunction : Reading IsFunction ExprMayEnd input none)
    (hbinary : Reading IsBinary ExprMayEnd input none)
    (hterm : Reading Term TermMayEnd input answer) :
    Reading Expr ExprMayEnd input answer := by
  have honly : ∀ ts p us, input = ts ++ us → Expr ts p → ExprMayEnd p us →
      Term ts p ∧ TermMayEnd p us := by
    intro ts p us hin hd hend
    rcases expr_iff.1 hd with h | h | h | h | h
    · exact absurd hend (hcomment _ _ _ hin h)
    · exact absurd hend (hassignment _ _ _ hin h)
    · exact absurd hend (hfunction _ _ _ hin h)
    · exact absurd hend (hbinary _ _ _ hin h)
    · exact ⟨h, termMayEnd_of_exprMayEnd h.isComment_eq_false hend⟩
  cases answer with
  | none =>
      intro ts p us hin hd hend
      obtain ⟨h, hus⟩ := honly _ _ _ hin hd hend
      exact hterm _ _ _ hin h hus
  | some found =>
      obtain ⟨⟨ts, hin, inner⟩, honlyTerm⟩ := hterm
      refine ⟨⟨ts, hin, .term inner⟩, ?_⟩
      intro ts p us hin hd hend
      obtain ⟨h, hus⟩ := honly _ _ _ hin hd hend
      exact honlyTerm _ _ _ hin h hus

end Scriptlet.Grammar
