/-
# What the rules of the parser read

Every rule gives the right answer to "read my phrase off the front of what is
left", in the sense of `Reading`, and leaves the cursor behind the phrase; that
is `Reads`.  A rule may also give up because the input is nested too deeply,
but not before the limit is as large as the rest of the input is long.

## Memory

Terms are remembered by the place where they begin, whichever alternative asked
for them, and failures are remembered too.  `Faithful` says that every entry is
the right answer for its place, and goes along with `Reads`: a rule that begins with a
faithful memory leaves one.

## The proofs

They follow the rules: each is one application of the logic of `Outcome` per primitive, with
a lemma of `Reading` at the end.  The two are kept apart for the sake of changes.  A rule
that takes its tokens in another way needs another proof here; a rule that reads another
phrase needs another lemma there.

The rules around inner expressions take as a hypothesis that these read expressions, and the
induction on the limit is the last step (`expressionUpTo_reads`).
-/
import Scriptlet.Proofs.Syntax.Reading
import Scriptlet.Proofs.Syntax.Outcome

namespace Scriptlet

open Grammar

namespace Parser

/-! ## Memory -/

/-- The answer that a remembered term stands for. -/
def Input.recall (i : Input) : Except Failure Node × Nat → Option (Shape × List Content)
  | (.ok node, stop) => some (node.shape, i.rest stop)
  | (.error _, _) => none

/-- Everything remembered is the right answer to reading a term there. -/
def Faithful (i : Input) (memory : Memory) : Prop :=
  ∀ pos entry, memory[pos]? = some entry →
    Reading Term TermMayEnd (i.rest pos) (i.recall entry)

theorem faithful_empty (i : Input) : Faithful i {} := by
  intro pos entry h
  simp at h

theorem Faithful.insert {i : Input} {memory : Memory} {pos : Nat}
    {entry : Except Failure Node × Nat} (h : Faithful i memory)
    (hentry : Reading Term TermMayEnd (i.rest pos) (i.recall entry)) :
    Faithful i (memory.insert pos entry) := by
  intro pos' entry' h'
  rw [Std.HashMap.getElem?_insert] at h'
  split at h'
  · next heq =>
      cases h'
      rw [← beq_iff_eq.1 heq]
      exact hentry
  · exact h pos' entry' h'

/-! ## What it means for a rule to read a phrase -/

section Rules

variable {α σ : Type} (i : Input)

/-- The phrase was read, and the rest is what stands behind it. -/
def Found (Phrase : List Content → σ → Prop) (mayEnd : σ → List Content → Prop) (view : α → σ)
    (input : List Content) (a : α) (s : State) : Prop :=
  Reading Phrase mayEnd input (some (view a, i.rest s.pos)) ∧ Faithful i s.memory

/-- The phrase is not there. -/
def Missed (Phrase : List Content → σ → Prop) (mayEnd : σ → List Content → Prop)
    (input : List Content) (s : State) : Prop :=
  Reading Phrase mayEnd input none ∧ Faithful i s.memory

/-- The rule reads the phrase wherever it starts, unless the input is nested
more than `depth` times, for which it has to be longer. -/
def Reads (Phrase : List Content → σ → Prop) (mayEnd : σ → List Content → Prop) (view : α → σ)
    (depth : Nat) (rule : Parser α) : Prop :=
  ∀ s, Faithful i s.memory →
    (rule i s).Post (Found i Phrase mayEnd view (i.rest s.pos))
      (Missed i Phrase mayEnd (i.rest s.pos)) (depth ≤ (i.rest s.pos).length)

theorem Reads.attempt {i : Input} {Phrase : List Content → σ → Prop}
    {mayEnd : σ → List Content → Prop} {view : α → σ} {depth : Nat} {rule : Parser α}
    (h : Reads i Phrase mayEnd view depth rule) :
    Reads i Phrase mayEnd view depth (Parser.attempt rule) :=
  fun s hmem => Post.attempt (h s hmem) fun _ hmissed => hmissed

end Rules

/-! ## Rows -/

section Rows

variable {σ α : Type} {i : Input} {Item : List Content → σ → Prop}
  {mayEnd : σ → List Content → Prop} {view : α → σ} {closer : String} {depth : Nat}
  {item : Parser α}

theorem separatedUpTo_reads (row : RowOf Item mayEnd closer)
    (hitem : Reads i Item mayEnd view depth item) :
    ∀ bound s, (i.rest s.pos).length < bound → Faithful i s.memory →
      (separatedUpTo item closer bound i s).Post
        (Found i (Row Item) (RowMayEnd closer) (List.map view) (i.rest s.pos))
        (Missed i (Row Item) (RowMayEnd closer) (i.rest s.pos))
        (depth ≤ (i.rest s.pos).length)
  | 0, _, hbound, _ => absurd hbound (Nat.not_lt_zero _)
  | bound + 1, s, hbound, hmem => by
      unfold separatedUpTo
      refine Post.bind (atOperator_post closer) nofun nofun ?_
      rintro closed s' ⟨rfl, hclosed⟩
      cases closed with
      | true => exact ⟨reading_row_closed row (hclosed.1 rfl), hmem⟩
      | false =>
          have hopen : ¬ ∃ us, i.rest s'.pos = .operator closer :: us :=
            fun h => Bool.false_ne_true (hclosed.2 h)
          refine Post.bind (hitem.attempt s' hmem) ?_ id ?_
          · exact fun s₁ ⟨hmissed, hmem₁⟩ => ⟨reading_row_none row hopen hmissed, hmem₁⟩
          · rintro first s₁ ⟨hfirst, hmem₁⟩
            refine Post.bind (acceptOperator_post ",") nofun nofun ?_
            rintro found s₂ ⟨hmem₂, hfound⟩
            rw [← hmem₂] at hmem₁
            cases found with
            | none =>
                obtain ⟨hrest, hcomma⟩ := hfound
                rw [← hrest] at hfirst hcomma
                exact ⟨reading_row_last row hopen hfirst hcomma, hmem₁⟩
            | some _ =>
                rw [show i.rest s₁.pos = _ from hfound] at hfirst
                have hlt : (i.rest s₂.pos).length < (i.rest s'.pos).length := by
                  obtain ⟨⟨ts, hts, -⟩, -⟩ := hfirst
                  rw [hts, List.length_append, List.length_cons]
                  omega
                refine Post.bind
                  (separatedUpTo_reads row hitem bound s₂ (by omega) hmem₁) ?_ (by omega) ?_
                · exact fun s₃ ⟨hmissed, hmem₃⟩ =>
                    ⟨reading_row_more row hopen hfirst hmissed, hmem₃⟩
                · exact fun items s₃ ⟨hitems, hmem₃⟩ =>
                    ⟨reading_row_more row hopen hfirst hitems, hmem₃⟩

theorem separated_reads (row : RowOf Item mayEnd closer)
    (hitem : Reads i Item mayEnd view depth item) :
    Reads i (Row Item) (RowMayEnd closer) (List.map view) depth (separated item closer) := by
  intro s hmem
  have hbound : (i.rest s.pos).length < i.tokens.size - s.pos + 1 := by
    rw [length_rest]
    omega
  exact separatedUpTo_reads row hitem _ s hbound hmem

end Rows

/-! ## Statements -/

section Statements

variable {i : Input} {depth : Nat} {inner : Parser Node}

theorem statement_reads (hinner : Reads i Expr ExprMayEnd Node.shape depth inner) :
    Reads i Statement StatementMayEnd (fun found => found.1.shape) depth (statement inner) := by
  intro s hmem
  unfold statement
  refine Post.bind (hinner s hmem) ?_ id ?_
  · exact fun s₁ ⟨hmissed, hmem₁⟩ => ⟨reading_statement_none hmissed, hmem₁⟩
  rintro node s₁ ⟨hnode, hmem₁⟩
  have hcomment := node.isComment_shape
  cases hc : node.isComment with
  | true =>
      rw [hc] at hcomment
      refine Post.bind (acceptOperator_post ";") nofun nofun ?_
      rintro found s₂ ⟨hmem₂, hfound⟩
      rw [← hmem₂] at hmem₁
      cases found with
      | none =>
          obtain ⟨hrest, hsep⟩ := hfound
          rw [← hrest] at hnode hsep
          exact ⟨reading_statement_comment hnode hcomment hsep, hmem₁⟩
      | some _ =>
          rw [show i.rest s₁.pos = _ from hfound] at hnode
          exact ⟨reading_statement_ended hnode, hmem₁⟩
  | false =>
      rw [hc] at hcomment
      refine Post.bind (expectOperator_post ";") ?_ nofun ?_
      · rintro s₂ ⟨hsep, hmem₂⟩
        exact ⟨reading_statement_unended hnode hcomment hsep, hmem₂ ▸ hmem₁⟩
      · rintro token s₂ ⟨hsep, hmem₂⟩
        rw [hsep] at hnode
        exact ⟨reading_statement_ended hnode, hmem₂ ▸ hmem₁⟩

/-- Each statement takes a token, so a bound of as many statements as there are
tokens is never felt. -/
theorem statementsUpTo_reads (hinner : Reads i Expr ExprMayEnd Node.shape depth inner) :
    ∀ bound s, (i.rest s.pos).length ≤ bound → Faithful i s.memory →
      (statementsUpTo inner bound i s).Post
        (Found i Program ProgramMayEnd (List.map fun found => found.1.shape) (i.rest s.pos))
        (fun _ => False) (depth ≤ (i.rest s.pos).length)
  | 0, s, hbound, hmem => by
      have hnil : i.rest s.pos = [] := List.length_eq_zero_iff.1 (Nat.le_zero.1 hbound)
      refine ⟨?_, hmem⟩
      rw [hnil]
      exact reading_program_nil
  | bound + 1, s, hbound, hmem => by
      unfold statementsUpTo
      have hend : (atEnd i s).Post (fun done s' => s' = s ∧ (done = true ↔ i.rest s.pos = []))
          (fun _ => False) False :=
        ⟨rfl, by rw [decide_eq_true_iff, rest_eq_nil_iff]⟩
      refine Post.bind hend nofun nofun ?_
      rintro done s₁ ⟨rfl, hdone⟩
      cases done with
      | true =>
          refine ⟨?_, hmem⟩
          rw [hdone.1 rfl]
          exact reading_program_nil
      | false =>
          have hfirst : (optional (statement inner) i s₁).Post
              (fun found s₂ => Faithful i s₂.memory ∧
                match found with
                | some first => Reading Statement StatementMayEnd (i.rest s₁.pos)
                    (some (first.1.shape, i.rest s₂.pos))
                | none => s₂.pos = s₁.pos ∧
                    Reading Statement StatementMayEnd (i.rest s₁.pos) none)
              (fun _ => False) (depth ≤ (i.rest s₁.pos).length) :=
            Post.optional (statement_reads hinner s₁ hmem)
              (fun _ _ ⟨hfound, hmem₂⟩ => ⟨hmem₂, hfound⟩)
              (fun _ ⟨hmissed, hmem₂⟩ => ⟨hmem₂, rfl, hmissed⟩)
          refine Post.bind hfirst nofun id ?_
          rintro found s₂ ⟨hmem₂, hfound⟩
          cases found with
          | none =>
              obtain ⟨hpos, hmissed⟩ := hfound
              refine ⟨?_, hmem₂⟩
              rw [hpos]
              exact reading_program_stop hmissed
          | some first =>
              have hlt : (i.rest s₂.pos).length < (i.rest s₁.pos).length := by
                obtain ⟨⟨ts, hts, hd⟩, -⟩ := hfound
                obtain ⟨c, us, rfl, -⟩ := hd.head
                rw [hts, List.length_append, List.length_cons]
                omega
              refine Post.bind (statementsUpTo_reads hinner bound s₂ (by omega) hmem₂) nofun
                (by omega) ?_
              exact fun rest s₃ ⟨hrest, hmem₃⟩ => ⟨reading_program_more hfound hrest, hmem₃⟩

theorem statementItems_reads (hinner : Reads i Expr ExprMayEnd Node.shape depth inner) (s : State)
    (hmem : Faithful i s.memory) :
    (statementItems inner i s).Post
      (Found i Program ProgramMayEnd (fun found => found.1.map Node.shape) (i.rest s.pos))
      (fun _ => False) (depth ≤ (i.rest s.pos).length) := by
  unfold statementItems
  have hbound : (i.rest s.pos).length ≤ i.tokens.size - s.pos := Nat.le_of_eq length_rest
  refine Post.bind (show (here i s).Post (fun _ s' => s' = s) (fun _ => False) False from rfl)
    nofun nofun ?_
  rintro start s' rfl
  refine Post.bind (show (tokensLeft i s').Post
      (fun left s'' => s'' = s' ∧ left = i.tokens.size - s'.pos) (fun _ => False) False
    from ⟨rfl, rfl⟩) nofun nofun ?_
  rintro left s'' ⟨rfl, rfl⟩
  refine Post.bind (statementsUpTo_reads hinner _ _ hbound hmem) nofun id ?_
  rintro found s₁ ⟨hfound, hmem₁⟩
  have hshapes : (found.map Prod.fst).map Node.shape = found.map fun f => f.1.shape :=
    List.map_map
  rw [← hshapes] at hfound
  exact ⟨hfound, hmem₁⟩

end Statements

/-! ## Names, literals and comments -/

variable {i : Input} {s : State} {depth : Nat} {inner : Parser Node}

theorem expectIdentifier_post :
    (expect .identifier i s).Post
      (fun token s' => i.rest s.pos = .identifier (textOf token) :: i.rest s'.pos ∧
        s'.memory = s.memory)
      (fun s' => (∀ name us, i.rest s.pos ≠ .identifier name :: us) ∧ s'.memory = s.memory)
      False := by
  refine Post.mono (expect_post .identifier) ?_ ?_ id
  · rintro ⟨content, lexeme, span⟩ s' ⟨hrest, hkind, hmem⟩
    cases content with
    | identifier _ => exact ⟨hrest, hmem⟩
    | comment _ => cases hkind
    | literal _ => cases hkind
    | operator _ => cases hkind
  · exact fun s' ⟨hno, hmem⟩ => ⟨fun name us hrest => hno _ _ hrest rfl, hmem⟩

theorem name_reads : Reads i Name AlwaysEnds textOf depth (expect .identifier) := by
  intro s hmem
  refine Post.mono expectIdentifier_post ?_ ?_ nofun
  · rintro token s' ⟨hrest, hmem'⟩
    refine ⟨?_, hmem' ▸ hmem⟩
    rw [hrest]
    refine ⟨⟨[.identifier (textOf token)], rfl, rfl⟩, ?_⟩
    rintro ts name us hin rfl -
    cases hin
    exact ⟨rfl, rfl⟩
  · rintro s' ⟨hno, hmem'⟩
    refine ⟨?_, hmem' ▸ hmem⟩
    rintro ts name us hin rfl -
    exact hno _ _ hin

theorem comment_post (hmem : Faithful i s.memory) :
    (comment i s).Post (Found i Expr ExprMayEnd Node.shape (i.rest s.pos))
      (Missed i IsComment ExprMayEnd (i.rest s.pos)) (depth ≤ (i.rest s.pos).length) := by
  unfold comment
  refine Post.bind (expect_post .comment) ?_ nofun ?_
  · rintro s' ⟨hno, hmem'⟩
    refine ⟨?_, hmem' ▸ hmem⟩
    rintro ts p us hin ⟨text, rfl, rfl⟩ -
    exact hno _ _ hin rfl
  · rintro ⟨content, lexeme, span⟩ s' ⟨hrest, hkind, hmem'⟩
    cases content with
    | comment text =>
        refine ⟨?_, hmem' ▸ hmem⟩
        rw [hrest]
        exact reading_expr_comment text _
    | identifier _ => cases hkind
    | literal _ => cases hkind
    | operator _ => cases hkind

theorem literal_post (hmem : Faithful i s.memory) :
    (literal i s).Post (Found i Term TermMayEnd Node.shape (i.rest s.pos))
      (Missed i IsLiteral TermMayEnd (i.rest s.pos)) (depth ≤ (i.rest s.pos).length) := by
  unfold literal
  refine Post.bind (expect_post .literal) ?_ nofun ?_
  · rintro s' ⟨hno, hmem'⟩
    refine ⟨?_, hmem' ▸ hmem⟩
    rintro ts p us hin ⟨value, rfl, rfl⟩ -
    exact hno _ _ hin rfl
  · rintro ⟨content, lexeme, span⟩ s' ⟨hrest, hkind, hmem'⟩
    cases content with
    | literal value =>
        refine ⟨?_, hmem' ▸ hmem⟩
        rw [hrest]
        exact reading_term_literal value _
    | comment _ => cases hkind
    | identifier _ => cases hkind
    | operator _ => cases hkind

theorem identifier_post (hmem : Faithful i s.memory)
    (hcall : Reading IsCall TermMayEnd (i.rest s.pos) none) :
    (identifier i s).Post (Found i Term TermMayEnd Node.shape (i.rest s.pos))
      (Missed i IsIdentifier TermMayEnd (i.rest s.pos)) (depth ≤ (i.rest s.pos).length) := by
  unfold identifier
  refine Post.bind expectIdentifier_post ?_ nofun ?_
  · rintro s' ⟨hno, hmem'⟩
    refine ⟨?_, hmem' ▸ hmem⟩
    rintro ts p us hin ⟨name, rfl, rfl⟩ -
    exact hno _ _ hin
  · rintro token s' ⟨hrest, hmem'⟩
    refine ⟨?_, hmem' ▸ hmem⟩
    rw [hrest] at hcall ⊢
    exact reading_term_identifier hcall

/-! ## Terms -/

theorem rowOf_names : RowOf Name AlwaysEnds ")" where
  ne_comma := by decide
  head_ne := by
    rintro ts name rfl
    exact ⟨_, _, rfl, nofun⟩
  comma _ _ := trivial
  closed _ _ := trivial

theorem rowOf_exprs {closer : String} (h : closer = ")" ∨ closer = "]") :
    RowOf Expr ExprMayEnd closer where
  ne_comma := by rcases h with rfl | rfl <;> decide
  head_ne := by
    intro ts p hd
    obtain ⟨c, us, rfl, hc⟩ := hd.head
    refine ⟨c, us, rfl, ?_⟩
    rintro rfl
    rcases h with rfl | rfl <;> exact absurd hc (by decide)
  comma _ _ := exprMayEnd_operator _ _ (by decide)
  closed _ _ := by rcases h with rfl | rfl <;> exact exprMayEnd_operator _ _ (by decide)

theorem closer_post {σ : Type} {Phrase : List Content → σ → Prop}
    {mayEnd : σ → List Content → Prop} {closer : String} {input : List Content} {p : σ}
    (hend : ∀ q us, mayEnd q (.operator closer :: us))
    (hfound : Reading Phrase mayEnd input (some (p, i.rest s.pos)))
    (hmem : Faithful i s.memory) :
    (expectOperator closer i s).Post
      (fun _ => Found i (Closed Phrase closer) AlwaysEnds (fun _ : Unit => p) input ())
      (Missed i (Closed Phrase closer) AlwaysEnds input) False := by
  refine Post.mono (expectOperator_post closer) ?_ ?_ id
  · rintro _ s' ⟨hrest, hmem'⟩
    rw [hrest] at hfound
    exact ⟨reading_closed hend hfound, hmem' ▸ hmem⟩
  · exact fun s' ⟨hno, hmem'⟩ => ⟨reading_unclosed hend hfound hno, hmem' ▸ hmem⟩

theorem rowMayEnd_closer {σ : Type} (closer : String) (ps : List σ) (us : List Content) :
    RowMayEnd closer ps (.operator closer :: us) := ⟨us, rfl⟩

theorem call_post (hinner : Reads i Expr ExprMayEnd Node.shape depth inner)
    (hmem : Faithful i s.memory) :
    (call inner i s).Post (Found i Term TermMayEnd Node.shape (i.rest s.pos))
      (Missed i IsCall TermMayEnd (i.rest s.pos)) (depth + 1 ≤ (i.rest s.pos).length) := by
  unfold call
  refine Post.bind expectIdentifier_post ?_ nofun ?_
  · rintro s₁ ⟨hno, hmem₁⟩
    refine ⟨?_, hmem₁ ▸ hmem⟩
    rintro ts p us hin ⟨name, ws, ps, rfl, -⟩ -
    exact hno _ _ hin
  rintro name s₁ ⟨hname, hmem₁⟩
  rw [← hmem₁] at hmem
  refine Post.bind (expectOperator_post "(") ?_ nofun ?_
  · rintro s₂ ⟨hno, hmem₂⟩
    refine ⟨?_, hmem₂ ▸ hmem⟩
    rintro ts p us hin ⟨name', ws, ps, rfl, -⟩ -
    rw [hname] at hin
    exact hno _ (List.cons.inj hin).2
  rintro opener s₂ ⟨hopen, hmem₂⟩
  rw [← hmem₂] at hmem
  rw [hname, hopen]
  -- What is missed behind the opener is missed as a call.
  have hmissed : ∀ s', Missed i (Closed (Row Expr) ")") AlwaysEnds (i.rest s₂.pos) s' →
      Missed i IsCall TermMayEnd (.identifier (textOf name) :: .operator "(" :: i.rest s₂.pos)
        s' := by
    refine fun s' ⟨hnone, hmem'⟩ => ⟨?_, hmem'⟩
    rintro ts p us hin ⟨name', ws, ps, rfl, -, hclosed⟩ -
    exact hnone _ _ _ (List.cons.inj (List.cons.inj hin).2).2 hclosed trivial
  refine Post.bind (separated_reads (rowOf_exprs (.inl rfl)) hinner s₂ hmem) ?_ ?_ ?_
  · exact fun s₃ ⟨hnone, hmem₃⟩ =>
      hmissed s₃ ⟨reading_closed_none (rowMayEnd_closer ")") hnone, hmem₃⟩
  · intro hdeep
    simp only [List.length_cons]
    omega
  rintro args s₃ ⟨hargs, hmem₃⟩
  refine Post.bind (closer_post (rowMayEnd_closer ")") hargs hmem₃) hmissed nofun ?_
  rintro closer s₄ ⟨hclosed, hmem₄⟩
  refine ⟨?_, hmem₄⟩
  simp only [Node.shape, Node.shapes_eq_map]
  exact reading_term_call hclosed

theorem block_post (hinner : Reads i Expr ExprMayEnd Node.shape depth inner)
    (hmem : Faithful i s.memory) :
    (block inner i s).Post (Found i Term TermMayEnd Node.shape (i.rest s.pos))
      (Missed i IsBlock TermMayEnd (i.rest s.pos)) (depth + 1 ≤ (i.rest s.pos).length) := by
  unfold block
  refine Post.bind (expectOperator_post "\x7b") ?_ nofun ?_
  · rintro s₁ ⟨hno, hmem₁⟩
    refine ⟨?_, hmem₁ ▸ hmem⟩
    rintro ts p us hin ⟨ws, ps, rfl, -⟩ -
    exact hno _ hin
  rintro opener s₁ ⟨hopen, hmem₁⟩
  rw [← hmem₁] at hmem
  rw [hopen]
  refine Post.bind (statementItems_reads hinner s₁ hmem) nofun ?_ ?_
  · intro hdeep
    simp only [List.length_cons]
    omega
  rintro ⟨items, span⟩ s₂ ⟨hitems, hmem₂⟩
  have hend : ∀ ps us, ProgramMayEnd ps (.operator "\x7d" :: us) := fun _ us => .inr ⟨us, rfl⟩
  refine Post.bind (closer_post hend hitems hmem₂) ?_ nofun ?_
  · refine fun s₃ ⟨hnone, hmem₃⟩ => ⟨?_, hmem₃⟩
    rintro ts p us hin ⟨ws, ps, rfl, -, hclosed⟩ -
    exact hnone _ _ _ (List.cons.inj hin).2 hclosed trivial
  rintro closer s₃ ⟨hclosed, hmem₃⟩
  refine ⟨?_, hmem₃⟩
  simp only [Node.shape, Node.shapes_eq_map]
  exact reading_term_block hclosed

theorem listLiteral_post (hinner : Reads i Expr ExprMayEnd Node.shape depth inner)
    (hmem : Faithful i s.memory) :
    (listLiteral inner i s).Post (Found i Term TermMayEnd Node.shape (i.rest s.pos))
      (Missed i IsList TermMayEnd (i.rest s.pos)) (depth + 1 ≤ (i.rest s.pos).length) := by
  unfold listLiteral
  refine Post.bind (expectOperator_post "[") ?_ nofun ?_
  · rintro s₁ ⟨hno, hmem₁⟩
    refine ⟨?_, hmem₁ ▸ hmem⟩
    rintro ts p us hin ⟨ws, ps, rfl, -⟩ -
    exact hno _ hin
  rintro opener s₁ ⟨hopen, hmem₁⟩
  rw [← hmem₁] at hmem
  rw [hopen]
  have hmissed : ∀ s', Missed i (Closed (Row Expr) "]") AlwaysEnds (i.rest s₁.pos) s' →
      Missed i IsList TermMayEnd (.operator "[" :: i.rest s₁.pos) s' := by
    refine fun s' ⟨hnone, hmem'⟩ => ⟨?_, hmem'⟩
    rintro ts p us hin ⟨ws, ps, rfl, -, hclosed⟩ -
    exact hnone _ _ _ (List.cons.inj hin).2 hclosed trivial
  refine Post.bind (separated_reads (rowOf_exprs (.inr rfl)) hinner s₁ hmem) ?_ ?_ ?_
  · exact fun s₂ ⟨hnone, hmem₂⟩ =>
      hmissed s₂ ⟨reading_closed_none (rowMayEnd_closer "]") hnone, hmem₂⟩
  · intro hdeep
    simp only [List.length_cons]
    omega
  rintro items s₂ ⟨hitems, hmem₂⟩
  refine Post.bind (closer_post (rowMayEnd_closer "]") hitems hmem₂) hmissed nofun ?_
  rintro closer s₃ ⟨hclosed, hmem₃⟩
  refine ⟨?_, hmem₃⟩
  simp only [Node.shape, Node.shapes_eq_map]
  exact reading_term_list hclosed

theorem freshTerm_reads (hinner : Reads i Expr ExprMayEnd Node.shape depth inner) :
    Reads i Term TermMayEnd Node.shape (depth + 1) (freshTerm inner) := by
  intro s hmem
  refine Post.orElse (call_post hinner hmem) ?_
  rintro s₁ ⟨hcall, hmem₁⟩
  refine Post.orElse (block_post hinner hmem₁) ?_
  rintro s₂ ⟨hblock, hmem₂⟩
  refine Post.orElse (listLiteral_post hinner hmem₂) ?_
  rintro s₃ ⟨hlist, hmem₃⟩
  refine Post.orElse (literal_post hmem₃) ?_
  rintro s₄ ⟨hliteral, hmem₄⟩
  refine Post.orElse (identifier_post hmem₄ hcall) ?_
  rintro s₅ ⟨hidentifier, hmem₅⟩
  refine Post.mono (failExpecting_post "term") (fun _ _ h => h) ?_ id
  rintro s₆ ⟨hmem₆, -⟩
  exact ⟨reading_term_none hcall hblock hlist hliteral hidentifier, hmem₆ ▸ hmem₅⟩

theorem term_reads (hinner : Reads i Expr ExprMayEnd Node.shape depth inner) :
    Reads i Term TermMayEnd Node.shape (depth + 1) (term inner) := by
  intro s hmem
  have hfresh := freshTerm_reads hinner s hmem
  unfold term
  split
  · split
    · next entry hentry =>
        have hright := hmem _ _ hentry
        obtain ⟨outcome, stop⟩ := entry
        cases outcome with
        | ok node => exact ⟨hright, hmem⟩
        | error failure => exact ⟨hright, hmem⟩
    · cases hr : freshTerm inner i s with
      | ok node s' =>
          rw [hr] at hfresh
          exact ⟨hfresh.1, hfresh.2.insert hfresh.1⟩
      | fail failure s' =>
          rw [hr] at hfresh
          exact ⟨hfresh.1, hfresh.2.insert hfresh.1⟩
      | tooDeep s' =>
          rw [hr] at hfresh
          exact hfresh
  · exact hfresh

/-! ## Expressions -/

theorem assignment_post (hinner : Reads i Expr ExprMayEnd Node.shape depth inner)
    (hmem : Faithful i s.memory) :
    (assignment inner i s).Post (Found i Expr ExprMayEnd Node.shape (i.rest s.pos))
      (Missed i IsAssignment ExprMayEnd (i.rest s.pos)) (depth + 1 ≤ (i.rest s.pos).length) := by
  unfold assignment
  refine Post.bind expectIdentifier_post ?_ nofun ?_
  · rintro s₁ ⟨hno, hmem₁⟩
    refine ⟨?_, hmem₁ ▸ hmem⟩
    rintro ts p us hin ⟨name, ws, q, rfl, -⟩ -
    exact hno _ _ hin
  rintro name s₁ ⟨hname, hmem₁⟩
  rw [← hmem₁] at hmem
  refine Post.bind (expectOperator_post "=") ?_ nofun ?_
  · rintro s₂ ⟨hno, hmem₂⟩
    refine ⟨?_, hmem₂ ▸ hmem⟩
    rintro ts p us hin ⟨name', ws, q, rfl, -⟩ -
    rw [hname] at hin
    exact hno _ (List.cons.inj hin).2
  rintro equals s₂ ⟨hequals, hmem₂⟩
  rw [← hmem₂] at hmem
  rw [hname, hequals]
  refine Post.bind (hinner s₂ hmem) ?_ ?_ ?_
  · refine fun s₃ ⟨hnone, hmem₃⟩ => ⟨?_, hmem₃⟩
    rintro ts p us hin ⟨name', ws, q, rfl, rfl, hq⟩ hend
    exact hnone _ _ _ (List.cons.inj (List.cons.inj hin).2).2 hq (exprMayEnd_last rfl hend _)
  · intro hdeep
    simp only [List.length_cons]
    omega
  · exact fun value s₃ ⟨hvalue, hmem₃⟩ => ⟨reading_expr_assignment hvalue, hmem₃⟩

theorem function_post (hinner : Reads i Expr ExprMayEnd Node.shape depth inner)
    (hmem : Faithful i s.memory) :
    (function inner i s).Post (Found i Expr ExprMayEnd Node.shape (i.rest s.pos))
      (Missed i IsFunction ExprMayEnd (i.rest s.pos)) (depth + 1 ≤ (i.rest s.pos).length) := by
  unfold function
  refine Post.bind (expectOperator_post "(") ?_ nofun ?_
  · rintro s₁ ⟨hno, hmem₁⟩
    refine ⟨?_, hmem₁ ▸ hmem⟩
    rintro ts p us hin ⟨ws, vs, names, q, rfl, -⟩ -
    exact hno _ hin
  rintro opener s₁ ⟨hopen, hmem₁⟩
  rw [← hmem₁] at hmem
  rw [hopen]
  -- Every function that begins here has its parameters behind the opener.
  have hcont : ∀ ts p us, .operator "(" :: i.rest s₁.pos = ts ++ us → IsFunction ts p →
      ∃ ws vs names q, p = .function names q ∧ Closed (Row Name) ")" ws names ∧ Expr vs q ∧
        i.rest s₁.pos = ws ++ .operator "=>" :: (vs ++ us) := by
    rintro ts p us hin ⟨ws, vs, names, q, rfl, rfl, hclosed, hq⟩
    refine ⟨ws, vs, names, q, rfl, hclosed, hq, ?_⟩
    rw [(List.cons.inj hin).2, List.append_eq, List.append_assoc]
    rfl
  have hmissed : ∀ s', Missed i (Closed (Row Name) ")") AlwaysEnds (i.rest s₁.pos) s' →
      Missed i IsFunction ExprMayEnd (.operator "(" :: i.rest s₁.pos) s' := by
    refine fun s' ⟨hnone, hmem'⟩ => ⟨?_, hmem'⟩
    intro ts p us hin hd _
    obtain ⟨ws, vs, names, q, -, hclosed, -, hrest⟩ := hcont _ _ _ hin hd
    exact hnone _ _ _ hrest hclosed trivial
  have hdeep : depth + 1 ≤ (i.rest s₁.pos).length →
      depth + 1 ≤ (Content.operator "(" :: i.rest s₁.pos).length := Nat.le_succ_of_le
  refine Post.bind (separated_reads rowOf_names name_reads s₁ hmem) ?_ hdeep ?_
  · exact fun s₂ ⟨hnone, hmem₂⟩ =>
      hmissed s₂ ⟨reading_closed_none (rowMayEnd_closer ")") hnone, hmem₂⟩
  rintro params s₂ ⟨hparams, hmem₂⟩
  refine Post.bind (closer_post (rowMayEnd_closer ")") hparams hmem₂) hmissed nofun ?_
  rintro closer s₃ ⟨hclosed, hmem₃⟩
  refine Post.bind (expectOperator_post "=>") ?_ nofun ?_
  · refine fun s₄ ⟨hno, hmem₄⟩ => ⟨?_, hmem₄ ▸ hmem₃⟩
    intro ts p us hin hd _
    obtain ⟨ws, vs, names, q, -, hother, -, hrest⟩ := hcont _ _ _ hin hd
    exact hno _ (hclosed.2 _ _ _ hrest hother trivial).2.symm
  rintro arrow s₄ ⟨harrow, hmem₄⟩
  rw [← hmem₄] at hmem₃
  rw [harrow] at hclosed
  refine Post.bind (hinner s₄ hmem₃) ?_ ?_ ?_
  · refine fun s₅ ⟨hnone, hmem₅⟩ => ⟨?_, hmem₅⟩
    intro ts p us hin hd hend
    obtain ⟨ws, vs, names, q, rfl, hother, hq, hrest⟩ := hcont _ _ _ hin hd
    have hbehind := (hclosed.2 _ _ _ hrest hother trivial).2
    exact hnone _ _ _ (List.cons.inj hbehind).2.symm hq (exprMayEnd_last rfl hend _)
  · intro hbody
    obtain ⟨⟨ts, hts, -⟩, -⟩ := hclosed
    rw [hts]
    simp only [List.length_cons, List.length_append]
    omega
  · exact fun body s₅ ⟨hbody, hmem₅⟩ => ⟨reading_expr_function hclosed hbody, hmem₅⟩

theorem binaryOperation_post (hinner : Reads i Expr ExprMayEnd Node.shape depth inner)
    (hmem : Faithful i s.memory) :
    (binaryOperation inner i s).Post (Found i Expr ExprMayEnd Node.shape (i.rest s.pos))
      (Missed i IsBinary ExprMayEnd (i.rest s.pos)) (depth + 1 ≤ (i.rest s.pos).length) := by
  unfold binaryOperation
  refine Post.bind (term_reads hinner s hmem) ?_ id ?_
  · refine fun s₁ ⟨hnone, hmem₁⟩ => ⟨?_, hmem₁⟩
    rintro ts p us hin ⟨ws, vs, symbol, l, r, rfl, -, hl, hsymbol, -⟩ -
    rw [List.append_assoc] at hin
    exact hnone _ _ _ hin hl (termMayEnd_binary hsymbol _ _)
  rintro left s₁ ⟨hleft, hmem₁⟩
  -- Every binary operation that begins here has the term that was read on its left.
  have hcont : ∀ ts p us, i.rest s.pos = ts ++ us → IsBinary ts p →
      ∃ vs symbol r, p = .call symbol [left.shape, r] ∧ symbol ∈ binaryOperators ∧ Expr vs r ∧
        i.rest s₁.pos = .operator symbol :: (vs ++ us) := by
    rintro ts p us hin ⟨ws, vs, symbol, l, r, rfl, rfl, hl, hsymbol, hr⟩
    rw [List.append_assoc] at hin
    obtain ⟨rfl, hrest⟩ := hleft.2 _ _ _ hin hl (termMayEnd_binary hsymbol _ _)
    exact ⟨vs, symbol, r, rfl, hsymbol, hr, hrest.symm⟩
  refine Post.bind peekBinary_post nofun nofun ?_
  rintro next s₂ ⟨rfl, hnext⟩
  cases hop : next.bind binaryOperator? with
  | none =>
      rw [hop] at hnext
      refine Post.mono (failExpecting_post "operator") (fun _ _ h => h) ?_ id
      refine fun s₃ ⟨hmem₃, _⟩ => ⟨?_, hmem₃ ▸ hmem₁⟩
      intro ts p us hin hd _
      obtain ⟨vs, symbol, r, -, hsymbol, -, hrest⟩ := hcont _ _ _ hin hd
      exact hnext _ _ hrest hsymbol
  | some symbol =>
      rw [hop] at hnext
      obtain ⟨hsymbol, hrest⟩ := hnext
      rw [hrest] at hleft
      refine Post.bind (show (skip i s₂).Post
          (fun _ s₃ => s₃.pos = s₂.pos + 1 ∧ s₃.memory = s₂.memory) (fun _ => False) False
        from ⟨rfl, rfl⟩) nofun nofun ?_
      rintro _ s₃ ⟨hpos, hmem₃⟩
      rw [← hmem₃] at hmem₁
      rw [← hpos] at hleft hrest
      refine Post.bind (hinner s₃ hmem₁) ?_ ?_ ?_
      · refine fun s₄ ⟨hnone, hmem₄⟩ => ⟨?_, hmem₄⟩
        intro ts p us hin hd hend
        obtain ⟨vs, other, r, rfl, -, hr, hbehind⟩ := hcont _ _ _ hin hd
        rw [hrest] at hbehind
        exact hnone _ _ _ (List.cons.inj hbehind).2 hr (exprMayEnd_last rfl hend _)
      · intro hdeep
        obtain ⟨⟨ts, hts, -⟩, -⟩ := hleft
        rw [hts, List.length_append, List.length_cons]
        omega
      · exact fun right s₄ ⟨hright, hmem₄⟩ =>
          ⟨reading_expr_binary hleft hsymbol hright, hmem₄⟩

theorem layer_reads (hinner : Reads i Expr ExprMayEnd Node.shape depth inner) :
    Reads i Expr ExprMayEnd Node.shape (depth + 1) (layer inner) := by
  intro s hmem
  refine Post.orElse (comment_post hmem) ?_
  rintro s₁ ⟨hcomment, hmem₁⟩
  refine Post.orElse (assignment_post hinner hmem₁) ?_
  rintro s₂ ⟨hassignment, hmem₂⟩
  refine Post.orElse (function_post hinner hmem₂) ?_
  rintro s₃ ⟨hfunction, hmem₃⟩
  refine Post.orElse (binaryOperation_post hinner hmem₃) ?_
  rintro s₄ ⟨hbinary, hmem₄⟩
  have hexpr : ∀ answer, Reading Term TermMayEnd (i.rest s.pos) answer →
      Reading Expr ExprMayEnd (i.rest s.pos) answer :=
    fun _ => reading_expr_term hcomment hassignment hfunction hbinary
  have hterm : (term inner i { s₄ with pos := s.pos }).Post
      (Found i Expr ExprMayEnd Node.shape (i.rest s.pos))
      (Missed i Expr ExprMayEnd (i.rest s.pos)) (depth + 1 ≤ (i.rest s.pos).length) :=
    Post.mono (term_reads hinner _ hmem₄)
      (fun _ _ ⟨hfound, hmem₅⟩ => ⟨hexpr _ hfound, hmem₅⟩)
      (fun _ ⟨hmissed, hmem₅⟩ => ⟨hexpr _ hmissed, hmem₅⟩) id
  refine Post.orElse hterm ?_
  rintro s₅ ⟨hmissed, hmem₅⟩
  refine Post.mono (failExpecting_post "expression") (fun _ _ h => h) ?_ id
  exact fun s₆ ⟨hmem₆, _⟩ => ⟨hmissed, hmem₆ ▸ hmem₅⟩

/-- An expression that is cut off is longer than it may be deep. -/
theorem expressionUpTo_reads (i : Input) :
    ∀ depth, Reads i Expr ExprMayEnd Node.shape depth (expressionUpTo depth)
  | 0 => fun _ _ => Nat.zero_le _
  | depth + 1 => layer_reads (expressionUpTo_reads i depth)

theorem expression_reads (i : Input) :
    Reads i Expr ExprMayEnd Node.shape i.nesting expression :=
  fun s hmem => expressionUpTo_reads i i.nesting s hmem

end Parser

end Scriptlet
