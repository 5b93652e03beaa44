/-
# What a reader takes

Reading forward takes tokens off the front.  What it took is a phrase of the grammar
(`Covers`):

    the tokens derive the shape of the node
    the span of the node reaches from the first of them to the last
    every node below stands on some of them, in the same way

What a reader took before it stopped is the beginning of a phrase (`Unfinished`): behind it
something may stand that completes one.  The two are the two ends that a reader comes to,
and are said in one logic for readers (`Takes`), with a rule for every way to put readers
together, so that a rule of the grammar is gone through once for both.

The first is what makes the text of a node readable by itself (`Reparse`), the second what
makes the place of an error the first one that offends (`FirstOffence`).

That something unfinished can be completed is shown by writing down what completes it, one
rule at a time.
-/
import Scriptlet.Proofs.Syntax.Derivation
import Scriptlet.Proofs.Syntax.Outcome
import Scriptlet.Proofs.Syntax.Forward
import Scriptlet.Proofs.Token.Around

namespace Scriptlet

open Grammar
open Scriptlet.Parser (textOf binaryOperator? binaryOperators statementSpans)

namespace Forward

/-! ## Nodes on tokens -/

/-- The phrase that a node is read as when it is read by itself. -/
def Phrase : Node → List Content → Shape → Prop
  | .statements _ _ => Whole
  | _ => Expr

/-- The tokens are those of the node: they derive its shape, and its span is around
them.  The span of no tokens is a point somewhere. -/
structure Stands (ts : List Token) (node : Node) : Prop where
  derives : Phrase node (ts.map Token.content) node.shape
  span : Around ts node.span ∨ ts = [] ∧ ∃ p, node.span = .point p

/-- Each of the nodes has some of the tokens, in a row. -/
def Below (ts : List Token) (nodes : List Node) : Prop :=
  ∀ node ∈ nodes, ∃ us, us <:+: ts ∧ Stands us node

/-- The tokens are those of an expression and of all that is below it. -/
structure Covers (ts : List Token) (node : Node) : Prop where
  derives : Expr (ts.map Token.content) node.shape
  around : Ordered ts → Around ts node.span
  below : Ordered ts → Below ts node.walk

/-- Something may stand behind the tokens that completes a phrase. -/
def Unfinished {σ : Type} (Phrase : List Content → σ → Prop) (ts : List Token) : Prop :=
  ∃ cs p, Phrase (ts.map Token.content ++ cs) p

section Nodes

variable {us vs ts : List Token} {node : Node} {nodes more : List Node}

theorem Below.mono (h : Below us nodes) (hpart : us <:+: ts) : Below ts nodes := by
  intro node hnode
  obtain ⟨vs, hvs, hstands⟩ := h node hnode
  exact ⟨vs, hvs.trans hpart, hstands⟩

theorem Below.append (h : Below ts nodes) (h' : Below ts more) : Below ts (nodes ++ more) := by
  intro node hnode
  rcases List.mem_append.1 hnode with hnode | hnode
  · exact h node hnode
  · exact h' node hnode

theorem Below.cons (h : Stands us node) (hpart : us <:+: ts) (h' : Below ts nodes) :
    Below ts (node :: nodes) := by
  intro other hother
  rcases List.mem_cons.1 hother with rfl | hother
  · exact ⟨us, hpart, h⟩
  · exact h' other hother

/-- A node covers its tokens when what is below it stands on some of them. -/
theorem Covers.of_walk (hderives : Expr (ts.map Token.content) node.shape)
    (hphrase : Phrase node = Expr) (hwalk : node.walk = node :: nodes)
    (haround : Ordered ts → Around ts node.span) (hbelow : Ordered ts → Below ts nodes) :
    Covers ts node := by
  refine ⟨hderives, haround, fun hordered => ?_⟩
  rw [hwalk]
  exact .cons ⟨hphrase ▸ hderives, .inl (haround hordered)⟩ (List.infix_refl ts)
    (hbelow hordered)

end Nodes

/-! ## A logic of tokens taken -/

/-- Of the tokens, those that were taken satisfy one condition if the reader ended
with a value, and another if it stopped. -/
def Verdict.Took {α : Type} (ts : List Token) (ok : List Token → α → Prop)
    (stop : List Token → Prop) : Verdict α → Prop
  | .ok a rest => ∃ us, ts = us ++ rest ∧ ok us a
  | .stop _ rest => ∃ us, ts = us ++ rest ∧ stop us
  | .deep _ => True

/-- The same for all tokens. -/
def Reader.Takes {α : Type} (q : Reader α) (ok : List Token → α → Prop)
    (stop : List Token → Prop) : Prop :=
  ∀ ts, (q ts).Took ts ok stop

section Takes

variable {α β : Type} {q : Reader α} {f : α → Reader β} {ok : List Token → α → Prop}
  {okNext : List Token → β → Prop} {stop stopNext : List Token → Prop}

theorem Reader.Takes.mono {okWeak : List Token → α → Prop} (h : q.Takes ok stop)
    (hok : ∀ us a, ok us a → okWeak us a) (hstop : ∀ us, stop us → stopNext us) :
    q.Takes okWeak stopNext := by
  intro ts
  have hts := h ts
  cases hq : q ts with
  | ok a rest =>
      rw [hq] at hts
      obtain ⟨us, heq, hus⟩ := hts
      exact ⟨us, heq, hok us a hus⟩
  | stop cause rest =>
      rw [hq] at hts
      obtain ⟨us, heq, hus⟩ := hts
      exact ⟨us, heq, hstop us hus⟩
  | deep rest => trivial

theorem Reader.Takes.pure {a : α} (h : ok [] a) : (Pure.pure a : Reader α).Takes ok stop :=
  fun _ => ⟨[], rfl, h⟩

/-- In sequence, the tokens of the first reader stand in front of those of the second. -/
theorem Reader.Takes.bind (h : q.Takes ok stop) (hstop : ∀ us, stop us → stopNext us)
    (hf : ∀ us a, ok us a →
      (f a).Takes (fun vs b => okNext (us ++ vs) b) (fun vs => stopNext (us ++ vs))) :
    (q >>= f).Takes okNext stopNext := by
  intro ts
  have hts := h ts
  cases hq : q ts with
  | ok a mid =>
      rw [hq] at hts
      obtain ⟨us, rfl, hus⟩ := hts
      rw [bind_of_ok hq]
      have hmid := hf us a hus mid
      cases hr : f a mid with
      | ok b rest =>
          rw [hr] at hmid
          obtain ⟨vs, rfl, hvs⟩ := hmid
          exact ⟨us ++ vs, (List.append_assoc _ _ _).symm, hvs⟩
      | stop cause rest =>
          rw [hr] at hmid
          obtain ⟨vs, rfl, hvs⟩ := hmid
          exact ⟨us ++ vs, (List.append_assoc _ _ _).symm, hvs⟩
      | deep rest => trivial
  | stop cause rest =>
      rw [hq] at hts
      obtain ⟨us, heq, hus⟩ := hts
      rw [bind_of_stop hq]
      exact ⟨us, heq, hstop us hus⟩
  | deep rest => rw [bind_of_deep hq]; trivial

theorem takes_take (fits : Token → Bool) (what : String) :
    (take fits what).Takes (fun us t => us = [t] ∧ fits t = true) (· = []) := by
  intro ts
  cases ts with
  | nil => exact ⟨[], rfl, rfl⟩
  | cons t ts =>
      by_cases hfits : fits t = true
      · rw [take_of_fits hfits]
        exact ⟨[t], rfl, rfl, hfits⟩
      · rw [take_of_not hfits]
        exact ⟨[], rfl, rfl⟩

theorem takes_operator (symbol : String) :
    (operator symbol).Takes (fun us t => us = [t] ∧ t.content = .operator symbol) (· = []) :=
  (takes_take _ _).mono (fun _ _ h => ⟨h.1, Parser.isOperator_iff.1 h.2⟩) fun _ h => h

theorem takes_ofKind (kind : TokenKind) :
    (ofKind kind).Takes (fun us t => us = [t] ∧ t.kind = kind) (· = []) :=
  (takes_take _ _).mono (fun _ _ h => ⟨h.1, of_decide_eq_true h.2⟩) fun _ h => h

theorem takes_takeIf (use : Token → Option β) :
    (takeIf use).Takes
      (fun us found => (∃ t b, us = [t] ∧ use t = some b ∧ found = some b) ∨
        us = [] ∧ found = none)
      (fun _ => False) := by
  intro ts
  cases ts with
  | nil => exact ⟨[], rfl, .inr ⟨rfl, rfl⟩⟩
  | cons t ts =>
      cases huse : use t with
      | some b =>
          rw [takeIf_of_some huse]
          exact ⟨[t], rfl, .inl ⟨t, b, rfl, huse, rfl⟩⟩
      | none =>
          rw [takeIf_of_none huse]
          exact ⟨[], rfl, .inr ⟨rfl, rfl⟩⟩

theorem takes_accept (symbol : String) :
    (accept symbol).Takes
      (fun us found => (∃ t, us = [t] ∧ t.content = .operator symbol ∧ found = some t) ∨
        us = [] ∧ found = none)
      (fun _ => False) := by
  refine (takes_takeIf _).mono ?_ fun _ h => h
  rintro us found (⟨t, b, rfl, huse, rfl⟩ | h)
  · split at huse
    · next hop =>
        cases huse
        exact .inl ⟨t, rfl, Parser.isOperator_iff.1 hop, rfl⟩
    · cases huse
  · exact .inr h

theorem takes_look (g : Option Token → α) :
    Reader.Takes (fun ts => .ok (g ts.head?) ts)
      (fun us a => us = [] ∧ ∃ next, a = g next) (fun _ => False) :=
  fun ts => ⟨[], rfl, rfl, ts.head?, rfl⟩

theorem takes_refuse (what : String) (h : stop []) : (refuse what : Reader α).Takes ok stop :=
  fun _ => ⟨[], rfl, h⟩

theorem Reader.Takes.optional (h : q.Takes ok stop) :
    (optional q).Takes
      (fun us found => (∃ a, ok us a ∧ found = some a) ∨ us = [] ∧ found = none) stop := by
  intro ts
  have hts := h ts
  unfold Forward.optional
  cases hq : q ts with
  | ok a rest =>
      rw [hq] at hts
      obtain ⟨us, heq, hus⟩ := hts
      exact ⟨us, heq, .inl ⟨a, hus, rfl⟩⟩
  | stop cause rest =>
      rw [hq] at hts
      dsimp only
      split
      · exact ⟨[], rfl, .inr ⟨rfl, rfl⟩⟩
      · exact hts
  | deep rest => trivial

end Takes

/-! ## Rows -/

/-- The tokens derive the shape of what was read, and its nodes stand on them. -/
def Taken {α σ : Type} (Phrase : List Content → σ → Prop) (shape : α → σ)
    (nodes : α → List Node) (ts : List Token) (a : α) : Prop :=
  Phrase (ts.map Token.content) (shape a) ∧ (Ordered ts → Below ts (nodes a))

section Rows

variable {α σ : Type} {item : Reader α} {Item : List Content → σ → Prop} {shape : α → σ}
  {nodes : α → List Node}

theorem Covers.taken {ts : List Token} {node : Node} (h : Covers ts node) :
    Taken Expr Node.shape Node.walk ts node :=
  ⟨h.derives, h.below⟩

theorem takes_rowUpTo (h : item.Takes (Taken Item shape nodes) (Unfinished Item))
    (closer : String) :
    ∀ bound, (rowUpTo item closer bound).Takes
      (Taken (Row Item) (List.map shape) (List.flatMap nodes)) (Unfinished (Row Item))
  | 0 => .pure ⟨.none, fun _ => nofun⟩
  | bound + 1 => by
      refine .bind (takes_look _) (fun _ h => h.elim) ?_
      rintro us closed ⟨rfl, -⟩
      cases closed with
      | true => exact .pure ⟨.none, fun _ => nofun⟩
      | false =>
          refine .bind h ?_ ?_
          · rintro us ⟨cs, p, hp⟩
            exact ⟨cs, [p], .last hp⟩
          · intro us first ⟨hfirst, hbelow⟩
            refine .bind (takes_accept ",") (fun _ h => h.elim) ?_
            rintro vs found (⟨t, rfl, hcomma, rfl⟩ | ⟨rfl, rfl⟩)
            · refine .bind (takes_rowUpTo h closer bound) ?_ ?_
              · rintro ws ⟨cs, ps, hrest⟩
                refine ⟨cs, shape first :: ps, ?_⟩
                simpa [hcomma] using Row.more hfirst hrest
              · intro ws rest ⟨hrest, hbelow'⟩
                refine .pure ⟨?_, fun hordered => ?_⟩
                · simpa [hcomma] using Row.more hfirst hrest
                · exact ((hbelow hordered.right.left).mono ⟨[], t :: ws, by simp⟩).append
                    ((hbelow' hordered.right.right.right.left).mono ⟨us ++ [t], [], by simp⟩)
            · refine .pure ⟨?_, fun hordered => ?_⟩
              · simpa using Row.last hfirst
              · rw [List.flatMap_singleton]
                exact (hbelow hordered.right.left).mono ⟨[], [], by simp⟩

theorem takes_row (h : item.Takes (Taken Item shape nodes) (Unfinished Item)) (closer : String) :
    (row item closer).Takes (Taken (Row Item) (List.map shape) (List.flatMap nodes))
      (Unfinished (Row Item)) :=
  fun ts => takes_rowUpTo h closer (ts.length + 1) ts

end Rows

/-! ## Statements -/

section Statements

variable {expr : Reader Node}

/-- An expression can be made a statement by what stands behind it. -/
theorem statement_of_expr {cs : List Content} {p : Shape} (h : Expr cs p) :
    ∃ more, Statement (cs ++ more) p := by
  cases hp : p.isComment with
  | true =>
      obtain ⟨text, rfl, rfl⟩ := h.of_isComment hp
      exact ⟨[], .comment text⟩
  | false => exact ⟨[.operator ";"], .ended h hp⟩

/-- The tokens of a statement, with the spans of its parts and what is below it. -/
structure StatementTaken (ts : List Token) (found : Node × Option Span) : Prop where
  derives : Statement (ts.map Token.content) found.1.shape
  tiles : Ordered ts → Tiles ts (statementSpans found)
  below : Ordered ts → Below ts found.1.walk

theorem takes_statement (h : expr.Takes Covers (Unfinished Expr)) :
    (statement expr).Takes StatementTaken (Unfinished Statement) := by
  refine .bind h ?_ ?_
  · rintro us ⟨cs, p, hp⟩
    obtain ⟨more, hstatement⟩ := statement_of_expr hp
    exact ⟨cs ++ more, p, by simpa using hstatement⟩
  · intro us node hnode
    have hcomment : node.shape.isComment = node.isComment := Node.isComment_shape node
    cases hc : node.isComment with
    | true =>
        obtain ⟨text, htext, hshape⟩ := hnode.derives.of_isComment (hcomment.trans hc)
        refine .bind (takes_accept ";") (fun _ h => h.elim) ?_
        rintro vs found (⟨t, rfl, hsep, rfl⟩ | ⟨rfl, rfl⟩)
        · refine .pure ⟨?_, fun hordered => ?_, fun hordered => ?_⟩
          · simpa [hsep, htext, hshape] using Statement.commentEnded text
          · exact .cons (hnode.around hordered.left) (.cons (around_single t) .nil)
          · exact (hnode.below hordered.left).mono ⟨[], [t], by simp⟩
        · refine .pure ⟨?_, fun hordered => ?_, fun hordered => ?_⟩
          · simpa [htext, hshape] using Statement.comment text
          · exact .cons (hnode.around hordered.left) .nil
          · exact (hnode.below hordered.left).mono ⟨[], [], by simp⟩
    | false =>
        refine .bind (takes_operator ";") ?_ ?_
        · rintro vs rfl
          refine ⟨[.operator ";"], node.shape, ?_⟩
          simpa using Statement.ended hnode.derives (hcomment.trans hc)
        · rintro vs t ⟨rfl, hsep⟩
          refine .pure ⟨?_, fun hordered => ?_, fun hordered => ?_⟩
          · simpa [hsep] using Statement.ended hnode.derives (hcomment.trans hc)
          · exact .cons (hnode.around hordered.left) (.cons (around_single t) .nil)
          · exact (hnode.below hordered.left).mono ⟨[], [t], by simp⟩

/-- The tokens of statements in a row. -/
structure StatementsTaken (ts : List Token) (found : List (Node × Option Span)) : Prop where
  derives : Program (ts.map Token.content) (found.map fun one => one.1.shape)
  tiles : Ordered ts → Tiles ts (found.flatMap statementSpans)
  below : Ordered ts → Below ts (found.flatMap fun one => one.1.walk)

theorem statementsTaken_nil : StatementsTaken [] [] := ⟨.none, fun _ => .nil, fun _ => nofun⟩

theorem takes_statementsUpTo (h : expr.Takes Covers (Unfinished Expr)) :
    ∀ bound, (statementsUpTo expr bound).Takes StatementsTaken (Unfinished Program)
  | 0 => .pure statementsTaken_nil
  | bound + 1 => by
      refine .bind (takes_look _) (fun _ h => h.elim) ?_
      rintro us done ⟨rfl, -⟩
      cases done with
      | true => exact .pure statementsTaken_nil
      | false =>
          refine .bind (takes_statement h).optional ?_ ?_
          · rintro us ⟨cs, p, hp⟩
            exact ⟨cs, [p], by simpa using Program.more hp .none⟩
          · rintro us found (⟨first, hfirst, rfl⟩ | ⟨rfl, rfl⟩)
            · refine .bind (takes_statementsUpTo h bound) ?_ ?_
              · rintro vs ⟨cs, ps, hrest⟩
                exact ⟨cs, _, by simpa using Program.more hfirst.derives hrest⟩
              · intro vs rest hrest
                refine .pure ⟨?_, fun hordered => ?_, fun hordered => ?_⟩
                · simpa using Program.more hfirst.derives hrest.derives
                · rw [List.append_nil] at hordered ⊢
                  exact (hfirst.tiles hordered.right.left).append (hrest.tiles hordered.right.right)
                · rw [List.append_nil] at hordered ⊢
                  exact ((hfirst.below hordered.right.left).mono ⟨[], vs, by simp⟩).append
                    ((hrest.below hordered.right.right).mono ⟨us, [], by simp⟩)
            · exact .pure statementsTaken_nil

/-- The tokens of statements with the span around them, which for no statements is a
point. -/
structure ItemsTaken (ts : List Token) (found : List Node × Span) : Prop where
  derives : Program (ts.map Token.content) (found.1.map Node.shape)
  span : Ordered ts → Around ts found.2 ∨ ts = [] ∧ ∃ p, found.2 = .point p
  below : Ordered ts → Below ts (found.1.flatMap Node.walk)

theorem span_of_tiles {ts : List Token} {found : List (Node × Option Span)} (start : Span)
    (h : Tiles ts (found.flatMap statementSpans)) (hordered : Ordered ts) :
    Around ts (spanOfStatements start found) ∨
      ts = [] ∧ spanOfStatements start found = start := by
  unfold spanOfStatements
  cases hspans : found.flatMap statementSpans with
  | nil =>
      rw [hspans] at h
      cases h
      exact .inr ⟨rfl, rfl⟩
  | cons first rest =>
      rw [hspans] at h
      cases h with
      | cons ha hrest => exact .inl (hrest.mergeAll ha hordered)

theorem takes_items (finish : Position) (h : expr.Takes Covers (Unfinished Expr)) :
    (items finish expr).Takes ItemsTaken (Unfinished Program) := by
  refine .bind (takes_look _) (fun _ h => h.elim) ?_
  rintro us start ⟨rfl, next, rfl⟩
  refine .bind (fun ts => takes_statementsUpTo h ts.length ts) (fun _ h => h) ?_
  intro us found hfound
  refine .pure ⟨?_, fun hordered => ?_, fun hordered => ?_⟩
  · simpa [Function.comp_def] using hfound.derives
  · simp only [List.nil_append, List.append_nil] at hordered ⊢
    rcases span_of_tiles (placeOf finish next) (hfound.tiles hordered) hordered with
      haround | ⟨hnil, hpoint⟩
    · exact .inl haround
    · exact .inr ⟨hnil, _, hpoint⟩
  · simp only [List.nil_append, List.append_nil] at hordered ⊢
    simpa [List.flatMap_map] using hfound.below hordered

/-- The tokens of a list of statements as a node. -/
structure ProgramTaken (ts : List Token) (node : Node) : Prop where
  derives : Whole (ts.map Token.content) node.shape
  below : Ordered ts → Below ts node.walk

theorem walkAll_eq : ∀ nodes : List Node, Node.walkAll nodes = nodes.flatMap Node.walk
  | [] => rfl
  | node :: rest => by rw [Node.walkAll, walkAll_eq rest, List.flatMap_cons]

theorem ItemsTaken.program {ts : List Token} {found : List Node} {span : Span}
    (h : ItemsTaken ts (found, span)) : ProgramTaken ts (.statements found span) := by
  have hderives : Whole (ts.map Token.content) (Node.statements found span).shape := by
    simp only [Node.shape, Node.shapes_eq_map]
    exact .program h.derives
  refine ⟨hderives, fun hordered => ?_⟩
  rw [Node.walk, walkAll_eq]
  exact .cons ⟨hderives, h.span hordered⟩ (List.infix_refl ts) (h.below hordered)

theorem takes_program (finish : Position) (h : expr.Takes Covers (Unfinished Expr)) :
    (program finish expr).Takes ProgramTaken (Unfinished Program) := by
  refine .bind (takes_items finish h) (fun _ h => h) ?_
  rintro us ⟨found, span⟩ hfound
  exact .pure (by rw [List.append_nil]; exact hfound.program)

end Statements

/-! ## Terms -/

structure TermTaken (ts : List Token) (node : Node) : Prop where
  derives : Term (ts.map Token.content) node.shape
  covers : Covers ts node

section Terms

variable {expr : Reader Node}

theorem unfinished_term_nil : Unfinished Term [] := ⟨[.literal (.integer 0)], _, .literal _⟩

theorem expr_zero : Expr [.literal (.integer 0)] (.literal (.integer 0)) := .term (.literal _)

theorem Unfinished.expr_of_term {ts : List Token} (h : Unfinished Term ts) :
    Unfinished Expr ts := by
  obtain ⟨cs, p, hp⟩ := h
  exact ⟨cs, p, .term hp⟩

theorem content_of_identifier {t : Token} (h : t.kind = .identifier) :
    t.content = .identifier (textOf t) := by
  unfold textOf
  cases hcontent : t.content with
  | identifier name => rfl
  | comment _ => rw [Token.kind, hcontent] at h; cases h
  | literal _ => rw [Token.kind, hcontent] at h; cases h
  | operator _ => rw [Token.kind, hcontent] at h; cases h

theorem content_of_comment {t : Token} (h : t.kind = .comment) :
    t.content = .comment (textOf t) := by
  unfold textOf
  cases hcontent : t.content with
  | comment text => rfl
  | identifier _ => rw [Token.kind, hcontent] at h; cases h
  | literal _ => rw [Token.kind, hcontent] at h; cases h
  | operator _ => rw [Token.kind, hcontent] at h; cases h

theorem termTaken_single {t : Token} {node : Node} (hderives : Term [t.content] node.shape)
    (hspan : node.span = t.span) (hphrase : Phrase node = Expr) (hwalk : node.walk = [node]) :
    TermTaken [t] node :=
  ⟨hderives, .of_walk (.term hderives) hphrase hwalk (fun _ => hspan ▸ around_single t)
    fun _ => nofun⟩

theorem takes_closedRow (h : expr.Takes Covers (Unfinished Expr)) (opening : List Token)
    (shape : List Shape → Shape) {first : Token} {closer : String}
    {make : List Node → Token → Node}
    (hterm : ∀ cs ps, Row Expr cs ps →
      Term ((first :: opening).map Token.content ++ (cs ++ [.operator closer])) (shape ps))
    (hshape : ∀ args last, (make args last).shape = shape (args.map Node.shape))
    (hspan : ∀ args last, (make args last).span = first.span.merge last.span)
    (hwalk : ∀ args last, (make args last).walk = make args last :: Node.walkAll args)
    (hphrase : ∀ args last, Phrase (make args last) = Expr) :
    (do let args ← row expr closer
        let last ← operator closer
        return make args last : Reader Node).Takes
      (fun us node => TermTaken (first :: (opening ++ us)) node)
      (fun us => Unfinished Term (first :: (opening ++ us))) := by
  have hrow := takes_row (h.mono (fun _ _ hnode => hnode.taken) fun _ h => h) closer
  refine .bind hrow ?_ ?_
  · rintro us ⟨cs, ps, hps⟩
    refine ⟨cs ++ [.operator closer], shape ps, ?_⟩
    simpa using hterm _ _ hps
  · intro us args ⟨hargs, hbelow⟩
    refine .bind (takes_operator closer) ?_ ?_
    · rintro vs rfl
      refine ⟨[.operator closer], shape (args.map Node.shape), ?_⟩
      simpa using hterm _ _ hargs
    · rintro vs last ⟨rfl, hlast⟩
      have hderives : Term ((first :: (opening ++ (us ++ [last]))).map Token.content)
          (make args last).shape := by
        rw [hshape]
        simpa [hlast] using hterm _ _ hargs
      refine .pure ⟨hderives, .of_walk (.term hderives) (hphrase _ _) (hwalk _ _) ?_ ?_⟩
      · intro hordered
        rw [hspan]
        have haround := (around_single first).merge (opening ++ us) (around_single last)
        simpa using haround (by simpa using hordered)
      · intro hordered
        rw [walkAll_eq]
        have hpart : us <:+: first :: (opening ++ (us ++ ([last] ++ []))) :=
          ⟨first :: opening, [last], by simp⟩
        exact (hbelow (hordered.sublist hpart.sublist)).mono hpart

theorem takes_afterName (h : expr.Takes Covers (Unfinished Expr)) {name : Token}
    (hname : name.kind = .identifier) :
    (afterName expr name).Takes (fun us node => TermTaken (name :: us) node)
      (fun us => Unfinished Term (name :: us)) := by
  have hcontent := content_of_identifier hname
  refine .bind (takes_accept "(") (fun _ h => h.elim) ?_
  rintro us found (⟨t, rfl, hopener, rfl⟩ | ⟨rfl, rfl⟩)
  · refine takes_closedRow h [t] (.call (textOf name)) ?_ ?_ (fun _ _ => rfl) (fun _ _ => rfl)
      (fun _ _ => rfl)
    · intro cs ps hps
      simpa [hcontent, hopener] using Term.call hps
    · intro args last
      simp only [Node.shape, Node.shapes_eq_map]
  · refine .pure (termTaken_single ?_ rfl rfl rfl)
    rw [hcontent]
    exact .identifier _

theorem takes_listLiteral (h : expr.Takes Covers (Unfinished Expr)) :
    (listLiteral expr).Takes TermTaken (Unfinished Term) := by
  refine .bind (takes_operator "[") ?_ ?_
  · rintro us rfl
    exact unfinished_term_nil
  · rintro us t ⟨rfl, hopener⟩
    refine takes_closedRow h [] .list ?_ ?_ (fun _ _ => rfl) (fun _ _ => rfl) (fun _ _ => rfl)
    · intro cs ps hps
      simpa [hopener] using Term.list hps
    · intro args last
      simp only [Node.shape, Node.shapes_eq_map]

theorem takes_block (finish : Position) (h : expr.Takes Covers (Unfinished Expr)) :
    (block finish expr).Takes TermTaken (Unfinished Term) := by
  refine .bind (takes_operator "\x7b") ?_ ?_
  · rintro us rfl
    exact unfinished_term_nil
  · rintro us opener ⟨rfl, hopener⟩
    refine .bind (takes_items finish h) ?_ ?_
    · rintro us ⟨cs, ps, hps⟩
      refine ⟨cs ++ [.operator "\x7d"], .block ps, ?_⟩
      simpa [hopener] using Term.block hps
    · rintro us ⟨found, inner⟩ hfound
      refine .bind (takes_operator "\x7d") ?_ ?_
      · rintro vs rfl
        refine ⟨[.operator "\x7d"], .block (found.map Node.shape), ?_⟩
        simpa [hopener] using Term.block hfound.derives
      · rintro vs closer ⟨rfl, hcloser⟩
        have hderives : Term ((opener :: (us ++ [closer])).map Token.content)
            (Node.block found inner (opener.span.merge closer.span)).shape := by
          simp only [Node.shape, Node.shapes_eq_map]
          simpa [hopener, hcloser] using Term.block hfound.derives
        have hprogram := hfound.program
        refine .pure ⟨hderives, .of_walk (.term hderives) rfl rfl ?_ ?_⟩
        · intro hordered
          exact (around_single opener).merge us (around_single closer) hordered
        · intro hordered
          have hpart : us <:+: [opener] ++ (us ++ ([closer] ++ [])) :=
            ⟨[opener], [closer], by simp⟩
          exact (hprogram.below (hordered.sublist hpart.sublist)).mono hpart

theorem takes_literal : literal.Takes TermTaken (Unfinished Term) := by
  refine .bind (takes_ofKind .literal) ?_ ?_
  · rintro us rfl
    exact unfinished_term_nil
  · rintro us t ⟨rfl, hkind⟩
    cases hcontent : t.content with
    | literal value =>
        refine .pure (termTaken_single ?_ rfl rfl rfl)
        rw [hcontent]
        exact .literal value
    | comment _ => rw [Token.kind, hcontent] at hkind; cases hkind
    | identifier _ => rw [Token.kind, hcontent] at hkind; cases hkind
    | operator _ => rw [Token.kind, hcontent] at hkind; cases hkind

theorem takes_term (finish : Position) (h : expr.Takes Covers (Unfinished Expr)) :
    (term finish expr).Takes TermTaken (Unfinished Term) := by
  refine .bind (takes_look id) (fun _ h => h.elim) ?_
  rintro us next ⟨rfl, -⟩
  cases Opening.ofToken? next with
  | name =>
      refine .bind (takes_ofKind .identifier) ?_ ?_
      · rintro us rfl
        exact unfinished_term_nil
      · rintro us name ⟨rfl, hkind⟩
        exact takes_afterName h hkind
  | literal => exact takes_literal
  | brace => exact takes_block finish h
  | bracket => exact takes_listLiteral h
  | comment => exact takes_refuse _ unfinished_term_nil
  | paren => exact takes_refuse _ unfinished_term_nil
  | nothing => exact takes_refuse _ unfinished_term_nil

end Terms

/-! ## Expressions -/

section Expressions

variable {expr : Reader Node}

theorem unfinished_expr_nil : Unfinished Expr [] := unfinished_term_nil.expr_of_term

theorem Covers.ending {lead us : List Token} (between : List Token) {span : Span}
    {node value : Node} {nodes : List Node} (hvalue : Covers us value)
    (hlead : Ordered lead → Around lead span ∧ Below lead nodes)
    (hderives : Expr ((lead ++ (between ++ us)).map Token.content) node.shape)
    (hspan : node.span = span.merge value.span) (hphrase : Phrase node = Expr)
    (hwalk : node.walk = node :: (nodes ++ value.walk)) :
    Covers (lead ++ (between ++ us)) node := by
  refine .of_walk hderives hphrase hwalk (fun hordered => ?_) fun hordered => ?_
  · rw [hspan]
    exact (hlead hordered.left).1.merge between (hvalue.around hordered.right.right) hordered
  · exact ((hlead hordered.left).2.mono ⟨[], between ++ us, by simp⟩).append
      ((hvalue.below hordered.right.right).mono ⟨lead ++ between, [], by simp⟩)

theorem lead_single (t : Token) : Ordered [t] → Around [t] t.span ∧ Below [t] [] :=
  fun _ => ⟨around_single t, nofun⟩

theorem takes_comment : comment.Takes Covers (Unfinished Expr) := by
  refine .bind (takes_ofKind .comment) ?_ ?_
  · rintro us rfl
    exact unfinished_expr_nil
  · rintro us t ⟨rfl, hkind⟩
    refine .pure (.of_walk ?_ rfl rfl (fun _ => around_single t) fun _ => nofun)
    simp only [List.append_nil, List.map_cons, List.map_nil, content_of_comment hkind]
    exact .comment _

theorem takes_afterOperand (h : expr.Takes Covers (Unfinished Expr)) {ts : List Token}
    {left : Node} (hleft : TermTaken ts left) :
    (afterOperand expr left).Takes (fun us node => Covers (ts ++ us) node)
      (fun us => Unfinished Expr (ts ++ us)) := by
  refine .bind (takes_takeIf _) (fun _ h => h.elim) ?_
  rintro us found (⟨t, symbol, rfl, hsymbol, rfl⟩ | ⟨rfl, rfl⟩)
  · obtain ⟨hcontent, hmem⟩ := operator_of_binary hsymbol
    refine .bind h ?_ ?_
    · rintro us ⟨cs, p, hp⟩
      refine ⟨cs, .call symbol [left.shape, p], ?_⟩
      simpa [hcontent] using Expr.binary hleft.derives hmem hp
    · intro us right hright
      refine .pure ?_
      rw [List.append_nil]
      have hlead : Ordered ts → Around ts left.span ∧ Below ts left.walk :=
        fun hordered => ⟨hleft.covers.around hordered, hleft.covers.below hordered⟩
      refine hright.ending [t] hlead ?_ rfl rfl ?_
      · simpa [hcontent, Node.shape, Node.shapes] using
          Expr.binary hleft.derives hmem hright.derives
      · simp [Node.walk, walkAll_eq]
  · exact .pure (by simpa using hleft.covers)

theorem takes_afterFirstName (h : expr.Takes Covers (Unfinished Expr)) {name : Token}
    (hname : name.kind = .identifier) :
    (afterFirstName expr name).Takes (fun us node => Covers (name :: us) node)
      (fun us => Unfinished Expr (name :: us)) := by
  have hcontent := content_of_identifier hname
  refine .bind (takes_accept "=") (fun _ h => h.elim) ?_
  rintro us found (⟨t, rfl, hequals, rfl⟩ | ⟨rfl, rfl⟩)
  · refine .bind h ?_ ?_
    · rintro us ⟨cs, p, hp⟩
      refine ⟨cs, .assignment (textOf name) p, ?_⟩
      simpa [hcontent, hequals] using Expr.assignment hp
    · intro us value hvalue
      refine .pure ?_
      rw [List.append_nil]
      refine hvalue.ending [t] (lead_single name) ?_ rfl rfl rfl
      simpa [hcontent, hequals, Node.shape] using Expr.assignment hvalue.derives
  · refine .bind (takes_afterName h hname) ?_ ?_
    · intro us hus
      exact hus.expr_of_term
    · intro us left hleft
      exact takes_afterOperand h hleft

theorem takes_function (h : expr.Takes Covers (Unfinished Expr)) :
    (function expr).Takes Covers (Unfinished Expr) := by
  refine .bind (takes_operator "(") ?_ ?_
  · rintro us rfl
    exact unfinished_expr_nil
  · rintro us opener ⟨rfl, hopener⟩
    have hnames : (ofKind .identifier).Takes (Taken Name textOf fun _ => []) (Unfinished Name) := by
      refine (takes_ofKind .identifier).mono ?_ ?_
      · rintro us t ⟨rfl, hkind⟩
        refine ⟨?_, fun _ => nofun⟩
        show [t.content] = _
        rw [content_of_identifier hkind]
      · rintro us rfl
        exact ⟨[.identifier ""], "", rfl⟩
    refine .bind (takes_row hnames ")") ?_ ?_
    · rintro us ⟨cs, names, hrow⟩
      refine ⟨cs ++ .operator ")" :: .operator "=>" :: [.literal (.integer 0)],
        .function names (.literal (.integer 0)), ?_⟩
      simpa [hopener] using Expr.function hrow expr_zero
    · rintro us params ⟨hrow, -⟩
      refine .bind (takes_operator ")") ?_ ?_
      · rintro vs rfl
        refine ⟨.operator ")" :: .operator "=>" :: [.literal (.integer 0)],
          .function (params.map textOf) (.literal (.integer 0)), ?_⟩
        simpa [hopener] using Expr.function hrow expr_zero
      · rintro vs closer ⟨rfl, hcloser⟩
        refine .bind (takes_operator "=>") ?_ ?_
        · rintro vs rfl
          refine ⟨.operator "=>" :: [.literal (.integer 0)],
            .function (params.map textOf) (.literal (.integer 0)), ?_⟩
          simpa [hopener, hcloser] using Expr.function hrow expr_zero
        · rintro vs arrow ⟨rfl, harrow⟩
          refine .bind h ?_ ?_
          · rintro vs ⟨cs, p, hp⟩
            refine ⟨cs, .function (params.map textOf) p, ?_⟩
            simpa [hopener, hcloser, harrow] using Expr.function hrow hp
          · intro vs body hbody
            refine .pure ?_
            have hcovers : Covers ([opener] ++ ((us ++ [closer, arrow]) ++ vs))
                (.function (params.map textOf) body (opener.span.merge body.span)) := by
              refine hbody.ending _ (lead_single opener) ?_ rfl rfl rfl
              simpa [hopener, hcloser, harrow, Node.shape] using
                Expr.function hrow hbody.derives
            simpa using hcovers

theorem takes_layer (finish : Position) (h : expr.Takes Covers (Unfinished Expr)) :
    (layer finish expr).Takes Covers (Unfinished Expr) := by
  have hoperation : (term finish expr >>= afterOperand expr).Takes Covers (Unfinished Expr) :=
    .bind (takes_term finish h) (fun _ hus => hus.expr_of_term)
      fun _ _ hleft => takes_afterOperand h hleft
  refine .bind (takes_look id) (fun _ h => h.elim) ?_
  rintro us next ⟨rfl, -⟩
  cases Opening.ofToken? next with
  | comment => exact takes_comment
  | name =>
      refine .bind (takes_ofKind .identifier) ?_ ?_
      · rintro us rfl
        exact unfinished_expr_nil
      · rintro us name ⟨rfl, hkind⟩
        exact takes_afterFirstName h hkind
  | paren => exact takes_function h
  | literal => exact hoperation
  | brace => exact hoperation
  | bracket => exact hoperation
  | nothing => exact takes_refuse _ unfinished_expr_nil

/-- Whatever the depth, an expression covers the tokens that were taken for it. -/
theorem takes_exprUpTo (finish : Position) :
    ∀ depth, (exprUpTo finish depth).Takes Covers (Unfinished Expr)
  | 0 => fun _ => trivial
  | depth + 1 => takes_layer finish (takes_exprUpTo finish depth)

end Expressions

end Forward

end Scriptlet
