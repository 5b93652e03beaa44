/-
# Programs one behind the other

The tokens of two programs in a row are read as the statements of both.  A
statement ends with its `;`, and the reader looks at nothing behind that; only a
comment may end without one, and then the reader looks for a `;`, which is not
what another program begins with.

The limit on nesting is the same for the programs by themselves and in a row.
-/
import Scriptlet.Proofs.Syntax.Layout
import Scriptlet.Proofs.Syntax.Reparse

namespace Scriptlet

namespace Forward

section Combinators

variable {α β : Type} {q : Reader α} {f : α → Reader β} {ts rest : List Token}

theorem ok_of_bind {b : β} (h : (q >>= f) ts = .ok b rest) :
    ∃ a mid, q ts = .ok a mid ∧ f a mid = .ok b rest := by
  cases hq : q ts with
  | ok a mid =>
      rw [bind_of_ok hq] at h
      exact ⟨a, mid, rfl, h⟩
  | stop cause mid =>
      rw [bind_of_stop hq] at h
      cases h
  | deep mid =>
      rw [bind_of_deep hq] at h
      cases h

theorem ok_of_optional {a : Option α} (h : optional q ts = .ok a rest) :
    (∃ b, a = some b ∧ q ts = .ok b rest) ∨ a = none ∧ rest = ts := by
  unfold optional at h
  cases hq : q ts with
  | ok b mid =>
      rw [hq] at h
      cases h
      exact .inl ⟨b, rfl, rfl⟩
  | stop cause mid =>
      simp only [hq] at h
      split at h
      · cases h
        exact .inr ⟨rfl, rfl⟩
      · cases h
  | deep mid =>
      rw [hq] at h
      cases h

end Combinators

section Statements

variable {finish : Position} {depth : Nat} {node : Node} {ts us rest : List Token}
  {first : Node × Option Span} {found more : List (Node × Option Span)}

/-! ## Single statements -/

/-- An expression that is a comment is the one token of it, and what stands behind that is
not looked at. -/
theorem exprUpTo_of_comment (h : exprUpTo finish depth ts = .ok node rest)
    (hcomment : node.isComment = true) :
    ∃ t, ts = t :: rest ∧ ∀ rest', exprUpTo finish depth (t :: rest') = .ok node rest' := by
  have htook := takes_exprUpTo finish depth ts
  rw [h] at htook
  obtain ⟨taken, rfl, hcovers⟩ := htook
  obtain ⟨text, htext, -⟩ := hcovers.derives.of_isComment ((Node.isComment_shape node).trans hcomment)
  obtain ⟨t, rfl, hcontent⟩ := List.map_eq_singleton_iff.1 htext
  refine ⟨t, rfl, ?_⟩
  cases depth with
  | zero => cases h
  | succ depth =>
      have hread (rest' : List Token) :
          exprUpTo finish (depth + 1) (t :: rest') =
            .ok (.comment (Parser.textOf t) t.span) rest' := by
        have hopen : Opening.ofToken? (t :: rest').head? = .comment :=
          congrArg Opening.ofContent hcontent
        rw [exprUpTo, layer_apply, hopen]
        exact bind_of_ok (ofKind_of (congrArg Content.kind hcontent))
      cases (hread rest).symm.trans h
      exact hread

/-- The tokens do not begin with a `;`. -/
def Unseparated (us : List Token) : Prop := ∀ t, us.head? = some t → ¬ t.isOperator ";" = true

theorem unseparated_of_statement (h : statement (exprUpTo finish depth) us = .ok first rest) :
    Unseparated us := by
  have htook := takes_statement (takes_exprUpTo finish depth) us
  rw [h] at htook
  obtain ⟨taken, rfl, htaken⟩ := htook
  obtain ⟨c, cs, hcs, hopens⟩ := htaken.derives.head
  obtain ⟨u, us, rfl, rfl, -⟩ := List.map_eq_cons_iff.1 hcs
  intro t ht hsemicolon
  cases ht
  rw [Parser.isOperator_iff.1 hsemicolon] at hopens
  exact absurd hopens (by decide)

/-- A `;` that was taken, or was not there, is so when tokens follow that do not begin with
another. -/
theorem accept_append {found : Option Token} (h : accept ";" ts = .ok found rest)
    (hus : Unseparated us) : accept ";" (ts ++ us) = .ok found (rest ++ us) := by
  cases ts with
  | nil =>
      cases h
      exact accept_of_not hus
  | cons t ts =>
      by_cases ht : t.isOperator ";" = true
      · cases (accept_of ht).symm.trans h
        exact accept_of ht
      · have hnone (more : List Token) : accept ";" (t :: more) = .ok none (t :: more) :=
          accept_of_not fun u hu => by cases hu; exact ht
        cases (hnone ts).symm.trans h
        exact hnone (ts ++ us)

/-- A statement is read alike when tokens follow that do not begin with a `;`. -/
theorem statement_append (h : statement (exprUpTo finish depth) ts = .ok first rest)
    (hus : Unseparated us) :
    statement (exprUpTo finish depth) (ts ++ us) = .ok first (rest ++ us) := by
  obtain ⟨node, mid, hexpr, hend⟩ := ok_of_bind h
  cases hcomment : node.isComment with
  | true =>
      rw [hcomment, if_pos rfl] at hend
      obtain ⟨separator, rest', haccept, hpure⟩ := ok_of_bind hend
      cases hpure
      obtain ⟨t, rfl, hany⟩ := exprUpTo_of_comment hexpr hcomment
      refine (bind_of_ok (hany (mid ++ us))).trans ?_
      rw [hcomment, if_pos rfl]
      exact bind_of_ok (accept_append haccept hus)
  | false =>
      rw [hcomment, if_neg Bool.false_ne_true] at hend
      obtain ⟨separator, rest', hseparator, hpure⟩ := ok_of_bind hend
      cases hpure
      -- The expression was read up to a token, the `;`, and that is the same as before.
      have htook := takes_operator ";" mid
      rw [hseparator] at htook
      obtain ⟨_, rfl, rfl, hcontent⟩ := htook
      obtain ⟨taken, rfl, hany⟩ := (advances_exprUpTo finish depth).ok hexpr
      have hlonger := hany ([separator] ++ rest ++ us) rfl
      rw [← List.append_assoc] at hlonger
      refine (bind_of_ok hlonger).trans ?_
      rw [hcomment, if_neg Bool.false_ne_true]
      exact bind_of_ok (operator_of_content hcontent)

/-! ## Statements in a row -/

theorem statements_step (expr : Reader Node) (t : Token) (ts : List Token) :
    statements expr (t :: ts) =
      (optional (statement expr) >>= fun found => match found with
        | none => pure []
        | some first => statementsUpTo expr ts.length >>= fun rest => pure (first :: rest) :
        Reader (List (Node × Option Span))) (t :: ts) :=
  rfl

theorem statementsUpTo_eq (finish : Position) (depth : Nat) {n : Nat} (h : rest.length ≤ n) :
    statementsUpTo (exprUpTo finish depth) n rest = statements (exprUpTo finish depth) rest :=
  statementsUpTo_bound (advances_exprUpTo finish depth) _ _ rest h (Nat.le_refl _)

/-- Statements that take all of the tokens: there are none, or there is a first one and
statements that take the rest. -/
theorem statements_cases (h : statements (exprUpTo finish depth) ts = .ok found []) :
    ts = [] ∧ found = [] ∨
      ∃ first rest more, statement (exprUpTo finish depth) ts = .ok first rest ∧
        rest.length < ts.length ∧ statements (exprUpTo finish depth) rest = .ok more [] ∧
        found = first :: more := by
  cases ts with
  | nil =>
      cases h
      exact .inl ⟨rfl, rfl⟩
  | cons t ts =>
      rw [statements_step] at h
      obtain ⟨looked, rest, hlooked, hmore⟩ := ok_of_bind h
      rcases ok_of_optional hlooked with ⟨first, rfl, hfirst⟩ | ⟨rfl, rfl⟩
      · have hlt := (advances_statement (advances_exprUpTo finish depth)).length_lt hfirst
        obtain ⟨more, left, hrest, hpure⟩ := ok_of_bind hmore
        cases hpure
        rw [statementsUpTo_eq finish depth (Nat.le_of_lt_succ hlt)] at hrest
        exact .inr ⟨first, rest, more, hfirst, hlt, hrest, rfl⟩
      · cases hmore

theorem statements_cons (hfirst : statement (exprUpTo finish depth) ts = .ok first rest)
    (hmore : statements (exprUpTo finish depth) rest = .ok more []) :
    statements (exprUpTo finish depth) ts = .ok (first :: more) [] := by
  have hlt := (advances_statement (advances_exprUpTo finish depth)).length_lt hfirst
  cases ts with
  | nil => cases hlt
  | cons t ts =>
      have hlooked : optional (statement (exprUpTo finish depth)) (t :: ts) =
          .ok (some first) rest := by
        rw [optional, hfirst]
      have hrest := statementsUpTo_eq finish depth (Nat.le_of_lt_succ hlt)
      rw [statements_step, bind_of_ok hlooked]
      exact bind_of_ok (hrest.trans hmore)

/-- The statements of tokens in a row are those of the first and then those of the second. -/
theorem statements_append (hts : statements (exprUpTo finish depth) ts = .ok found [])
    (hus : statements (exprUpTo finish depth) us = .ok more []) :
    statements (exprUpTo finish depth) (ts ++ us) = .ok (found ++ more) [] := by
  have hseparate : Unseparated us := by
    rcases statements_cases hus with ⟨rfl, -⟩ | ⟨first, rest, more', hfirst, -⟩
    · exact nofun
    · exact unseparated_of_statement hfirst
  induction hlength : ts.length using Nat.strongRecOn generalizing ts found with
  | ind n ih =>
      rcases statements_cases hts with ⟨rfl, rfl⟩ | ⟨first, rest, found', hfirst, hlt, hrest, rfl⟩
      · exact hus
      · have hread := ih rest.length (hlength ▸ hlt) hrest rfl
        exact statements_cons (statement_append hfirst hseparate) hread

end Statements

end Forward

/-! ## Whole programs -/

/-- A program that was read is a row of statements, which are all of its tokens. -/
theorem parseProgram_eq_ok_iff {source : Source} {tokens : List Token} {program : Node} :
    parseProgram source tokens = .ok program ↔
      ∃ found, Forward.statements (Forward.exprUpTo source.endPosition 500) tokens = .ok found [] ∧
        program = .statements (found.map Prod.fst)
          (Forward.spanOfStatements (Forward.placeOf source.endPosition tokens.head?) found) := by
  rw [parseProgram, Parser.wholeProgram_eq]
  constructor
  · intro h
    obtain ⟨⟨items, span⟩, rest, hitems, hpure⟩ := Forward.ok_of_bind (answer_eq_ok h)
    cases hpure
    obtain ⟨start, ts, hstart, hmore⟩ := Forward.ok_of_bind hitems
    cases hstart
    obtain ⟨found, left, hfound, hpure⟩ := Forward.ok_of_bind hmore
    cases hpure
    exact ⟨found, hfound, rfl⟩
  · rintro ⟨found, hfound, rfl⟩
    have hitems : Forward.items source.endPosition
        (Forward.exprUpTo source.endPosition 500) tokens = .ok (found.map Prod.fst,
          Forward.spanOfStatements (Forward.placeOf source.endPosition tokens.head?) found) [] :=
      Forward.bind_of_ok hfound
    have hprogram : Forward.program source.endPosition
        (Forward.exprUpTo source.endPosition 500) tokens = _ := Forward.bind_of_ok hitems
    exact congrArg _ hprogram

/-- Statements that take all of the tokens are read in another source, too, from tokens of
the same contents. -/
theorem statements_elsewhere {finish : Position} {ts vs : List Token}
    {found : List (Node × Option Span)}
    (h : Forward.statements (Forward.exprUpTo finish 500) ts = .ok found [])
    (hcontents : Forward.SameContents vs ts) (finish' : Position) :
    ∃ found', Forward.statements (Forward.exprUpTo finish' 500) vs = .ok found' [] ∧
      List.Forall₂ Forward.SameShape (found'.map Prod.fst) (found.map Prod.fst) := by
  have hboth := Forward.blind_statements (Forward.blind_exprUpTo finish' finish 500) vs ts hcontents
  rw [h] at hboth
  generalize Forward.statements (Forward.exprUpTo finish' 500) vs = verdict at hboth
  cases hboth with
  | @ok found' _ _ _ hrest hshapes =>
      cases hrest
      have hnodes := List.forall₂_map_left_iff.2 (List.forall₂_map_right_iff.2 hshapes)
      exact ⟨found', rfl, hnodes⟩

/-- **Two programs in a row are read as one**, with the statements of the first and then
those of the second, in other places. -/
theorem parseProgram_joined {a b : Source} {ts us vs ws : List Token} {program program' : Node}
    (ha : parseProgram a ts = .ok program) (hb : parseProgram b us = .ok program')
    (hvs : Forward.SameContents vs ts) (hws : Forward.SameContents ws us) (c : Source) :
    ∃ xs ys xs' ys' span span' span'',
      program = .statements xs span ∧ program' = .statements ys span' ∧
      parseProgram c (vs ++ ws) = .ok (.statements (xs' ++ ys') span'') ∧
      List.Forall₂ Forward.SameShape xs' xs ∧ List.Forall₂ Forward.SameShape ys' ys := by
  obtain ⟨found, hfound, rfl⟩ := parseProgram_eq_ok_iff.1 ha
  obtain ⟨more, hmore, rfl⟩ := parseProgram_eq_ok_iff.1 hb
  obtain ⟨found', hfound', hshapes⟩ := statements_elsewhere hfound hvs c.endPosition
  obtain ⟨more', hmore', hshapes'⟩ := statements_elsewhere hmore hws c.endPosition
  have hjoined := parseProgram_eq_ok_iff.2 ⟨_, Forward.statements_append hfound' hmore', rfl⟩
  rw [List.map_append] at hjoined
  exact ⟨_, _, _, _, _, _, _, rfl, rfl, hjoined, hshapes, hshapes'⟩

end Scriptlet
