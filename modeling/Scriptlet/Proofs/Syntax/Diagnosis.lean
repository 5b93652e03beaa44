/-
# What a failed parse reports

The alternatives for an expression, put together, and from them an equation,
`wholeProgram_eq`: a whole parse gives the tree that reading forward gives, or the
diagnostic for the token at which that stops.

Everything that is known of reports goes through this equation.  On its right side stand
readers that take tokens off the front and never go back: no cursor, no ordered
alternatives, no furthest failure, and no memory.  So it answers three questions at once.

    where a report points        at the token at which reading forward stops (`FirstOffence`)
    what layout makes of it      nothing but the place, since readers look at contents only
                                 (`Layout`)
    what memory makes of it      nothing at all (`parse_ignores_memory`)

The last is not a matter of course.  A term that is remembered is not read again, and
what it would have recorded on the second reading is not recorded; the furthest failure of
a parse with memory is another one than without.  It is the failure at the stop that
is the same for both, and a whole parse that fails reports that one.
-/
import Scriptlet.Proofs.Syntax.Acceptance
import Scriptlet.Proofs.Syntax.Operations

namespace Scriptlet

open Forward (Verdict Reader Opening)

namespace Parser

/-! ## Expressions -/

section Layers

variable {i : Input} {expr : Parser Node} {read : Reader Node} {s : State} {t : Token}

/-- A failure at the token behind a name does not matter to a rule that takes the name. -/
theorem Meets.recorded {stuck : Node → State → Prop} {room : Nat} {v : Verdict Node}
    {r : Result Node} {furthest : Option Failure}
    (h : Meets i { s with furthest := furthest } room stuck v r)
    (hupto : Upto (s.pos + 1) s.furthest furthest)
    (hok : ∀ node rest, v = .ok node rest → rest.length < (i.left s.pos).length)
    (hstop : ∀ cause rest, v = .stop cause rest → rest.length < (i.left s.pos).length) :
    Meets i s room stuck v r := by
  cases v with
  | ok node rest =>
      obtain ⟨s', hr, rfl, hmoved, hfresh⟩ := h
      have hpos : s.pos < s'.pos := lt_of_length_left (hok _ _ rfl)
      exact ⟨s', hr, rfl, ⟨hmoved.le, (hupto.mono hpos).trans hmoved.upto, hmoved.kept⟩, hfresh⟩
  | stop cause rest =>
      obtain ⟨m, rfl, hstopped, hgiven⟩ := h
      have hpos : s.pos < m := lt_of_length_left (hstop _ _ rfl)
      refine ⟨m, rfl, ⟨hstopped.le, hstopped.within, ?_, hstopped.kept, hstopped.clean⟩, hgiven⟩
      exact hstopped.furthest.trans (later_of_upto (hupto.mono hpos))
  | deep rest => exact h

theorem meets_layer_nothing (hfresh : Fresh i s 0)
    (hopen : Opening.ofToken? i.tokens[s.pos]? = .nothing) :
    Meets i s 0 (NodeAt joints i) (Forward.refuse "expression" (i.left s.pos))
      (layer expr i s) := by
  obtain ⟨furthest, hupto, heq⟩ := firstOf_skip (failExpecting "expression")
    [binaryOperation expr, term expr] (s := s)
    (skips_all (.cons opens_comment (.cons opens_assignment (.cons opens_function .nil)))
      (by rw [hopen]; decide))
  obtain ⟨s₁, hfail, hbeside⟩ := firstOf_noOperation expr (failExpecting "expression")
    (s := { s with furthest := furthest }) (by rw [hopen]; decide)
    fun hremember => hfresh.clean hremember s.pos (Nat.le_refl _)
  have hresult : layer expr i s = failExpecting "expression" i s₁ := heq.trans hfail
  have hfresh₁ : Fresh i s₁ 1 := by
    refine ⟨hbeside.pos ▸ hfresh.within, fun hremember q hq => ?_⟩
    rw [hbeside.pos] at hq
    rw [hbeside.memory q (by show q ≠ s.pos; exact Nat.ne_of_gt hq)]
    exact hfresh.clean hremember q (Nat.le_of_lt hq)
  have hmoved : Moved s s₁ := by
    refine ⟨Nat.le_of_eq hbeside.pos.symm, ?_, fun q hq => hbeside.memory q (Nat.ne_of_lt hq)⟩
    rw [hbeside.pos]
    exact hupto.trans hbeside.upto
  rw [hresult]
  have hmeets : Meets i s₁ 0 (NodeAt joints i) _ _ := meets_failExpecting "expression" hfresh₁
  rw [hbeside.pos] at hmeets
  exact hmeets.moved hmoved

theorem meets_layer_paren (hexpr : Follows i (NodeAt joints i) expr read) (hfresh : Fresh i s 0)
    (hopen : Opening.ofToken? i.tokens[s.pos]? = .paren) :
    Meets i s 0 (NodeAt joints i) (Forward.function read (i.left s.pos)) (layer expr i s) := by
  obtain ⟨t, ht, hcontent⟩ := token_of_opening hopen (by decide)
  have hop : t.content = .operator "(" := by
    simpa only [hcontent] using Forward.content_of_opening t.content
  obtain ⟨furthest, hupto, heq⟩ := firstOf_skip (failExpecting "expression")
    [function expr, binaryOperation expr, term expr] (s := s)
    (skips_all (.cons opens_comment (.cons opens_assignment .nil)) (by rw [hopen]; decide))
  have hmoved : Moved s { s with pos := s.pos + 1, furthest := furthest } :=
    (Moved.recorded hupto).trans (.next _)
  have hlayer : layer expr i s = _ := heq
  rw [hlayer]
  refine (meets_function hexpr (hfresh.recorded furthest) ht (isOperator_iff.2 hop)).orElse
    hmoved fun cause m e s' hv hr hstopped => ?_
  have hm : s.pos < m := hstopped.le
  have hmiss : i.remember = true → s'.memory[s.pos]? = none := fun hremember =>
    (hstopped.kept s.pos (Nat.lt_succ_self _)).trans (hfresh.clean hremember s.pos (Nat.le_refl _))
  obtain ⟨s₃, hfail, hbeside⟩ := firstOf_noOperation expr (failExpecting "expression")
    (s := { s' with pos := s.pos }) (by rw [hopen]; decide) hmiss
  have hstopped' : Stopped i s cause m { s' with pos := s.pos } :=
    (hmoved.stopped hstopped).quiet ⟨rfl, rfl⟩
  have hstopped₃ : Stopped i s cause m s₃ := hstopped'.beside rfl hbeside hm
  have hpos₃ : s₃.pos < m := hbeside.pos ▸ hm
  rw [hfail, hv, failExpecting_quiet "expression" hstopped₃.beyond hpos₃]
  exact ⟨m, rfl, hstopped₃, trivial⟩

/-- An assignment that fails is its target, in front of the `=`. -/
theorem meets_layer_assignment (hexpr : Follows i (NodeAt joints i) expr read)
    (hfresh : Fresh i s 0) {t' : Token} (ht : i.tokens[s.pos]? = some t)
    (hkind : t.kind = .identifier) (ht' : i.tokens[s.pos + 1]? = some t')
    (hop : t'.content = .operator "=") :
    Meets i s 0 (NodeAt joints i)
      ((read >>= fun value => pure (.assignment (textOf t) value (t.span.merge value.span)))
        (i.left (s.pos + 1 + 1)))
      (layer expr i s) := by
  have hopen : Opening.ofToken? i.tokens[s.pos]? = .name := opening_of_name ht hkind
  obtain ⟨furthest, hupto, heq⟩ := firstOf_skip (failExpecting "expression")
    [assignment expr, function expr, binaryOperation expr, term expr] (s := s)
    (skips_all (.cons opens_comment .nil) (by rw [hopen]; decide))
  have hmoved : Moved s { s with pos := s.pos + 1 + 1, furthest := furthest } :=
    (Moved.recorded hupto).trans ((Moved.next _).trans (.next _))
  have hlayer : layer expr i s = _ := heq
  rw [hlayer]
  refine (meets_assignment hexpr (hfresh.recorded furthest) ht hkind ht'
    (isOperator_iff.2 hop)).orElse hmoved fun cause m e s' hv hr hstopped => ?_
  have hm : s.pos + 1 < m := hstopped.le
  have hstopped' : Stopped i s cause m { s' with pos := s.pos } :=
    (hmoved.stopped hstopped).quiet ⟨rfl, rfl⟩
  have hskip : ∀ p ∈ [function expr], Skips s.pos p i { s' with pos := s.pos }.pos :=
    skips_all (.cons opens_function .nil) (by rw [hopen]; decide)
  obtain ⟨furthest', hupto', hrest⟩ := firstOf_skip (failExpecting "expression")
    [binaryOperation expr, term expr] hskip
  have hkept : furthest' = s'.furthest :=
    hupto'.eq_of_beyond hstopped'.beyond (Nat.lt_of_succ_lt hm)
  have hmiss : i.remember = true → s'.memory[s.pos]? = none := fun hremember =>
    (hstopped.kept s.pos (Nat.lt_succ_of_le (Nat.le_succ _))).trans
      (hfresh.clean hremember s.pos (Nat.le_refl _))
  have hnotCall : ∀ t₁, i.tokens[s.pos + 1]? = some t₁ → ¬ t₁.isOperator "(" = true := by
    intro t₁ ht₁ hcall
    rw [ht'] at ht₁
    cases ht₁
    rw [isOperator_iff, hop] at hcall
    exact absurd (Content.operator.inj hcall) (by decide)
  have hnotBinary : i.tokens[s.pos + 1]?.bind binaryOperator? = none := by
    rw [ht']
    show binaryOperator? t' = none
    unfold binaryOperator?
    rw [hop]
    decide
  obtain ⟨s₃, hoperand, hbeside⟩ := firstOf_operand (s := { s' with pos := s.pos }) expr
    (failExpecting "expression") ht hkind hnotCall hnotBinary hmiss
  have hstopped₃ : Stopped i s cause m s₃ := hstopped'.beside rfl hbeside hm
  rw [hkept] at hrest
  have hresult : firstOf (failExpecting "expression")
      [function expr, binaryOperation expr, term expr] i { s' with pos := s.pos } =
      .ok (.identifier (textOf t) t.span) { s₃ with pos := s.pos + 1 } := hrest.trans hoperand
  rw [hresult, hv]
  exact ⟨m, rfl, hstopped₃.quiet ⟨rfl, rfl⟩, hm, rfl, t', "=", ht', hop, by decide⟩

/-- A name that is no target is read as a term. -/
theorem layer_eq_of_name (i : Input) (read : Reader Node) {ts : List Token}
    (hkind : t.kind = .identifier)
    (hnot : ∀ t', ts.head? = some t' → ¬ t'.isOperator "=" = true) :
    (Forward.ofKind .identifier >>= Forward.afterFirstName read) (t :: ts) =
      (Forward.term i.finish read >>= Forward.afterOperand read) (t :: ts) := by
  have hterm : Forward.term i.finish read (t :: ts) = Forward.afterName read t ts := by
    rw [Forward.term_apply]
    have hopening : Opening.ofToken? (t :: ts).head? = .name :=
      (opening_of_kind (by rw [hkind]; decide)).trans (by rw [hkind]; rfl)
    rw [hopening]
    exact Forward.bind_of_ok (Forward.ofKind_of hkind)
  rw [Forward.bind_of_ok (Forward.ofKind_of hkind), Forward.afterFirstName,
    Forward.bind_of_ok (Forward.accept_of_not hnot)]
  show Reader.bind _ _ _ = Reader.bind _ _ _
  simp only [Reader.bind, hterm]

theorem meets_layer_name (hexpr : Follows i (NodeAt joints i) expr read)
    (hadvances : read.Advances) (hhalts : Halts read) (hfresh : Fresh i s 0)
    (hopen : Opening.ofToken? i.tokens[s.pos]? = .name) :
    Meets i s 0 (NodeAt joints i)
      ((Forward.ofKind .identifier >>= Forward.afterFirstName read) (i.left s.pos))
      (layer expr i s) := by
  obtain ⟨t, ht, hcontent⟩ := token_of_opening hopen (by decide)
  have hkind : t.content.kind = .identifier := by
    simpa only [hcontent] using Forward.content_of_opening t.content
  by_cases hequals : ∃ t', i.tokens[s.pos + 1]? = some t' ∧ t'.isOperator "=" = true
  · obtain ⟨t', ht', hop⟩ := hequals
    rw [left_of_some ht, Forward.bind_of_ok (Forward.ofKind_of hkind), Forward.afterFirstName,
      left_of_some ht', Forward.bind_of_ok (Forward.accept_of hop)]
    exact meets_layer_assignment hexpr hfresh ht hkind ht' (isOperator_iff.1 hop)
  · have hnot : ∀ t', i.tokens[s.pos + 1]? = some t' → ¬ t'.isOperator "=" = true :=
      fun t' ht' hop => hequals ⟨t', ht', hop⟩
    have hread := layer_eq_of_name i read hkind (by rw [head?_left]; exact hnot)
    rw [← left_of_some ht] at hread
    have hskip : ∀ p ∈ [comment, assignment expr, function expr], Skips (s.pos + 1) p i s.pos := by
      simp only [List.forall_mem_cons, List.not_mem_nil, false_implies, implies_true, and_true]
      exact ⟨(opens_comment i _ (by rw [hopen]; decide)).mono (Nat.le_succ _),
        skips_behind_name "=" _ ht hkind hnot,
        (opens_function i _ (by rw [hopen]; decide)).mono (Nat.le_succ _)⟩
    obtain ⟨furthest, hupto, heq⟩ := firstOf_skip (failExpecting "expression")
      [binaryOperation expr, term expr] hskip
    have hlayer : layer expr i s = _ := heq
    have hmeets := meets_operation hexpr hadvances hhalts (hfresh.recorded furthest)
      fun _ _ => Forward.length_lt_of_term_stop i.finish hadvances
        (by rw [head?_left, hopen]; decide)
    rw [hlayer]
    rw [show ({ s with furthest := furthest } : State).pos = s.pos from rfl, ← hread] at hmeets
    refine hmeets.recorded hupto (fun node rest hok => ?_) fun cause rest hstop => ?_
    · exact (Reader.Advances.bind (.take _ _) fun _ =>
        Forward.local_afterFirstName hadvances.toLocal _).length_lt hok
    · rw [left_of_some ht] at hstop ⊢
      exact Forward.length_lt_of_stop (Forward.ofKind_of hkind)
        (Forward.local_afterFirstName hadvances.toLocal t) hstop

/-- An expression that begins with a term other than a name. -/
theorem meets_layer_term (hexpr : Follows i (NodeAt joints i) expr read)
    (hadvances : read.Advances) (hhalts : Halts read) (hfresh : Fresh i s 0)
    (hopen : Opening.ofToken? i.tokens[s.pos]? ∈ [Opening.literal, .brace, .bracket]) :
    Meets i s 0 (NodeAt joints i)
      ((Forward.term i.finish read >>= Forward.afterOperand read) (i.left s.pos))
      (layer expr i s) := by
  have hno : ∀ o ∈ [Opening.literal, .brace, .bracket],
      o ∉ [Opening.comment, .name, .paren] ∧ o ∈ [Opening.name, .literal, .brace, .bracket] := by
    decide
  obtain ⟨furthest, hupto, heq⟩ := firstOf_skip (failExpecting "expression")
    [binaryOperation expr, term expr] (s := s)
    (skips_all (.cons opens_comment (.cons opens_assignment (.cons opens_function .nil)))
      (hno _ hopen).1)
  have hlayer : layer expr i s = _ := heq
  rw [hlayer]
  have hmeets := meets_operation hexpr hadvances hhalts (hfresh.recorded furthest)
    fun _ _ => Forward.length_lt_of_term_stop i.finish hadvances
      (by rw [head?_left]; exact (hno _ hopen).2)
  exact hmeets.moved (.recorded hupto)

/-- At most one kind of expression begins with the next token. -/
theorem follows_layer (hexpr : Follows i (NodeAt joints i) expr read)
    (hadvances : read.Advances) (hhalts : Halts read) :
    Follows i (NodeAt joints i) (layer expr) (Forward.layer i.finish read) := by
  intro s hfresh
  rw [Forward.layer_apply, head?_left]
  cases hopen : Opening.ofToken? i.tokens[s.pos]? with
  | comment =>
      obtain ⟨t, ht, hcontent⟩ := token_of_opening hopen (by decide)
      have hkind : t.content.kind = .comment := by
        simpa only [hcontent] using Forward.content_of_opening t.content
      have hcomment : Forward.comment (i.left s.pos) =
          .ok (.comment (textOf t) t.span) (i.left (s.pos + 1)) := by
        rw [left_of_some ht]
        exact Forward.bind_of_ok (Forward.ofKind_of hkind)
      refine ((follows_comment s hfresh).weaken fun _ _ => False.elim).orElse (.refl s) ?_
      intro cause m e s' hv
      rw [hcomment] at hv
      cases hv
  | name => exact meets_layer_name hexpr hadvances hhalts hfresh hopen
  | paren => exact meets_layer_paren hexpr hfresh hopen
  | literal => exact meets_layer_term hexpr hadvances hhalts hfresh (by rw [hopen]; decide)
  | brace => exact meets_layer_term hexpr hadvances hhalts hfresh (by rw [hopen]; decide)
  | bracket => exact meets_layer_term hexpr hadvances hhalts hfresh (by rw [hopen]; decide)
  | nothing => exact meets_layer_nothing hfresh hopen

theorem halts_exprUpTo (finish : Position) : ∀ depth, Halts (Forward.exprUpTo finish depth)
  | 0 => fun _ _ _ => .inr rfl
  | depth + 1 => by
      intro t ts hop
      have hopening : Opening.ofToken? (t :: ts).head? = .nothing := by
        show Opening.ofContent t.content = .nothing
        rw [isOperator_iff.1 hop]
        decide
      have hrefuse : Forward.exprUpTo finish (depth + 1) (t :: ts) =
          Forward.refuse "expression" (t :: ts) := by
        rw [Forward.exprUpTo, Forward.layer_apply, hopening]
      exact .inl ⟨_, hrefuse⟩

/-- An expression of any depth, read by alternatives and read forward. -/
theorem follows_expressionUpTo : ∀ depth,
    Follows i (NodeAt joints i) (expressionUpTo depth) (Forward.exprUpTo i.finish depth)
  | 0 => fun s _ => ⟨s, rfl, rfl⟩
  | depth + 1 => follows_layer (follows_expressionUpTo depth)
      (Forward.advances_exprUpTo i.finish depth) (halts_exprUpTo i.finish depth)

end Layers

/-! ## Whole inputs -/

/-- The place of the next token, or the end of the input. -/
def Input.placeOf (i : Input) (next : Option Token) : Span :=
  (next.map Token.span).getD (.point i.finish)

/-- The answer for a whole input, by how reading it forward ends. -/
def Input.answer (i : Input) : Verdict Node → Except Diagnostic Node
  | .ok node [] => .ok node
  | .ok _ (t :: _) => .error (i.refuse (.unexpectedToken t.lexeme) t.span)
  | .stop cause rest => .error (i.refuse cause (i.placeOf rest.head?))
  | .deep rest => .error (i.refuse .nestedTooDeeply (i.placeOf rest.head?))

section Whole

variable {i : Input} {s : State}

theorem cursorSpan_eq (i : Input) (pos : Nat) :
    i.cursorSpan pos = i.placeOf (i.left pos).head? := by
  rw [head?_left]
  unfold Input.cursorSpan Input.placeOf
  cases i.tokens[pos]? <;> rfl

theorem fresh_empty (i : Input) : Fresh i {} 0 :=
  ⟨Nat.zero_le _, fun _ _ _ => Std.HashMap.getElem?_empty⟩

theorem complete_of_moved {node : Node} (h : Moved {} s) :
    i.complete node s = i.answer (.ok node (i.left s.pos)) := by
  unfold Input.complete
  cases ht : i.tokens[s.pos]? with
  | none => rw [left_of_none ht]; rfl
  | some t =>
      have hrest : i.explainRest s t = i.refuse (.unexpectedToken t.lexeme) t.span := by
        unfold Input.explainRest
        rcases h.upto with hnone | ⟨f, hf, hle, -⟩
        · rw [show s.furthest = none from hnone]
        · simp only [hf, Nat.not_lt.2 hle, if_false]
      rw [left_of_some ht]
      simp only [hrest, Input.answer]

theorem furthest_of_stopped {cause : Cause} {m : Nat} (h : Stopped i {} cause m s) :
    s.furthest = some ⟨cause, i.placeOf (i.left m).head?, m⟩ := by
  rw [h.furthest, ← cursorSpan_eq]
  rfl

/-- Left over with a failure behind it, the failure is the explanation. -/
theorem complete_of_stopped {cause : Cause} {m : Nat} {node : Node} {t : Token}
    (h : Stopped i {} cause m s) (hlt : s.pos < m) (ht : i.tokens[s.pos]? = some t) :
    i.complete node s = i.answer (.stop cause (i.left m)) := by
  unfold Input.complete Input.explainRest
  simp only [ht, furthest_of_stopped h, hlt, if_true]
  rfl

theorem follows_expression : Follows i (NodeAt joints i) expression
    (Forward.exprUpTo i.finish i.nesting) :=
  fun s hfresh => follows_expressionUpTo i.nesting s hfresh

theorem meets_program (i : Input) :
    Meets i {} 1 (fun _ s' => NotClosing i s')
      (Forward.program i.finish (Forward.exprUpTo i.finish i.nesting) i.tokens.toList)
      (statementList expression i {}) :=
  (meets_statementItems follows_expression (Forward.advances_exprUpTo _ _)
    (halts_exprUpTo _ _) (fresh_empty i)).bind
    (fun _ _ _ hnot hlt _ => ⟨⟨hlt, hnot⟩, rfl, rfl⟩)
    (fun _ _ _ _ hfresh => meets_pure _ hfresh)

/-- A program is read by alternatives as it is read forward. -/
theorem wholeProgram_eq (i : Input) :
    (wholeProgram i {}).1 =
      i.answer
        (Forward.program i.finish (Forward.exprUpTo i.finish i.nesting) i.tokens.toList) := by
  have hmeets := meets_program i
  have hnever : (statementList expression i {}).Post (fun _ _ => True) (fun _ => False) True :=
    Post.bind (statementItems_reads (expression_reads i) {} (faithful_empty i)) nofun
      (fun _ => trivial) fun _ _ _ => trivial
  unfold wholeProgram
  cases hv : Forward.program i.finish (Forward.exprUpTo i.finish i.nesting) i.tokens.toList with
  | ok node rest =>
      rw [hv] at hmeets
      obtain ⟨s', hr, rfl, hmoved, -⟩ := hmeets
      rw [hr]
      exact complete_of_moved hmoved
  | deep rest =>
      rw [hv] at hmeets
      obtain ⟨s', hr, rfl⟩ := hmeets
      rw [hr]
      simp only [Input.explainDepth, cursorSpan_eq, Input.answer]
  | stop cause rest =>
      rw [hv] at hmeets
      obtain ⟨m, rfl, hstopped, hgiven⟩ := hmeets
      cases hr : statementList expression i {} with
      | ok node s' =>
          rw [hr] at hstopped hgiven
          obtain ⟨hlt, t, ht, -⟩ := hgiven
          exact complete_of_stopped hstopped hlt ht
      | fail e s' => rw [hr] at hnever; exact hnever.elim
      | tooDeep s' => rw [hr] at hgiven; exact hgiven.elim

/-- One expression is read by alternatives as it is read forward. -/
theorem wholeExpression_eq (i : Input) :
    (wholeExpression i {}).1 =
      i.answer (Forward.exprUpTo i.finish i.nesting i.tokens.toList) := by
  have hmeets := follows_expression {} (fresh_empty i)
  rw [show i.left ({} : State).pos = i.tokens.toList from rfl] at hmeets
  unfold wholeExpression
  cases hv : Forward.exprUpTo i.finish i.nesting i.tokens.toList with
  | ok node rest =>
      rw [hv] at hmeets
      obtain ⟨s', hr, rfl, hmoved, -⟩ := hmeets
      rw [hr]
      exact complete_of_moved hmoved
  | deep rest =>
      rw [hv] at hmeets
      obtain ⟨s', hr, rfl⟩ := hmeets
      rw [hr]
      simp only [Input.explainDepth, cursorSpan_eq, Input.answer]
  | stop cause rest =>
      rw [hv] at hmeets
      obtain ⟨m, rfl, hstopped, hgiven⟩ := hmeets
      cases hr : expression i {} with
      | ok node s' =>
          rw [hr] at hstopped hgiven
          obtain ⟨hlt, -, t, symbol, ht, -⟩ := hgiven
          exact complete_of_stopped hstopped hlt ht
      | fail e s' =>
          rw [hr] at hstopped
          have hfurthest : s'.furthest = _ := furthest_of_stopped hstopped
          simp only [hfurthest, Option.getD_some]
          rfl
      | tooDeep s' => rw [hr] at hgiven; exact hgiven.elim

end Whole

end Parser

open Scriptlet.Parser

/-- **Memory never shows in an answer.**  Whatever the tokens and the limit on
nesting, a parse that remembers terms gives the tree or the diagnostic, with its
cause and its place, that it would give if it read every term afresh. -/
theorem parse_ignores_memory (source : Source) (tokens : List Token) :
    parseProgram source tokens =
      (wholeProgram ((Input.ofTokens source tokens).mode false) {}).1 ∧
    parseExpression source tokens =
      (wholeExpression ((Input.ofTokens source tokens).mode false) {}).1 ∧
    ∀ nesting,
      programWithin nesting source tokens =
        (wholeProgram ({ Input.ofTokens source tokens with nesting := nesting }.mode false) {}).1 ∧
      expressionWithin nesting source tokens =
        (wholeExpression
          ({ Input.ofTokens source tokens with nesting := nesting }.mode false) {}).1 := by
  have hprogram : ∀ i : Input, (wholeProgram i {}).1 = (wholeProgram (i.mode false) {}).1 :=
    fun i => (wholeProgram_eq i).trans (wholeProgram_eq (i.mode false)).symm
  have hexpression : ∀ i : Input,
      (wholeExpression i {}).1 = (wholeExpression (i.mode false) {}).1 :=
    fun i => (wholeExpression_eq i).trans (wholeExpression_eq (i.mode false)).symm
  exact ⟨hprogram _, hexpression _, fun nesting => ⟨hprogram _, hexpression _⟩⟩

end Scriptlet
