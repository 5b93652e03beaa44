/-
# What is remembered does not show

A parser that remembers terms and one that reads every term afresh give the
same answers and leave the same cursor, whatever was done with them before
(`memory_never_shows`).

## Two parsers side by side

`Tied` says of two parsers that they end alike wherever they begin at the same cursor; the
lemmas take it through every rule, given that it holds of the inner expressions.  It is used
twice.

* Without memory, for two nesting limits: where the lower one suffices, the higher one
  changes nothing.
* For the parser with memory against the one without, with `Settled` as what is known of the
  memory: every entry is what reading the term afresh would give.

Entries are made at all depths of nesting, and a term may be asked for at another depth than
the one at which it was remembered.  That is what the first use is for: it lets the second
take an entry wherever it was made.

## Limits

The two parsers part where one of them is cut off for its nesting, since an entry may save
the other from reading so deep.  So the law is about actions that are not cut off; and where
the limit is above the number of tokens, none is (`not_runsOut`).  Driven by hand, tokens
count twice, since the cursor may be set before the first of them.

## What is not said

Nothing is said of the furthest failure, which memory does change.  That it does not change
what a whole parse reports is shown in `Diagnosis`.
-/
import Scriptlet.Syntax.Action
import Scriptlet.Proofs.Syntax.Rules

namespace Scriptlet

namespace Parser

/-! ## Parsers side by side -/

/-- The first result is like the second, with the same cursor and with a memory
that is `Good`.  Where the second was cut off nothing is said. -/
def Result.Like {α : Type} (Good : Memory → Prop) : Result α → Result α → Prop
  | r, .ok a t => ∃ s, r = .ok a s ∧ s.pos = t.pos ∧ Good s.memory
  | r, .fail e t => ∃ s, r = .fail e s ∧ s.pos = t.pos ∧ Good s.memory
  | _, .tooDeep _ => True

/-- The input read with or without memory. -/
def Input.mode (i : Input) (remember : Bool) : Input := { i with remember := remember }

/-- From the same cursor, and from a good memory, the first parser in mode `b`
ends like the second in mode `c`. -/
def Tied (Good : Memory → Prop) (i : Input) (b c : Bool) {α : Type} (p q : Parser α) : Prop :=
  ∀ s t : State, s.pos = t.pos → Good s.memory → (p (i.mode b) s).Like Good (q (i.mode c) t)

section Combinators

variable {α β : Type} {Good : Memory → Prop} {i : Input} {b c : Bool} {p : Parser α}
  {f : α → Parser β} {s s' : State}

theorem Tied.pure (a : α) : Tied Good i b c (Pure.pure a : Parser α) (Pure.pure a) :=
  fun s _ hpos hgood => ⟨s, rfl, hpos, hgood⟩

theorem parser_bind_ok {a : α} (h : p i s = .ok a s') : (p >>= f) i s = f a i s' := by
  show Parser.bind p f i s = _
  simp only [Parser.bind, h]

theorem parser_bind_fail {e : Failure} (h : p i s = .fail e s') :
    (p >>= f) i s = .fail e s' := by
  show Parser.bind p f i s = _
  simp only [Parser.bind, h]

theorem parser_bind_tooDeep (h : p i s = .tooDeep s') : (p >>= f) i s = .tooDeep s' := by
  show Parser.bind p f i s = _
  simp only [Parser.bind, h]

theorem Tied.bind {p q : Parser α} {f g : α → Parser β} (h : Tied Good i b c p q)
    (hnext : ∀ a, Tied Good i b c (f a) (g a)) : Tied Good i b c (p >>= f) (q >>= g) := by
  intro s t hpos hgood
  have hlike := h s t hpos hgood
  cases hq : q (i.mode c) t with
  | ok a t' =>
      rw [hq] at hlike
      obtain ⟨s', hp, hpos', hgood'⟩ := hlike
      rw [parser_bind_ok hp, parser_bind_ok hq]
      exact hnext a s' t' hpos' hgood'
  | fail e t' =>
      rw [hq] at hlike
      obtain ⟨s', hp, hpos', hgood'⟩ := hlike
      rw [parser_bind_fail hp, parser_bind_fail hq]
      exact ⟨s', rfl, hpos', hgood'⟩
  | tooDeep t' =>
      rw [parser_bind_tooDeep hq]
      exact trivial

theorem Tied.attempt {p q : Parser α} (h : Tied Good i b c p q) :
    Tied Good i b c (Parser.attempt p) (Parser.attempt q) := by
  intro s t hpos hgood
  have hlike := h s t hpos hgood
  unfold Parser.attempt
  cases hq : q (i.mode c) t with
  | ok a t' =>
      rw [hq] at hlike
      obtain ⟨s', hp, hrest⟩ := hlike
      rw [hp]
      exact ⟨s', rfl, hrest⟩
  | fail e t' =>
      rw [hq] at hlike
      obtain ⟨s', hp, -, hgood'⟩ := hlike
      rw [hp]
      exact ⟨_, rfl, hpos, hgood'⟩
  | tooDeep t' => exact trivial

theorem Tied.optional {p q : Parser α} (h : Tied Good i b c p q) :
    Tied Good i b c (Parser.optional p) (Parser.optional q) := by
  intro s t hpos hgood
  have hlike := h.attempt s t hpos hgood
  unfold Parser.optional
  cases hq : Parser.attempt q (i.mode c) t with
  | ok a t' =>
      rw [hq] at hlike
      obtain ⟨s', hp, hrest⟩ := hlike
      rw [hp]
      exact ⟨s', rfl, hrest⟩
  | fail e t' =>
      rw [hq] at hlike
      obtain ⟨s', hp, hrest⟩ := hlike
      rw [hp]
      exact ⟨s', rfl, hrest⟩
  | tooDeep t' => exact trivial

theorem Tied.orElse {p q otherwise : Parser α} {ps qs : List (Parser α)}
    (h : Tied Good i b c p q)
    (hrest : Tied Good i b c (firstOf otherwise ps) (firstOf otherwise qs)) :
    Tied Good i b c (firstOf otherwise (p :: ps)) (firstOf otherwise (q :: qs)) := by
  intro s t hpos hgood
  have hlike := h.attempt s t hpos hgood
  unfold firstOf
  cases hq : Parser.attempt q (i.mode c) t with
  | ok a t' =>
      rw [hq] at hlike
      obtain ⟨s', hp, hend⟩ := hlike
      rw [hp]
      exact ⟨s', rfl, hend⟩
  | fail e t' =>
      rw [hq] at hlike
      obtain ⟨s', hp, hpos', hgood'⟩ := hlike
      rw [hp]
      exact hrest s' t' hpos' hgood'
  | tooDeep t' => exact trivial

/-! ## Primitives -/

/-- What is only looked up at the cursor is the same in both modes. -/
theorem tied_look (f : Input → Nat → α) (h : f (i.mode b) = f (i.mode c)) :
    Tied Good i b c (fun i s => .ok (f i s.pos) s) (fun i s => .ok (f i s.pos) s) := by
  intro s t hpos hgood
  refine ⟨s, ?_, hpos, hgood⟩
  simp only [h, hpos]

theorem tied_peek : Tied Good i b c peek peek :=
  tied_look (fun i pos => i.tokens[pos]?) rfl

theorem tied_here : Tied Good i b c here here := tied_look Input.hereSpan rfl

theorem tied_cursorSpan : Tied Good i b c cursorSpan cursorSpan := tied_look Input.cursorSpan rfl

theorem tied_atEnd : Tied Good i b c atEnd atEnd :=
  tied_look (fun i pos => decide (i.tokens.size ≤ pos)) rfl

theorem tied_tokensLeft : Tied Good i b c tokensLeft tokensLeft :=
  tied_look (fun i pos => i.tokens.size - pos) rfl

theorem tied_atOperator (symbol : String) :
    Tied Good i b c (atOperator symbol) (atOperator symbol) :=
  tied_look (fun i pos => i.tokens[pos]?.any (·.isOperator symbol)) rfl

theorem tied_skip : Tied Good i b c skip skip :=
  fun _ _ hpos hgood => ⟨_, rfl, congrArg (· + 1) hpos, hgood⟩

theorem tied_failExpecting (what : String) :
    Tied Good i b c (failExpecting what : Parser α) (failExpecting what) := by
  rintro ⟨pos, _, _⟩ ⟨_, _, _⟩ rfl hgood
  exact ⟨_, rfl, rfl, hgood⟩

theorem tied_expect (kind : TokenKind) : Tied Good i b c (expect kind) (expect kind) := by
  intro s t hpos hgood
  have hfail : (failExpecting kind.label (i.mode b) s).Like Good
    (failExpecting kind.label (i.mode c) t : Result Token) := tied_failExpecting _ s t hpos hgood
  unfold expect
  rw [hpos, show (i.mode b).tokens = (i.mode c).tokens from rfl]
  split
  · split
    · exact ⟨_, rfl, rfl, hgood⟩
    · exact hfail
  · exact hfail

theorem tied_expectOperator (symbol : String) :
    Tied Good i b c (expectOperator symbol) (expectOperator symbol) := by
  intro s t hpos hgood
  have hfail : (failExpecting (Text.quoted symbol) (i.mode b) s).Like Good
      (failExpecting (Text.quoted symbol) (i.mode c) t : Result Token) :=
    tied_failExpecting _ s t hpos hgood
  unfold expectOperator
  rw [hpos, show (i.mode b).tokens = (i.mode c).tokens from rfl]
  split
  · split
    · exact ⟨_, rfl, rfl, hgood⟩
    · exact hfail
  · exact hfail

theorem tied_acceptOperator (symbol : String) :
    Tied Good i b c (acceptOperator symbol) (acceptOperator symbol) := by
  intro s t hpos hgood
  unfold acceptOperator
  rw [hpos, show (i.mode b).tokens = (i.mode c).tokens from rfl]
  split
  · split
    · exact ⟨_, rfl, rfl, hgood⟩
    · exact ⟨s, rfl, hpos, hgood⟩
  · exact ⟨s, rfl, hpos, hgood⟩

/-! ## Rules, given the inner expressions -/

theorem tied_separatedUpTo {p q : Parser α} (h : Tied Good i b c p q) (closer : String) :
    ∀ bound, Tied Good i b c (separatedUpTo p closer bound) (separatedUpTo q closer bound)
  | 0 => .pure []
  | bound + 1 => by
      refine .bind (tied_atOperator closer) fun closed => ?_
      cases closed with
      | true => exact .pure []
      | false =>
          refine .bind h.attempt fun first => .bind (tied_acceptOperator ",") fun found => ?_
          cases found with
          | none => exact .pure [first]
          | some _ => exact .bind (tied_separatedUpTo h closer bound) fun rest => .pure _

theorem tied_separated {p q : Parser α} (h : Tied Good i b c p q) (closer : String) :
    Tied Good i b c (separated p closer) (separated q closer) :=
  .bind tied_tokensLeft fun left => tied_separatedUpTo h closer (left + 1)

theorem tied_comment : Tied Good i b c comment comment :=
  .bind (tied_expect _) fun _ => .pure _

theorem tied_identifier : Tied Good i b c identifier identifier :=
  .bind (tied_expect _) fun _ => .pure _

theorem tied_literal : Tied Good i b c literal literal := by
  refine .bind (tied_expect _) fun token => ?_
  cases token.content with
  | literal value => exact .pure _
  | comment _ => exact tied_failExpecting _
  | identifier _ => exact tied_failExpecting _
  | operator _ => exact tied_failExpecting _

variable {p q : Parser Node}

theorem tied_assignment (h : Tied Good i b c p q) :
    Tied Good i b c (assignment p) (assignment q) :=
  .bind (tied_expect _) fun _ => .bind (tied_expectOperator _) fun _ => .bind h fun _ => .pure _

theorem tied_function (h : Tied Good i b c p q) : Tied Good i b c (function p) (function q) :=
  .bind (tied_expectOperator _) fun _ => .bind (tied_separated (tied_expect _) _) fun _ =>
    .bind (tied_expectOperator _) fun _ => .bind (tied_expectOperator _) fun _ =>
      .bind h fun _ => .pure _

theorem tied_call (h : Tied Good i b c p q) : Tied Good i b c (call p) (call q) :=
  .bind (tied_expect _) fun _ => .bind (tied_expectOperator _) fun _ =>
    .bind (tied_separated h _) fun _ => .bind (tied_expectOperator _) fun _ => .pure _

theorem tied_listLiteral (h : Tied Good i b c p q) :
    Tied Good i b c (listLiteral p) (listLiteral q) :=
  .bind (tied_expectOperator _) fun _ => .bind (tied_separated h _) fun _ =>
    .bind (tied_expectOperator _) fun _ => .pure _

theorem tied_statement (h : Tied Good i b c p q) :
    Tied Good i b c (statement p) (statement q) := by
  refine .bind h fun node => ?_
  cases node.isComment with
  | true => exact .bind (tied_acceptOperator _) fun _ => .pure _
  | false => exact .bind (tied_expectOperator _) fun _ => .pure _

theorem tied_statementsUpTo (h : Tied Good i b c p q) :
    ∀ bound, Tied Good i b c (statementsUpTo p bound) (statementsUpTo q bound)
  | 0 => .pure []
  | bound + 1 => by
      refine .bind tied_atEnd fun done => ?_
      cases done with
      | true => exact .pure []
      | false =>
          refine .bind (tied_statement h).optional fun found => ?_
          cases found with
          | none => exact .pure []
          | some _ => exact .bind (tied_statementsUpTo h bound) fun _ => .pure _

theorem tied_statementItems (h : Tied Good i b c p q) :
    Tied Good i b c (statementItems p) (statementItems q) :=
  .bind tied_here fun _ => .bind tied_tokensLeft fun _ =>
    .bind (tied_statementsUpTo h _) fun _ => .pure _

theorem tied_statementList (h : Tied Good i b c p q) :
    Tied Good i b c (statementList p) (statementList q) :=
  .bind (tied_statementItems h) fun _ => .pure _

theorem tied_block (h : Tied Good i b c p q) : Tied Good i b c (block p) (block q) :=
  .bind (tied_expectOperator _) fun _ => .bind (tied_statementItems h) fun _ =>
    .bind (tied_expectOperator _) fun _ => .pure _

theorem tied_freshTerm (h : Tied Good i b c p q) :
    Tied Good i b c (freshTerm p) (freshTerm q) :=
  .orElse (tied_call h) <| .orElse (tied_block h) <| .orElse (tied_listLiteral h) <|
    .orElse tied_literal <| .orElse tied_identifier <| tied_failExpecting _

theorem tied_binaryOperation (h : Tied Good i b c p q)
    (hterm : Tied Good i b c (term p) (term q)) :
    Tied Good i b c (binaryOperation p) (binaryOperation q) := by
  refine .bind hterm fun left => .bind tied_peek fun next => ?_
  cases next.bind binaryOperator? with
  | none => exact tied_failExpecting _
  | some symbol => exact .bind tied_skip fun _ => .bind h fun _ => .pure _

theorem tied_layer (h : Tied Good i b c p q) (hterm : Tied Good i b c (term p) (term q)) :
    Tied Good i b c (layer p) (layer q) :=
  .orElse tied_comment <| .orElse (tied_assignment h) <| .orElse (tied_function h) <|
    .orElse (tied_binaryOperation h hterm) <| .orElse hterm <| tied_failExpecting _

theorem tied_production (h : Tied Good i b c expression expression)
    (hterm : Tied Good i b c (term expression) (term expression)) (production : Production) :
    Tied Good i b c production.parser production.parser := by
  cases production with
  | comment => exact tied_comment
  | assignment => exact tied_assignment h
  | function => exact tied_function h
  | binaryOperation => exact tied_binaryOperation h hterm
  | term => exact hterm
  | call => exact tied_call h
  | block => exact tied_block h
  | listLiteral => exact tied_listLiteral h
  | literal => exact tied_literal
  | identifier => exact tied_identifier
  | expression => exact h
  | statementList => exact tied_statementList h

end Combinators

/-! ## A nesting limit that suffices

Without memory a term is always read afresh, so there is nothing to know of the
memory. -/

section Limits

variable (i : Input)

theorem tied_expressionUpTo_of_le :
    ∀ {d e : Nat}, d ≤ e →
      Tied (fun _ => True) i false false (expressionUpTo e) (expressionUpTo d)
  | 0, _, _ => fun _ _ _ _ => trivial
  | d + 1, e + 1, h => by
      have hinner := tied_expressionUpTo_of_le (Nat.le_of_succ_le_succ h)
      exact tied_layer hinner (tied_freshTerm hinner)

/-- What is read at any depth within the limit is what is read at the limit. -/
theorem tied_expression_of_le {d : Nat} (h : d ≤ i.nesting) :
    Tied (fun _ => True) i false false expression (expressionUpTo d) :=
  fun s t hpos hgood => tied_expressionUpTo_of_le i h s t hpos hgood

end Limits

/-! ## With and without memory -/

/-- What would be remembered of a result. -/
def Result.recorded? : Result Node → Option (Except Failure Node × Nat)
  | .ok node s => some (.ok node, s.pos)
  | .fail failure s => some (.error failure, s.pos)
  | .tooDeep _ => none

theorem Like.entry {Good : Memory → Prop} {r r' : Result Node} (h : r.Like Good r')
    {entry : Except Failure Node × Nat} (hentry : r'.recorded? = some entry) :
    r.recorded? = some entry := by
  cases r' with
  | ok node t =>
      obtain ⟨s, rfl, hpos, -⟩ := h
      rw [← hentry]
      simp only [Result.recorded?, hpos]
  | fail failure t =>
      obtain ⟨s, rfl, hpos, -⟩ := h
      rw [← hentry]
      simp only [Result.recorded?, hpos]
  | tooDeep t => cases hentry

/-- Every entry is what reading a term there afresh gives. -/
def Settled (i : Input) (memory : Memory) : Prop :=
  ∀ start entry, memory[start]? = some entry →
    (freshTerm expression (i.mode false) { pos := start }).recorded? = some entry

theorem settled_empty (i : Input) : Settled i {} := by
  intro start entry h
  simp at h

theorem Settled.insert {i : Input} {memory : Memory} {start : Nat}
    {entry : Except Failure Node × Nat} (h : Settled i memory)
    (hentry : (freshTerm expression (i.mode false) { pos := start }).recorded? = some entry) :
    Settled i (memory.insert start entry) := by
  intro start' entry' h'
  rw [Std.HashMap.getElem?_insert] at h'
  split at h'
  · next heq =>
      cases h'
      rw [← beq_iff_eq.1 heq]
      exact hentry
  · exact h start' entry' h'

section Modes

variable {i : Input} {p : Parser Node}

/-- A result read afresh within the limit is what would be remembered. -/
theorem entry_of_freshTerm (hlimit : Tied (fun _ => True) i false false expression p)
    {start : Nat} {t : State} (hpos : start = t.pos) {entry : Except Failure Node × Nat}
    (h : (freshTerm p (i.mode false) t).recorded? = some entry) :
    (freshTerm expression (i.mode false) { pos := start }).recorded? = some entry :=
  Like.entry (tied_freshTerm hlimit { pos := start } t hpos trivial) h

theorem like_fromMemory {s : State} {r : Result Node} {entry : Except Failure Node × Nat}
    (hgood : Settled i s.memory) (h : r.recorded? = some entry) :
    (fromMemory entry s).Like (Settled i) r := by
  cases r with
  | ok node t =>
      cases h
      exact ⟨_, rfl, rfl, hgood⟩
  | fail failure t =>
      cases h
      exact ⟨_, rfl, rfl, hgood⟩
  | tooDeep t => exact trivial

/-- A result that is what would be remembered may be remembered. -/
theorem like_toMemory {start : Nat} {r r' : Result Node} (h : r.Like (Settled i) r')
    (hentry : ∀ entry, r'.recorded? = some entry →
      (freshTerm expression (i.mode false) { pos := start }).recorded? = some entry) :
    (toMemory start r).Like (Settled i) r' := by
  cases r' with
  | ok node t =>
      obtain ⟨s, rfl, hpos, hgood⟩ := h
      exact ⟨_, rfl, hpos, hgood.insert (hpos ▸ hentry _ rfl)⟩
  | fail failure t =>
      obtain ⟨s, rfl, hpos, hgood⟩ := h
      exact ⟨_, rfl, hpos, hgood.insert (hpos ▸ hentry _ rfl)⟩
  | tooDeep t => exact trivial

theorem term_of_miss {s : State} (h : i.remember = true → s.memory[s.pos]? = none) :
    term p i s = if i.remember then toMemory s.pos (freshTerm p i s) else freshTerm p i s := by
  unfold term
  by_cases hremember : i.remember = true
  · simp only [hremember, if_true, h hremember]
  · simp only [hremember, if_false, Bool.false_eq_true]

theorem term_of_hit {s : State} {entry : Except Failure Node × Nat} (hremember : i.remember = true)
    (h : s.memory[s.pos]? = some entry) : term p i s = fromMemory entry s := by
  unfold term
  simp only [hremember, if_true, h]

/-- A term taken from memory is the term read afresh, and a term read afresh may
be remembered. -/
theorem tied_term_modes (hlimit : Tied (fun _ => True) i false false expression p)
    (h : Tied (Settled i) i true false p p) :
    Tied (Settled i) i true false (term p) (term p) := by
  intro s t hpos hgood
  have hentry : ∀ entry, (freshTerm p (i.mode false) t).recorded? = some entry →
      (freshTerm expression (i.mode false) { pos := s.pos }).recorded? = some entry :=
    fun _ => entry_of_freshTerm hlimit hpos
  have hafresh : term p (i.mode false) t = freshTerm p (i.mode false) t := term_of_miss nofun
  rw [hafresh]
  cases hmem : s.memory[s.pos]? with
  | none =>
      rw [term_of_miss fun _ => hmem]
      exact like_toMemory (tied_freshTerm h s t hpos hgood) hentry
  | some entry =>
      rw [term_of_hit rfl hmem]
      cases hr : (freshTerm p (i.mode false) t).recorded? with
      | some found =>
          have hsame := (hgood _ _ hmem).symm.trans (hentry _ hr)
          cases hsame
          exact like_fromMemory hgood hr
      | none =>
          cases hdeep : freshTerm p (i.mode false) t with
          | ok node t' => rw [hdeep] at hr; cases hr
          | fail failure t' => rw [hdeep] at hr; cases hr
          | tooDeep t' => exact trivial

theorem tied_expressionUpTo_modes :
    ∀ {d : Nat}, d ≤ i.nesting →
      Tied (Settled i) i true false (expressionUpTo d) (expressionUpTo d)
  | 0, _ => fun _ _ _ _ => trivial
  | d + 1, h => by
      have hle := Nat.le_of_succ_le h
      have hinner := tied_expressionUpTo_modes hle
      exact tied_layer hinner (tied_term_modes (tied_expression_of_le i hle) hinner)

theorem tied_expression_modes : Tied (Settled i) i true false expression expression :=
  fun s t hpos hgood => tied_expressionUpTo_modes (Nat.le_refl i.nesting) s t hpos hgood

theorem tied_term_expression_modes :
    Tied (Settled i) i true false (term expression) (term expression) :=
  tied_term_modes (tied_expression_of_le i (Nat.le_refl _)) tied_expression_modes

end Modes

/-! ## Limits that are never met -/

section Never

variable {α : Type} {i : Input}

/-- The result is not that the input is nested too deeply. -/
def Result.Ends (r : Result α) : Prop := r.Post (fun _ _ => True) (fun _ => True) False

theorem Post.ends {r : Result α} {ok : α → State → Prop} {fail : State → Prop} {deep : Prop}
    (h : r.Post ok fail deep) (hdeep : ¬ deep) : r.Ends :=
  Post.mono h (fun _ _ _ => trivial) (fun _ _ => trivial) hdeep

theorem Like.ends {Good : Memory → Prop} {r r' : Result α} (h : r.Like Good r')
    (hends : r'.Ends) : r.Ends := by
  cases r' with
  | ok a t =>
      obtain ⟨s, rfl, -⟩ := h
      exact trivial
  | fail e t =>
      obtain ⟨s, rfl, -⟩ := h
      exact trivial
  | tooDeep t => exact hends.elim

theorem production_ends (hlimit : i.tokens.size < i.nesting) (production : Production)
    {s : State} (hmem : Faithful i s.memory) : (production.parser i s).Ends := by
  have hinner := expression_reads i
  have hlt : ¬ i.nesting ≤ (i.rest s.pos).length := by
    rw [length_rest]
    omega
  have hlt' : ¬ i.nesting + 1 ≤ (i.rest s.pos).length := by omega
  cases production with
  | comment => exact Post.ends (comment_post hmem) hlt
  | assignment => exact Post.ends (assignment_post hinner hmem) hlt'
  | function => exact Post.ends (function_post hinner hmem) hlt'
  | binaryOperation => exact Post.ends (binaryOperation_post hinner hmem) hlt'
  | term => exact Post.ends (term_reads hinner s hmem) hlt'
  | call => exact Post.ends (call_post hinner hmem) hlt'
  | block => exact Post.ends (block_post hinner hmem) hlt'
  | listLiteral => exact Post.ends (listLiteral_post hinner hmem) hlt'
  | literal => exact Post.ends (literal_post hmem) hlt
  | identifier =>
      exact Post.bind (expect_post .identifier) (fun _ _ => trivial) id fun _ _ _ => trivial
  | expression => exact Post.ends (hinner s hmem) hlt
  | statementList =>
      exact Post.bind (statementItems_reads hinner s hmem) nofun hlt fun _ _ _ => trivial

/-- A parser without memory is never cut off, whatever memory it is given. -/
theorem production_ends_afresh (hlimit : i.tokens.size < i.nesting) (production : Production)
    (s : State) : (production.parser (i.mode false) s).Ends := by
  have hinner : Tied (fun _ => True) i false false expression expression :=
    tied_expression_of_le i (Nat.le_refl _)
  have hlike := tied_production hinner (tied_freshTerm hinner) production s { pos := s.pos } rfl
    trivial
  have hends := production_ends (i := i.mode false) hlimit production (s := { pos := s.pos })
    (faithful_empty _)
  exact Like.ends hlike hends

theorem attempt_ends {p : Parser α} {s : State} (h : (p i s).Ends) :
    (Parser.attempt p i s).Ends :=
  Post.attempt h fun _ _ => trivial

theorem separatedUpTo_ends {p : Parser α} (h : ∀ s, (p i s).Ends) (closer : String) :
    ∀ bound s, (separatedUpTo p closer bound i s).Ends
  | 0, _ => trivial
  | bound + 1, s => by
      refine Post.bind (atOperator_post closer) nofun id ?_
      intro closed s₁ _
      cases closed with
      | true => exact trivial
      | false =>
          refine Post.bind (attempt_ends (h s₁)) (fun _ _ => trivial) id ?_
          intro first s₂ _
          refine Post.bind (acceptOperator_post ",") nofun id ?_
          intro found s₃ _
          cases found with
          | none => exact trivial
          | some _ =>
              exact Post.bind (separatedUpTo_ends h closer bound s₃) (fun _ _ => trivial) id
                fun _ _ _ => trivial

end Never

/-! ## Driven by hand -/

/-- Whether the action reads by a rule or by a single token, or moves the cursor;
a whole parse also tells of the furthest failure. -/
def Action.isStep : Action → Bool
  | .wholeProgram | .wholeExpression => false
  | _ => true

section Actions

variable {i : Input}

theorem answer_like {α : Type} {r r' : Result α} (show? : α → Answer)
    (h : r.Like (Settled i) r') :
    (answer show? r').1 = .tooDeep ∨
      (answer show? r).1 = (answer show? r').1 ∧
        (answer show? r).2.pos = (answer show? r').2.pos ∧
        Settled i (answer show? r).2.memory := by
  cases r' with
  | ok a t =>
      obtain ⟨s, rfl, hpos, hgood⟩ := h
      exact .inr ⟨rfl, hpos, hgood⟩
  | fail e t =>
      obtain ⟨s, rfl, hpos, hgood⟩ := h
      exact .inr ⟨rfl, hpos, hgood⟩
  | tooDeep t => exact .inl rfl

theorem read_modes {action : Action} (hstep : action.isStep = true) {s t : State}
    (hpos : s.pos = t.pos) (hgood : Settled i s.memory) :
    (action.read (i.mode false) t).1 = .tooDeep ∨
      (action.read (i.mode true) s).1 = (action.read (i.mode false) t).1 ∧
        (action.read (i.mode true) s).2.pos = (action.read (i.mode false) t).2.pos ∧
        Settled i (action.read (i.mode true) s).2.memory := by
  have hrule := tied_production (tied_expression_modes (i := i)) tied_term_expression_modes
  cases action with
  | rule production => exact answer_like _ (hrule production s t hpos hgood)
  | attempt production => exact answer_like _ ((hrule production).attempt s t hpos hgood)
  | separated production closer =>
      exact answer_like _ (tied_separated (hrule production) closer s t hpos hgood)
  | seek pos => exact .inr ⟨rfl, hpos, hgood⟩
  | expect label =>
      simp only [Action.read]
      split
      · exact answer_like _ (tied_expect _ s t hpos hgood)
      · exact answer_like _ (tied_failExpecting _ s t hpos hgood)
  | expectOperator symbol => exact answer_like _ (tied_expectOperator _ s t hpos hgood)
  | acceptOperator symbol => exact answer_like _ (tied_acceptOperator _ s t hpos hgood)
  | atOperator symbol => exact answer_like _ (tied_atOperator _ s t hpos hgood)
  | peek => exact answer_like _ (tied_peek s t hpos hgood)
  | here => exact answer_like _ (tied_here s t hpos hgood)
  | cursorSpan => exact answer_like _ (tied_cursorSpan s t hpos hgood)
  | wholeProgram => cases hstep
  | wholeExpression => cases hstep

/-- A result that ends shows something else than that it was cut off. -/
theorem answer_ends {α : Type} {r : Result α} {show? : α → Answer}
    (hshow : ∀ a, show? a ≠ .tooDeep) (h : r.Ends) : (answer show? r).1 ≠ .tooDeep := by
  cases r with
  | ok a s => exact hshow a
  | fail e s => exact nofun
  | tooDeep s => exact h.elim

theorem ofToken_ne_tooDeep (token : Option Token) : Answer.ofToken? token ≠ .tooDeep := by
  cases token <;> exact nofun

theorem read_ends (hlimit : i.tokens.size < i.nesting) {action : Action}
    (hstep : action.isStep = true) (s : State) :
    (action.read (i.mode false) s).1 ≠ .tooDeep := by
  have hrule := production_ends_afresh hlimit
  cases action with
  | rule production => exact answer_ends nofun (hrule production s)
  | attempt production => exact answer_ends nofun (attempt_ends (hrule production s))
  | separated production closer =>
      exact answer_ends nofun (separatedUpTo_ends (hrule production) closer _ s)
  | seek pos => exact nofun
  | expect label =>
      simp only [Action.read]
      split
      · exact answer_ends nofun (Post.ends (expect_post _) id)
      · exact nofun
  | expectOperator symbol => exact answer_ends nofun (Post.ends (expectOperator_post symbol) id)
  | acceptOperator symbol =>
      exact answer_ends ofToken_ne_tooDeep (Post.ends (acceptOperator_post symbol) id)
  | atOperator symbol => exact nofun
  | peek => exact ofToken_ne_tooDeep _
  | here => exact nofun
  | cursorSpan => exact nofun
  | wholeProgram => cases hstep
  | wholeExpression => cases hstep

end Actions

namespace Drive

/-- Begins with the first token, with a nesting limit, and with or without memory. -/
def begin (source : Source) (tokens : List Token) (nesting : Nat) (remember : Bool) : Drive :=
  let d := start source tokens
  { d with input := { d.input with nesting := nesting, remember := remember } }

/-- Some action is cut off because the input is nested too deeply. -/
def RunsOut (d : Drive) : List Action → Prop
  | [] => False
  | action :: rest =>
    match d.act action with
    | none => False
    | some (answer, next) => answer = .tooDeep ∨ next.RunsOut rest

/-- What is seen of a run: every answer, and where it left the cursor. -/
def seen (run : Option (List (Answer × Drive))) : Option (List (Answer × Int)) :=
  run.map (List.map fun step => (step.1, step.2.pos))

/-- The first parser remembers, the second does not, and both stand at the same place. -/
structure Abreast (i : Input) (d e : Drive) : Prop where
  withMemory : d.input = i.mode true
  afresh : e.input = i.mode false
  origin : d.origin = e.origin
  lost : d.lost = e.lost
  pos : d.state.pos = e.state.pos
  settled : Settled i d.state.memory

section Runs

variable {i : Input} {d e : Drive}

theorem Abreast.cursor (h : Abreast i d e) : d.pos = e.pos := by
  simp only [Drive.pos, relative, h.origin, h.lost, h.pos]

theorem Abreast.seek (h : Abreast i d e) (pos : Int) : Abreast i (d.seek pos) (e.seek pos) := by
  simp only [Drive.seek, h.origin]
  split
  · exact ⟨h.withMemory, h.afresh, rfl, rfl, h.pos, h.settled⟩
  · exact ⟨h.withMemory, h.afresh, rfl, rfl, rfl, h.settled⟩

theorem act_of_not_seek {action : Action} (h : ∀ pos, action ≠ .seek pos) :
    d.act action =
      match d.lost with
      | some _ => none
      | none => some ((action.read d.input d.state).1,
          { d with state := (action.read d.input d.state).2 }) := by
  cases action <;> first | rfl | exact absurd rfl (h _)

theorem Abreast.act (h : Abreast i d e) {action : Action} (hstep : action.isStep = true) :
    (e.act action = none ∧ d.act action = none) ∨
      ∃ answer e', e.act action = some (answer, e') ∧
        (answer = .tooDeep ∨ ∃ d', d.act action = some (answer, d') ∧ Abreast i d' e') := by
  by_cases hseek : ∃ pos, action = .seek pos
  · obtain ⟨pos, rfl⟩ := hseek
    exact .inr ⟨_, _, rfl, .inr ⟨_, rfl, h.seek pos⟩⟩
  · have hne : ∀ pos, action ≠ .seek pos := fun pos heq => hseek ⟨pos, heq⟩
    rw [act_of_not_seek hne, act_of_not_seek hne, h.lost]
    cases e.lost with
    | some pos => exact .inl ⟨rfl, rfl⟩
    | none =>
        refine .inr ⟨_, _, rfl, ?_⟩
        rw [h.withMemory, h.afresh]
        rcases read_modes hstep h.pos h.settled with hdeep | ⟨hanswer, hpos, hsettled⟩
        · exact .inl hdeep
        · rw [hanswer]
          exact .inr ⟨_, rfl, rfl, rfl, h.origin, rfl, hpos, hsettled⟩

theorem actAll_cons (d : Drive) (action : Action) (rest : List Action) :
    d.actAll (action :: rest) =
      (d.act action).bind fun step => (step.2.actAll rest).map (step :: ·) := by
  simp only [Drive.actAll]
  cases d.act action with
  | none => rfl
  | some step => cases hmore : step.2.actAll rest <;> simp [hmore]

theorem seen_cons (step : Answer × Drive) (run : Option (List (Answer × Drive))) :
    seen (run.map (step :: ·)) = (seen run).map ((step.1, step.2.pos) :: ·) := by
  cases run <;> rfl

/-- As long as nothing is cut off, parsers that stand abreast stay so. -/
theorem Abreast.actAll :
    ∀ {actions : List Action} {d e : Drive}, Abreast i d e →
      (∀ action ∈ actions, action.isStep = true) → ¬ e.RunsOut actions →
      seen (d.actAll actions) = seen (e.actAll actions) ∧
        ∀ run, d.actAll actions = some run → ∀ step ∈ run,
          step.2.input = i.mode true ∧ Settled i step.2.state.memory
  | [], d, e, _, _, _ => by
      refine ⟨rfl, ?_⟩
      rintro run h step hstep
      cases h
      cases hstep
  | action :: rest, d, e, h, hsteps, hout => by
      obtain ⟨hfirst, hrest⟩ := List.forall_mem_cons.1 hsteps
      unfold RunsOut at hout
      rw [actAll_cons, actAll_cons]
      rcases h.act hfirst with ⟨he, hd⟩ | ⟨answer, e', he, hdeep | ⟨d', hd, hnext⟩⟩
      · rw [he, hd]
        exact ⟨rfl, nofun⟩
      · rw [he] at hout
        exact absurd (.inl hdeep) hout
      · rw [he] at hout ⊢
        rw [hd]
        obtain ⟨hseen, hsettled⟩ := Abreast.actAll hnext hrest fun hout' => hout (.inr hout')
        refine ⟨?_, ?_⟩
        · simp only [Option.bind_some, seen_cons, hseen, hnext.cursor]
        · intro run hrun step hstep
          obtain ⟨more, hmore, rfl⟩ := Option.map_eq_some_iff.1 hrun
          rcases List.mem_cons.1 hstep with rfl | hstep
          · exact ⟨hnext.withMemory, hnext.settled⟩
          · exact hsettled more hmore step hstep

theorem not_runsOut (hlimit : i.tokens.size < i.nesting) :
    ∀ {actions : List Action} {e : Drive}, e.input = i.mode false →
      (∀ action ∈ actions, action.isStep = true) → ¬ e.RunsOut actions
  | [], _, _, _ => id
  | action :: rest, e, h, hsteps => by
      obtain ⟨hfirst, hrest⟩ := List.forall_mem_cons.1 hsteps
      unfold RunsOut
      by_cases hseek : ∃ pos, action = .seek pos
      · obtain ⟨pos, rfl⟩ := hseek
        rintro (hdeep | hout)
        · cases hdeep
        · refine not_runsOut hlimit ?_ hrest hout
          simp only [Drive.seek]
          split <;> exact h
      · rw [act_of_not_seek fun pos heq => hseek ⟨pos, heq⟩]
        cases e.lost with
        | some pos => exact id
        | none =>
            rintro (hdeep | hout)
            · rw [h] at hdeep
              exact read_ends hlimit hfirst _ hdeep
            · refine not_runsOut hlimit ?_ hrest hout
              exact h

end Runs

/-- A parser driven by hand remembers terms, and nests as deeply as every parser. -/
example (source : Source) (tokens : List Token) :
    begin source tokens 500 true = start source tokens := rfl

end Drive

/-- An entry is what reading the term there gives, with memory and without. -/
theorem Settled.entry {i : Input} {memory : Memory} (h : Settled i memory) {start : Nat}
    {entry : Except Failure Node × Nat} (hentry : memory[start]? = some entry)
    (remember : Bool) :
    (freshTerm expression (i.mode remember) { pos := start }).recorded? = some entry := by
  have hafresh := h start entry hentry
  cases remember with
  | false => exact hafresh
  | true =>
      exact Like.entry (tied_freshTerm tied_expression_modes { pos := start } { pos := start } rfl
        (settled_empty i)) hafresh

/-- **What is remembered never changes a parse.**  Whatever is done with a parser
one action at a time, as long as nothing is cut off for its nesting, every answer
and every cursor is that of the parser that reads each term afresh; and every
term in memory, found or missed, is what a new parser makes of the term there.
Nothing is cut off where the limit is above the number of tokens, which stand
twice in a row. -/
theorem memory_never_shows (source : Source) (tokens : List Token) (nesting : Nat)
    (actions : List Action) (hsteps : ∀ action ∈ actions, action.isStep = true) :
    (¬ (Drive.begin source tokens nesting false).RunsOut actions →
      Drive.seen ((Drive.begin source tokens nesting true).actAll actions) =
        Drive.seen ((Drive.begin source tokens nesting false).actAll actions) ∧
      ∀ run, (Drive.begin source tokens nesting true).actAll actions = some run →
        ∀ step ∈ run, ∀ start entry, step.2.state.memory[start]? = some entry →
          ∀ remember, (freshTerm expression { step.2.input with remember := remember }
            { pos := start }).recorded? = some entry) ∧
    (2 * tokens.length < nesting →
      ¬ (Drive.begin source tokens nesting false).RunsOut actions) := by
  let i : Input := { Input.ofTokens source (tokens ++ tokens) with nesting := nesting }
  refine ⟨fun hout => ?_, fun hlimit => ?_⟩
  · have habreast : Drive.Abreast i (Drive.begin source tokens nesting true)
        (Drive.begin source tokens nesting false) :=
      ⟨rfl, rfl, rfl, rfl, rfl, settled_empty i⟩
    obtain ⟨hseen, hsettled⟩ := habreast.actAll hsteps hout
    refine ⟨hseen, ?_⟩
    intro run hrun step hstep start entry hentry remember
    obtain ⟨hinput, hmemory⟩ := hsettled run hrun step hstep
    rw [hinput]
    exact hmemory.entry hentry remember
  · have hsize : i.tokens.size < i.nesting := by
      simp only [i, Input.ofTokens, List.size_toArray, List.length_append]
      omega
    exact Drive.not_runsOut hsize rfl hsteps

/-- The tokens of `f(1` and then a name: the call does not close, and `f` is read as
a name by itself. -/
def openCallTokens : List Token :=
  [⟨.identifier "f", "f", default⟩, ⟨.operator "(", "(", default⟩,
   ⟨.literal (.integer 1), "1", default⟩, ⟨.identifier "g", "g", default⟩]

/-- Reads `f` twice, the second time from memory, goes back behind the opening
bracket and reads on, and ends with an item that is not there. -/
def openCallActions : List Action :=
  [.rule .term, .seek 0, .attempt .expression, .seek 2, .separated .expression ")",
   .expectOperator ")", .seek 4, .rule .term, .attempt .binaryOperation]

theorem openCall_seen :
    (∀ action ∈ openCallActions, action.isStep = true) ∧
      ¬ (Drive.begin { text := "f(1 g" } openCallTokens 500 false).RunsOut openCallActions ∧
      Drive.seen ((Drive.start { text := "f(1 g" } openCallTokens).actAll openCallActions) =
        Drive.seen ((Drive.begin { text := "f(1 g" } openCallTokens 500 false).actAll
          openCallActions) := by
  have hsteps : ∀ action ∈ openCallActions, action.isStep = true := by
    simp [openCallActions, Action.isStep]
  have hclaim := memory_never_shows { text := "f(1 g" } openCallTokens 500 openCallActions hsteps
  have hout := hclaim.2 (by decide)
  exact ⟨hsteps, hout, (hclaim.1 hout).1⟩

end Parser

end Scriptlet
