/-
# Every rule moves on

A rule that succeeds has taken a token, unless it reads a list of statements, and no
rule leaves the cursor before where it was or behind the last token.  What is remembered
keeps to this too (`Tidy`), so that a term from memory moves on like a fresh one.

A rule begins expressions, and where they begin matters as much as where the rule ends.
Both are said at once by comparing two runs of the rule (`Tracks`): a full one, and one
with a parser for the inner expressions that may leave some of them unanswered and stops
where such a one begins.  As far as the second run gets it is the first, and its stop
shows the place where the rule begins an expression.  `Regular` says this of a rule; it
is all that is known of the rules later on.

The two loops, over items with commas and over statements, go round by round (`rounds`),
and every round that goes on has taken a token.
-/
import Scriptlet.Proofs.Syntax.Memory

namespace Scriptlet

namespace Parser

/-! ## Cursors and memories -/

/-- A cursor at `a` may come to be at `b`: not before it, and not behind the last token
unless it was there already. -/
def Input.Between (i : Input) (a b : Nat) : Prop := a ≤ b ∧ b ≤ max a i.tokens.size

theorem Input.Between.refl (i : Input) (a : Nat) : i.Between a a :=
  ⟨Nat.le_refl a, Nat.le_max_left ..⟩

theorem Input.Between.trans {i : Input} {a b c : Nat} (hab : i.Between a b)
    (hbc : i.Between b c) : i.Between a c := by
  obtain ⟨hab, hb⟩ := hab
  obtain ⟨hbc, hc⟩ := hbc
  exact ⟨Nat.le_trans hab hbc, by omega⟩

theorem between_succ {i : Input} {a : Nat} {t : Token} (h : i.tokens[a]? = some t) :
    i.Between a (a + 1) := by
  obtain ⟨hlt, -⟩ := Array.getElem?_eq_some_iff.1 h
  exact ⟨Nat.le_succ a, by omega⟩

/-- Every term in memory left the cursor where a term may leave it, and behind a token if
it was read. -/
def Tidy (i : Input) (memory : Memory) : Prop :=
  ∀ start outcome stop, memory[start]? = some (outcome, stop) →
    i.Between start stop ∧ ∀ node, outcome = .ok node → start < stop

theorem tidy_empty (i : Input) : Tidy i {} := by
  intro start outcome stop h
  simp at h

theorem Tidy.insert {i : Input} {memory : Memory} {start stop : Nat}
    {outcome : Except Failure Node} (h : Tidy i memory) (hbetween : i.Between start stop)
    (hlt : ∀ node, outcome = .ok node → start < stop) :
    Tidy i (memory.insert start (outcome, stop)) := by
  intro start' outcome' stop' h'
  rw [Std.HashMap.getElem?_insert] at h'
  split at h'
  · next heq =>
      cases h'
      rw [← beq_iff_eq.1 heq]
      exact ⟨hbetween, hlt⟩
  · exact h start' outcome' stop' h'

/-- What is known of the result of a parser that began with the cursor at `a`: `P` of
cursor and value if there is a value. -/
def Result.Stays {α : Type} (i : Input) (a : Nat) (P : Nat → α → Prop) : Result α → Prop
  | .ok x s => i.Between a s.pos ∧ Tidy i s.memory ∧ P s.pos x
  | .fail _ s => i.Between a s.pos ∧ Tidy i s.memory
  | .tooDeep s => i.Between a s.pos ∧ Tidy i s.memory

/-- Wherever it begins, the parser takes a token if it succeeds. -/
def Advances (i : Input) (p : Parser Node) : Prop :=
  ∀ s : State, Tidy i s.memory → (p i s).Stays i s.pos fun b _ => s.pos < b

/-! ## Two runs of a rule -/

/-- What a run of a rule, begun with the cursor at `a`, is to the full run, which has
`inner` for the expressions in it.  Either the two end alike, or the first is stopped
where an expression begins, not before `low`, and if `inner` is cut off there, so is the
full run. -/
inductive Result.Tracks {α : Type} (i : Input) (part inner : Parser Node) (low a : Nat)
    (P : Nat → α → Prop) : Result α → Result α → Prop
  | ok {x : α} {s : State} : i.Between a s.pos → Tidy i s.memory → P s.pos x →
      Tracks i part inner low a P (.ok x s) (.ok x s)
  | fail {e : Failure} {s : State} : i.Between a s.pos → Tidy i s.memory →
      Tracks i part inner low a P (.fail e s) (.fail e s)
  | stopped {t : State} {full : Result α} : i.Between a t.pos → Tidy i t.memory → low ≤ t.pos →
      part i t = .tooDeep t → (∀ u, inner i t = .tooDeep u → full = .tooDeep u) →
      Tracks i part inner low a P (.tooDeep t) full

/-- Begun with the cursor at `a`, the parser `p` is `q` as far as it gets. -/
def Tracks {α : Type} (i : Input) (part inner : Parser Node) (low a : Nat) (P : Nat → α → Prop)
    (p q : Parser α) : Prop :=
  ∀ s : State, s.pos = a → Tidy i s.memory → (p i s).Tracks i part inner low a P (q i s)

/-- Whatever inner parser leaves expressions unanswered, the rule run with it is the rule
as far as it gets.  The expressions that it begins lie `k` tokens behind its own beginning,
or further, and `P` holds of where it begins, and of its cursor and value. -/
def Regular {α : Type} (i : Input) (k : Nat) (P : Nat → Nat → α → Prop)
    (rule : Parser Node → Parser α) : Prop :=
  ∀ part inner, (∀ b, Tracks i part inner b b (fun c _ => b < c) part inner) →
    ∀ a, Tracks i part inner (a + k) a (P a) (rule part) (rule inner)

section Results

variable {α : Type} {i : Input} {part inner : Parser Node} {low low' a b : Nat} {P Q : Nat → α → Prop}
  {r full : Result α}

theorem Result.Tracks.weaken (h : r.Tracks i part inner low a P full) (hlow : low' ≤ low)
    (hweak : ∀ b x, P b x → Q b x) : r.Tracks i part inner low' a Q full := by
  cases h with
  | ok hbetween htidy hP => exact .ok hbetween htidy (hweak _ _ hP)
  | fail hbetween htidy => exact .fail hbetween htidy
  | stopped hbetween htidy hle hpart hstop =>
      exact .stopped hbetween htidy (Nat.le_trans hlow hle) hpart hstop

/-- What was begun at `b` after something that moved the cursor there from `a`. -/
theorem Result.Tracks.earlier (h : r.Tracks i part inner low b P full) (hab : i.Between a b) :
    r.Tracks i part inner low a P full := by
  cases h with
  | ok hbetween htidy hP => exact .ok (hab.trans hbetween) htidy hP
  | fail hbetween htidy => exact .fail (hab.trans hbetween) htidy
  | stopped hbetween htidy hle hpart hstop => exact .stopped (hab.trans hbetween) htidy hle hpart hstop

end Results

section Combinators

variable {α β : Type} {i : Input} {part inner : Parser Node} {low a : Nat} {P Q : Nat → α → Prop}
  {R : Nat → β → Prop} {p q : Parser α} {f g : α → Parser β}

theorem Tracks.weaken {low' : Nat} (h : Tracks i part inner low a P p q) (hlow : low' ≤ low)
    (hweak : ∀ b x, P b x → Q b x) : Tracks i part inner low' a Q p q :=
  fun s hpos htidy => (h s hpos htidy).weaken hlow hweak

theorem Tracks.pure {x : α} (h : P a x) : Tracks i part inner low a P (Pure.pure x) (Pure.pure x) := by
  rintro s rfl htidy
  exact .ok (.refl i _) htidy h

theorem Tracks.bind (h : Tracks i part inner low a P p q)
    (hnext : ∀ b x, i.Between a b → P b x → Tracks i part inner low b R (f x) (g x)) :
    Tracks i part inner low a R (p >>= f) (q >>= g) := by
  intro s hpos htidy
  have htracks := h s hpos htidy
  show Result.Tracks i part inner low a R (Parser.bind p f i s) (Parser.bind q g i s)
  unfold Parser.bind
  generalize p i s = r, q i s = full at htracks
  cases htracks with
  | @ok x s' hbetween htidy' hP =>
      exact (hnext s'.pos x hbetween hP s' rfl htidy').earlier hbetween
  | fail hbetween htidy' => exact .fail hbetween htidy'
  | stopped hbetween htidy' hle hpart hstop =>
      refine .stopped hbetween htidy' hle hpart fun u hu => ?_
      rw [hstop u hu]

theorem Tracks.attempt (h : Tracks i part inner low a P p q) :
    Tracks i part inner low a P (Parser.attempt p) (Parser.attempt q) := by
  rintro s rfl htidy
  have htracks := h s rfl htidy
  unfold Parser.attempt
  generalize p i s = r, q i s = full at htracks
  cases htracks with
  | ok hbetween htidy' hP => exact .ok hbetween htidy' hP
  | fail hbetween htidy' => exact .fail (.refl i _) htidy'
  | stopped hbetween htidy' hle hpart hstop =>
      refine .stopped hbetween htidy' hle hpart fun u hu => ?_
      rw [hstop u hu]
      rfl

theorem Tracks.optional (h : Tracks i part inner low a P p q) :
    Tracks i part inner low a (fun b found => ∀ x, found = some x → P b x)
      (Parser.optional p) (Parser.optional q) := by
  rintro s rfl htidy
  have htracks := h.attempt s rfl htidy
  unfold Parser.optional
  generalize Parser.attempt p i s = r, Parser.attempt q i s = full at htracks
  cases htracks with
  | ok hbetween htidy' hP => exact .ok hbetween htidy' fun _ hx => Option.some.inj hx ▸ hP
  | fail hbetween htidy' => exact .ok hbetween htidy' nofun
  | stopped hbetween htidy' hle hpart hstop =>
      refine .stopped hbetween htidy' hle hpart fun u hu => ?_
      rw [hstop u hu]

theorem Tracks.orElse {otherwise otherwise' : Parser α} {ps qs : List (Parser α)}
    (h : Tracks i part inner low a P p q)
    (hrest : Tracks i part inner low a P (firstOf otherwise ps) (firstOf otherwise' qs)) :
    Tracks i part inner low a P (firstOf otherwise (p :: ps)) (firstOf otherwise' (q :: qs)) := by
  rintro s rfl htidy
  have htracks := h s rfl htidy
  unfold firstOf Parser.attempt
  generalize p i s = r, q i s = full at htracks
  cases htracks with
  | ok hbetween htidy' hP => exact .ok hbetween htidy' hP
  | fail hbetween htidy' => exact hrest _ rfl htidy'
  | stopped hbetween htidy' hle hpart hstop =>
      refine .stopped hbetween htidy' hle hpart fun u hu => ?_
      rw [hstop u hu]
      rfl

/-! ## Single tokens -/

/-- What is only looked up leaves the cursor where it is. -/
theorem Tracks.still (h : ∀ s, ∃ x, p i s = .ok x s) :
    Tracks i part inner low a (fun b _ => b = a) p p := by
  rintro s rfl htidy
  obtain ⟨x, hx⟩ := h s
  rw [hx]
  exact .ok (.refl i _) htidy rfl

theorem tracks_peek :
    Tracks i part inner low a (fun b next => b = a ∧ next = i.tokens[a]?) peek peek := by
  rintro s rfl htidy
  exact .ok (.refl i _) htidy ⟨rfl, rfl⟩

theorem tracks_failExpecting (what : String) :
    Tracks i part inner low a P (failExpecting what) (failExpecting what) := by
  rintro s rfl htidy
  exact .fail (.refl i _) htidy

theorem tracks_expect (kind : TokenKind) :
    Tracks i part inner low a (fun b _ => a < b) (expect kind) (expect kind) := by
  rintro s rfl htidy
  unfold expect
  split
  · next t ht =>
      split
      · exact .ok (between_succ ht) htidy (Nat.lt_succ_self _)
      · exact tracks_failExpecting _ s rfl htidy
  · exact tracks_failExpecting _ s rfl htidy

theorem tracks_expectOperator (symbol : String) :
    Tracks i part inner low a (fun b _ => a < b) (expectOperator symbol) (expectOperator symbol) := by
  rintro s rfl htidy
  unfold expectOperator
  split
  · next t ht =>
      split
      · exact .ok (between_succ ht) htidy (Nat.lt_succ_self _)
      · exact tracks_failExpecting _ s rfl htidy
  · exact tracks_failExpecting _ s rfl htidy

theorem tracks_acceptOperator (symbol : String) :
    Tracks i part inner low a (fun b found => found ≠ none → a < b)
      (acceptOperator symbol) (acceptOperator symbol) := by
  rintro s rfl htidy
  unfold acceptOperator
  split
  · next t ht =>
      split
      · exact .ok (between_succ ht) htidy fun _ => Nat.lt_succ_self _
      · exact .ok (.refl i _) htidy fun hnone => absurd rfl hnone
  · exact .ok (.refl i _) htidy fun hnone => absurd rfl hnone

theorem tracks_skip (h : a < i.tokens.size) :
    Tracks i part inner low a (fun b _ => a < b) skip skip := by
  rintro s rfl htidy
  exact .ok ⟨Nat.le_succ _, by show s.pos + 1 ≤ _; omega⟩ htidy (Nat.lt_succ_self _)

end Combinators

/-! ## Loops, round by round -/

/-- At most `bound` rounds, up to the first one that says it was the last. -/
def rounds {α : Type} (round : Parser (List α × Bool)) : Nat → Parser (List α)
  | 0 => Pure.pure []
  | bound + 1 => do
    let (found, more) ← round
    if more then
      let rest ← rounds round bound
      return found ++ rest
    else return found

/-- One round of a loop over items with commas between them: nothing in front of the
closing operator, or else an item, and more if there is a comma behind it. -/
def separatedRound {α : Type} (item : Parser α) (closer : String) : Parser (List α × Bool) := do
  if ← atOperator closer then return ([], false)
  let first ← attempt item
  let comma ← acceptOperator ","
  return ([first], comma.isSome)

/-- One round of a loop over statements: a statement, and more behind it, or nothing where
the tokens end or there is no statement that can be finished. -/
def statementRound (expression : Parser Node) : Parser (List (Node × Option Span) × Bool) := do
  if ← atEnd then return ([], false)
  let found ← optional (statement expression)
  return (found.toList, found.isSome)

instance : LawfulMonad Parser := .mk' _
  (by
    intro α p
    funext i s
    show Parser.bind p (fun a => Parser.pure a) i s = p i s
    unfold Parser.bind
    cases p i s <;> rfl)
  (fun _ _ => rfl)
  (by
    intro α β γ p f g
    funext i s
    show Parser.bind (Parser.bind p f) g i s = Parser.bind p (fun a => Parser.bind (f a) g) i s
    unfold Parser.bind
    cases p i s <;> rfl)

theorem separatedUpTo_eq {α : Type} (item : Parser α) (closer : String) :
    ∀ bound, separatedUpTo item closer bound = rounds (separatedRound item closer) bound
  | 0 => rfl
  | bound + 1 => by
      rw [rounds, separatedRound, bind_assoc, separatedUpTo]
      refine bind_congr fun closed => ?_
      cases closed with
      | true => rfl
      | false =>
          show (attempt item >>= _) = ((attempt item >>= _) >>= _)
          rw [bind_assoc]
          refine bind_congr fun first => ?_
          rw [bind_assoc]
          refine bind_congr fun comma => ?_
          rw [pure_bind, separatedUpTo_eq item closer bound]
          cases comma <;> rfl

theorem statementsUpTo_eq_rounds (expression : Parser Node) :
    ∀ bound, statementsUpTo expression bound = rounds (statementRound expression) bound
  | 0 => rfl
  | bound + 1 => by
      rw [rounds, statementRound, bind_assoc, statementsUpTo]
      refine bind_congr fun done => ?_
      cases done with
      | true => rfl
      | false =>
          show (optional (statement expression) >>= _) =
            ((optional (statement expression) >>= _) >>= _)
          rw [bind_assoc]
          refine bind_congr fun found => ?_
          rw [pure_bind, statementsUpTo_eq_rounds expression bound]
          cases found <;> rfl

section Loops

variable {α : Type} {i : Input} {part inner : Parser Node} {low a : Nat} {p q : Parser α}

/-- Rounds that take a token whenever there is more to come. -/
theorem tracks_rounds {round full : Parser (List α × Bool)}
    (h : ∀ a, Tracks i part inner a a (fun b found => found.2 = true → a < b) round full) :
    ∀ bound {low a : Nat}, low ≤ a →
      Tracks i part inner low a (fun _ _ => True) (rounds round bound) (rounds full bound)
  | 0, _, _, _ => .pure trivial
  | bound + 1, low, a, hle => by
      refine .bind ((h a).weaken hle fun _ _ => id) ?_
      rintro b ⟨found, more⟩ ⟨hab, -⟩ -
      cases more with
      | true =>
          exact .bind (tracks_rounds h bound (Nat.le_trans hle hab)) fun _ _ _ _ => .pure trivial
      | false => exact .pure trivial

theorem tracks_separatedRound (h : ∀ a, Tracks i part inner a a (fun _ _ => True) p q)
    (closer : String) (a : Nat) :
    Tracks i part inner a a (fun b found => found.2 = true → a < b)
      (separatedRound p closer) (separatedRound q closer) := by
  refine .bind (.still fun _ => ⟨_, rfl⟩) ?_
  rintro _ closed - rfl
  cases closed with
  | true => exact .pure nofun
  | false =>
      refine .bind (h _).attempt fun b first ⟨hab, _⟩ _ => ?_
      refine .bind (tracks_acceptOperator ",") fun c comma _ hcomma => .pure fun hmore => ?_
      have hbc : b < c := hcomma (Option.isSome_iff_ne_none.1 hmore)
      exact Nat.lt_of_le_of_lt hab hbc

theorem tracks_separated (h : ∀ a, Tracks i part inner a a (fun _ _ => True) p q) (closer : String)
    (hle : low ≤ a) :
    Tracks i part inner low a (fun _ _ => True) (separated p closer) (separated q closer) := by
  refine .bind (.still fun _ => ⟨_, rfl⟩) ?_
  rintro _ left - rfl
  rw [separatedUpTo_eq, separatedUpTo_eq]
  exact tracks_rounds (tracks_separatedRound h closer) (left + 1) hle

end Loops

/-! ## Rules, given the inner expressions -/

section Rules

variable {i : Input} {part inner : Parser Node} {low a : Nat}

theorem tracks_comment : Tracks i part inner low a (fun b _ => a < b) comment comment :=
  .bind (tracks_expect _) fun _ _ _ hb => .pure hb

theorem tracks_identifier : Tracks i part inner low a (fun b _ => a < b) identifier identifier :=
  .bind (tracks_expect _) fun _ _ _ hb => .pure hb

theorem tracks_literal : Tracks i part inner low a (fun b _ => a < b) literal literal := by
  refine .bind (tracks_expect _) fun b token _ hb => ?_
  cases token.content with
  | literal value => exact .pure hb
  | comment _ => exact tracks_failExpecting _
  | identifier _ => exact tracks_failExpecting _
  | operator _ => exact tracks_failExpecting _

variable (h : ∀ b, Tracks i part inner b b (fun c _ => b < c) part inner)

include h

/-- An inner expression, at or behind the place where expressions may begin. -/
theorem tracks_inner (hle : low ≤ a) : Tracks i part inner low a (fun b _ => a < b) part inner :=
  (h a).weaken hle fun _ _ => id

theorem tracks_items (closer : String) (hle : low ≤ a) :
    Tracks i part inner low a (fun _ _ => True) (separated part closer) (separated inner closer) :=
  tracks_separated (fun b => (h b).weaken (Nat.le_refl b) fun _ _ _ => trivial) closer hle

theorem tracks_statement : Tracks i part inner a a (fun b _ => a < b) (statement part)
    (statement inner) := by
  refine .bind (h a) fun b node _ hb => ?_
  cases node.isComment with
  | true => exact .bind (tracks_acceptOperator _) fun c _ ⟨hc, _⟩ _ => .pure (by omega)
  | false => exact .bind (tracks_expectOperator _) fun c _ ⟨hc, _⟩ _ => .pure (by omega)

theorem tracks_statementRound (a : Nat) :
    Tracks i part inner a a (fun b found => found.2 = true → a < b) (statementRound part)
      (statementRound inner) := by
  refine .bind (.still fun _ => ⟨_, rfl⟩) ?_
  rintro _ done - rfl
  cases done with
  | true => exact .pure nofun
  | false =>
      refine .bind (tracks_statement h).optional fun b found _ hfound => .pure fun hmore => ?_
      obtain ⟨first, rfl⟩ := Option.isSome_iff_exists.1 hmore
      exact hfound first rfl

theorem tracks_statementItems (hle : low ≤ a) :
    Tracks i part inner low a (fun _ _ => True) (statementItems part) (statementItems inner) := by
  refine .bind (.still fun _ => ⟨_, rfl⟩) ?_
  rintro _ start - rfl
  refine .bind (.still fun _ => ⟨_, rfl⟩) ?_
  rintro _ left - rfl
  rw [statementsUpTo_eq_rounds, statementsUpTo_eq_rounds]
  exact .bind (tracks_rounds (tracks_statementRound h) left hle) fun _ _ _ _ => .pure trivial

theorem tracks_statementList (hle : low ≤ a) :
    Tracks i part inner low a (fun _ _ => True) (statementList part) (statementList inner) :=
  .bind (tracks_statementItems h hle) fun _ _ _ _ => .pure trivial

theorem tracks_assignment :
    Tracks i part inner (a + 1) a (fun b _ => a < b) (assignment part) (assignment inner) :=
  .bind (tracks_expect _) fun _ _ _ hb => .bind (tracks_expectOperator _) fun _ _ _ hc =>
    .bind (tracks_inner h (by omega)) fun _ _ _ hd => .pure (by omega)

theorem tracks_function :
    Tracks i part inner (a + 1) a (fun b _ => a < b) (function part) (function inner) := by
  have hnames : ∀ b, Tracks i part inner b b (fun _ _ => True) (expect .identifier)
      (expect .identifier) := fun b =>
    (tracks_expect _).weaken (Nat.le_refl b) fun _ _ _ => trivial
  exact .bind (tracks_expectOperator _) fun _ _ _ hb =>
    .bind (tracks_separated hnames _ hb) fun _ _ ⟨hc, _⟩ _ =>
      .bind (tracks_expectOperator _) fun _ _ _ hd =>
        .bind (tracks_expectOperator _) fun _ _ _ he =>
          .bind (tracks_inner h (by omega)) fun _ _ _ hf => .pure (by omega)

theorem tracks_call :
    Tracks i part inner (a + 1) a (fun b _ => a < b) (call part) (call inner) :=
  .bind (tracks_expect _) fun _ _ _ hb => .bind (tracks_expectOperator _) fun _ _ _ hc =>
    .bind (tracks_items h _ (by omega)) fun _ _ ⟨hd, _⟩ _ =>
      .bind (tracks_expectOperator _) fun _ _ _ he => .pure (by omega)

theorem tracks_listLiteral :
    Tracks i part inner (a + 1) a (fun b _ => a < b) (listLiteral part) (listLiteral inner) :=
  .bind (tracks_expectOperator _) fun _ _ _ hb =>
    .bind (tracks_items h _ hb) fun _ _ ⟨hc, _⟩ _ =>
      .bind (tracks_expectOperator _) fun _ _ _ hd => .pure (by omega)

theorem tracks_block :
    Tracks i part inner (a + 1) a (fun b _ => a < b) (block part) (block inner) :=
  .bind (tracks_expectOperator _) fun _ _ _ hb =>
    .bind (tracks_statementItems h hb) fun _ _ ⟨hc, _⟩ _ =>
      .bind (tracks_expectOperator _) fun _ _ _ hd => .pure (by omega)

theorem tracks_freshTerm :
    Tracks i part inner (a + 1) a (fun b _ => a < b) (freshTerm part) (freshTerm inner) :=
  .orElse (tracks_call h) <| .orElse (tracks_block h) <| .orElse (tracks_listLiteral h) <|
    .orElse tracks_literal <| .orElse tracks_identifier <| tracks_failExpecting _

/-- A term from memory moves on as it did when it was read, and begins no expression. -/
theorem tracks_term :
    Tracks i part inner (a + 1) a (fun b _ => a < b) (term part) (term inner) := by
  rintro s rfl htidy
  have hfresh := tracks_freshTerm h s rfl htidy
  by_cases hmiss : i.remember = true → s.memory[s.pos]? = none
  · rw [term_of_miss hmiss, term_of_miss hmiss]
    split
    · generalize freshTerm part i s = r, freshTerm inner i s = full at hfresh
      cases hfresh with
      | ok hbetween htidy' hlt => exact .ok hbetween (htidy'.insert hbetween fun _ _ => hlt) hlt
      | fail hbetween htidy' => exact .fail hbetween (htidy'.insert hbetween nofun)
      | stopped hbetween htidy' hle hpart hstop =>
          refine .stopped hbetween htidy' hle hpart fun u hu => ?_
          rw [hstop u hu]
          rfl
    · exact hfresh
  · obtain ⟨hremember, hhit⟩ := Classical.not_imp.1 hmiss
    obtain ⟨⟨outcome, stop⟩, hentry⟩ := Option.ne_none_iff_exists'.1 hhit
    obtain ⟨hbetween, hlt⟩ := htidy _ _ _ hentry
    rw [term_of_hit hremember hentry, term_of_hit hremember hentry]
    cases outcome with
    | ok node => exact .ok hbetween htidy (hlt node rfl)
    | error failure => exact .fail hbetween htidy

theorem tracks_binaryOperation :
    Tracks i part inner (a + 1) a (fun b _ => a < b) (binaryOperation part)
      (binaryOperation inner) := by
  refine .bind (tracks_term h) fun b left _ hb => ?_
  refine .bind tracks_peek ?_
  rintro c next - ⟨rfl, rfl⟩
  cases hnext : i.tokens[c]?.bind binaryOperator? with
  | none => exact tracks_failExpecting _
  | some symbol =>
      obtain ⟨token, htoken, -⟩ := Option.bind_eq_some_iff.1 hnext
      have hlt : c < i.tokens.size := (Array.getElem?_eq_some_iff.1 htoken).1
      exact .bind (tracks_skip hlt) fun _ _ _ hc =>
        .bind (tracks_inner h (by omega)) fun _ _ _ hd => .pure (by omega)

theorem tracks_layer :
    Tracks i part inner (a + 1) a (fun b _ => a < b) (layer part) (layer inner) :=
  .orElse tracks_comment <| .orElse (tracks_assignment h) <| .orElse (tracks_function h) <|
    .orElse (tracks_binaryOperation h) <| .orElse (tracks_term h) <| tracks_failExpecting _

end Rules

/-! ## All rules -/

/-- The parser of a rule, with the given parser for the expressions in it. -/
def Production.around (production : Production) (inner : Parser Node) : Parser Node :=
  match production with
  | comment => Parser.comment
  | assignment => Parser.assignment inner
  | function => Parser.function inner
  | binaryOperation => Parser.binaryOperation inner
  | term => Parser.term inner
  | call => Parser.call inner
  | block => Parser.block inner
  | listLiteral => Parser.listLiteral inner
  | literal => Parser.literal
  | identifier => Parser.identifier
  | expression => inner
  | statementList => Parser.statementList inner

theorem Production.around_expression (production : Production) :
    production.around Parser.expression = production.parser := by
  cases production <;> rfl

theorem regular_layer (i : Input) : Regular i 1 (fun a b _ => a < b) layer :=
  fun _ _ h _ => tracks_layer h

/-- Only a list of statements may be read without taking a token. -/
theorem regular_production (i : Input) (production : Production) :
    Regular i 0 (fun a b _ => production ≠ .statementList → a < b) production.around := by
  intro part inner h a
  have hrule : ∀ {low : Nat} {p q : Parser Node}, Tracks i part inner low a (fun b _ => a < b) p q →
      a ≤ low →
      Tracks i part inner a a (fun b _ => production ≠ .statementList → a < b) p q :=
    fun htracks hle => htracks.weaken hle fun _ _ hlt _ => hlt
  cases production with
  | comment => exact hrule tracks_comment (Nat.le_refl a)
  | assignment => exact hrule (tracks_assignment h) (Nat.le_succ a)
  | function => exact hrule (tracks_function h) (Nat.le_succ a)
  | binaryOperation => exact hrule (tracks_binaryOperation h) (Nat.le_succ a)
  | term => exact hrule (tracks_term h) (Nat.le_succ a)
  | call => exact hrule (tracks_call h) (Nat.le_succ a)
  | block => exact hrule (tracks_block h) (Nat.le_succ a)
  | listLiteral => exact hrule (tracks_listLiteral h) (Nat.le_succ a)
  | literal => exact hrule tracks_literal (Nat.le_refl a)
  | identifier => exact hrule tracks_identifier (Nat.le_refl a)
  | expression => exact hrule (h a) (Nat.le_refl a)
  | statementList =>
      refine (tracks_statementList h (Nat.le_refl a)).weaken (Nat.le_refl a) ?_
      exact fun _ _ _ hne => absurd rfl hne

section Loops

variable {α : Type} {i : Input} {P : Nat → Nat → α → Prop} {item : Parser Node → Parser α}

theorem regular_expect (i : Input) (kind : TokenKind) :
    Regular i 0 (fun a b _ => a < b) fun _ => expect kind :=
  fun _ _ _ _ => tracks_expect kind

/-- A round over items that goes on has taken a comma, whatever the items are. -/
theorem regular_separatedRound (h : Regular i 0 P item) (closer : String) :
    Regular i 0 (fun a b found => found.2 = true → a < b)
      fun inner => separatedRound (item inner) closer :=
  fun _ _ hinner a => tracks_separatedRound
    (fun b => (h _ _ hinner b).weaken (Nat.le_refl b) fun _ _ _ => trivial) closer a

theorem regular_separated (h : Regular i 0 P item) (closer : String) :
    Regular i 0 (fun _ _ _ => True) fun inner => separated (item inner) closer :=
  fun _ _ hinner a => tracks_separated
    (fun b => (h _ _ hinner b).weaken (Nat.le_refl b) fun _ _ _ => trivial) closer (Nat.le_refl a)

theorem regular_statementRound (i : Input) :
    Regular i 0 (fun a b found => found.2 = true → a < b) statementRound :=
  fun _ _ h a => tracks_statementRound h a

theorem regular_statementsUpTo (i : Input) (bound : Nat) :
    Regular i 0 (fun _ _ _ => True) fun inner => statementsUpTo inner bound := by
  intro part inner h a
  simp only [statementsUpTo_eq_rounds]
  exact tracks_rounds (tracks_statementRound h) bound (Nat.le_refl a)

end Loops

end Parser

end Scriptlet
