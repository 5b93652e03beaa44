/-
# Nodes stand on the tokens they were read from

Wherever a rule of the grammar succeeds, its node is placed on the tokens between the
cursor before and the cursor behind it (`Places`).  So a parsed program is nested: the span
of a node contains those of the nodes below it, neighbours are apart and in the order of the
text, and the merges by which the rules make spans are all defined
(`nodes_nested_on_tokens`).

## How spans are made

Each rule makes its span in a way of its own.

    names, literals, comments    the span of the token
    lists, blocks, calls         from the first token to the last
    assignments, functions       from the first token to the end of the inner node
    operations                   from the left node to the right one
    lists of statements          from what stands first to what stands last, where a statement
                                 ends with its separator if it has one

What they all come to is said once per rule, in a small logic for cursors (`Reaches`): the
span is around the tokens between the two cursors (`Around`), and the nodes below stand on
some of them in a row.  That spans around neighbours merge to the span around both needs no
more of the tokens than their order.

## Whatever was done before

Terms from memory are placed as well, since a memory holds only terms that were placed when
they were read (`Sound`).  So nothing depends on what was done with the parser before
(`Reached`), on the limit on nesting, or on whether terms are remembered at all.
-/
import Scriptlet.Syntax.Action
import Scriptlet.Proofs.Syntax.Nesting
import Scriptlet.Proofs.Syntax.Acceptance
import Scriptlet.Proofs.Token.Recut

namespace Scriptlet

namespace Parser

/-! ## A logic of cursors -/

/-- Every term in memory stands on the tokens from where it was read up to where it left
the cursor. -/
def Sound (i : Input) (memory : Memory) : Prop :=
  ∀ start node stop, memory[start]? = some (.ok node, stop) →
    start < stop ∧ Placed i start stop node

/-- What is known of a result: of cursor and value if there is a value, and of the memory
in any case. -/
def Result.Leaves {α : Type} (P : Nat → α → Prop) (Good : Memory → Prop) : Result α → Prop
  | .ok x s => P s.pos x ∧ Good s.memory
  | .fail _ s => Good s.memory
  | .tooDeep s => Good s.memory

/-- From the cursor at `a` the parser reaches a cursor and a value of which `P` holds, if it
succeeds, and keeps its memory sound. -/
def Reaches {α : Type} (i : Input) (a : Nat) (P : Nat → α → Prop) (p : Parser α) : Prop :=
  ∀ s : State, s.pos = a → Sound i s.memory → (p i s).Leaves P (Sound i)

/-- The nodes that the parser reads stand on the tokens that it reads, of which there is at
least one. -/
def Places (i : Input) (p : Parser Node) : Prop :=
  ∀ a, Reaches i a (fun b node => a < b ∧ Placed i a b node) p

section Logic

variable {α β : Type} {i : Input} {a b : Nat} {P Q : Nat → α → Prop} {R : Nat → β → Prop}
  {p : Parser α} {f : α → Parser β}

theorem Reaches.mono (h : Reaches i a P p) (hweak : ∀ b x, P b x → Q b x) : Reaches i a Q p := by
  intro s hpos hsound
  have hleaves := h s hpos hsound
  cases hp : p i s with
  | ok x s' => rw [hp] at hleaves; exact ⟨hweak _ _ hleaves.1, hleaves.2⟩
  | fail e s' => rw [hp] at hleaves; exact hleaves
  | tooDeep s' => rw [hp] at hleaves; exact hleaves

theorem Reaches.pure {x : α} (h : P a x) : Reaches i a P (Pure.pure x) := by
  rintro s rfl hsound
  exact ⟨h, hsound⟩

theorem Reaches.bind (h : Reaches i a P p) (hf : ∀ b x, P b x → Reaches i b R (f x)) :
    Reaches i a R (p >>= f) := by
  intro s hpos hsound
  have hleaves := h s hpos hsound
  show Result.Leaves _ _ (Parser.bind p f i s)
  unfold Parser.bind
  cases hp : p i s with
  | ok x s' => rw [hp] at hleaves; exact hf s'.pos x hleaves.1 s' rfl hleaves.2
  | fail e s' => rw [hp] at hleaves; exact hleaves
  | tooDeep s' => rw [hp] at hleaves; exact hleaves

/-- What is only looked up leaves the cursor where it is. -/
theorem Reaches.still (h : ∀ s, ∃ x, p i s = .ok x s) : Reaches i a (fun b _ => b = a) p := by
  intro s hpos hsound
  obtain ⟨x, hx⟩ := h s
  rw [hx]
  exact ⟨hpos, hsound⟩

theorem Reaches.failExpecting (what : String) : Reaches i a P (Parser.failExpecting what) :=
  fun _ _ hsound => hsound

theorem Reaches.attempt (h : Reaches i a P p) : Reaches i a P (Parser.attempt p) := by
  intro s hpos hsound
  have hleaves := h s hpos hsound
  unfold Parser.attempt
  cases hp : p i s with
  | ok x s' => rw [hp] at hleaves; exact hleaves
  | fail e s' => rw [hp] at hleaves; exact hleaves
  | tooDeep s' => rw [hp] at hleaves; exact hleaves

theorem Reaches.optional (h : Reaches i a P p) :
    Reaches i a (fun b found => (∃ x, found = some x ∧ P b x) ∨ found = none ∧ b = a)
      (Parser.optional p) := by
  intro s hpos hsound
  have hleaves := h s hpos hsound
  unfold Parser.optional Parser.attempt
  cases hp : p i s with
  | ok x s' => rw [hp] at hleaves; exact ⟨.inl ⟨x, rfl, hleaves.1⟩, hleaves.2⟩
  | fail e s' => rw [hp] at hleaves; exact ⟨.inr ⟨rfl, hpos⟩, hleaves⟩
  | tooDeep s' => rw [hp] at hleaves; exact hleaves

theorem Reaches.firstOf {otherwise : Parser α} (hotherwise : Reaches i a P otherwise) :
    ∀ {ps : List (Parser α)}, (∀ p ∈ ps, Reaches i a P p) →
      Reaches i a P (Parser.firstOf otherwise ps)
  | [], _ => hotherwise
  | p :: ps, h => by
      obtain ⟨hp, hps⟩ := List.forall_mem_cons.1 h
      intro s hpos hsound
      have hleaves := hp s hpos hsound
      unfold Parser.firstOf Parser.attempt
      cases hresult : p i s with
      | ok x s' => rw [hresult] at hleaves; exact hleaves
      | fail e s' =>
          rw [hresult] at hleaves
          exact Reaches.firstOf hotherwise hps { s' with pos := s.pos } hpos hleaves
      | tooDeep s' => rw [hresult] at hleaves; exact hleaves

/-! ## Single tokens -/

theorem reaches_expect (kind : TokenKind) :
    Reaches i a (fun b t => b = a + 1 ∧ i.tokens[a]? = some t) (expect kind) := by
  rintro s rfl hsound
  unfold expect
  split
  · next t ht =>
      split
      · exact ⟨⟨rfl, ht⟩, hsound⟩
      · exact hsound
  · exact hsound

theorem reaches_expectOperator (symbol : String) :
    Reaches i a (fun b t => b = a + 1 ∧ i.tokens[a]? = some t) (expectOperator symbol) := by
  rintro s rfl hsound
  unfold expectOperator
  split
  · next t ht =>
      split
      · exact ⟨⟨rfl, ht⟩, hsound⟩
      · exact hsound
  · exact hsound

theorem reaches_acceptOperator (symbol : String) :
    Reaches i a (fun b found => (∃ t, found = some t ∧ b = a + 1 ∧ i.tokens[a]? = some t) ∨
      found = none ∧ b = a) (acceptOperator symbol) := by
  rintro s rfl hsound
  unfold acceptOperator
  split
  · next t ht =>
      split
      · exact ⟨.inl ⟨t, rfl, rfl, ht⟩, hsound⟩
      · exact ⟨.inr ⟨rfl, rfl⟩, hsound⟩
  · exact ⟨.inr ⟨rfl, rfl⟩, hsound⟩

/-! ## Items in a row -/

/-- Items with commas between them, for what is said of a row of items: that it holds of no
items, and of an item and a row somewhere behind it. -/
theorem reaches_separatedUpTo {item : Parser α} {P : Nat → Nat → α → Prop}
    {Q : Nat → Nat → List α → Prop} (hitem : ∀ a, Reaches i a (P a) item) (hnil : ∀ a, Q a a [])
    (hcons : ∀ a b c d x xs, P a b x → b ≤ c → Q c d xs → Q a d (x :: xs)) (closer : String) :
    ∀ bound a, Reaches i a (Q a) (separatedUpTo item closer bound)
  | 0, a => .pure (hnil a)
  | bound + 1, a => by
      refine .bind (.still fun _ => ⟨_, rfl⟩) ?_
      rintro _ closed rfl
      cases closed with
      | true => exact .pure (hnil _)
      | false =>
          refine .bind (hitem _).attempt ?_
          intro b first hfirst
          refine .bind (reaches_acceptOperator ",") ?_
          rintro c found (⟨t, rfl, rfl, -⟩ | ⟨rfl, rfl⟩)
          · refine .bind (reaches_separatedUpTo hitem hnil hcons closer bound (b + 1)) ?_
            intro d rest hrest
            exact .pure (hcons _ _ _ _ _ _ hfirst (Nat.le_succ b) hrest)
          · exact .pure (hcons _ _ _ _ _ _ hfirst (Nat.le_refl c) (hnil c))

theorem reaches_separated {item : Parser α} {P : Nat → Nat → α → Prop}
    {Q : Nat → Nat → List α → Prop} (hitem : ∀ a, Reaches i a (P a) item) (hnil : ∀ a, Q a a [])
    (hcons : ∀ a b c d x xs, P a b x → b ≤ c → Q c d xs → Q a d (x :: xs)) (closer : String)
    (a : Nat) : Reaches i a (Q a) (separated item closer) := by
  refine .bind (.still fun _ => ⟨_, rfl⟩) ?_
  rintro _ left rfl
  exact reaches_separatedUpTo hitem hnil hcons closer (left + 1) _

end Logic

/-! ## Spans of the rules -/

section Spans

variable {i : Input} {a b c d : Nat} {node body : Node} {first last : Token} {x y : Span}

theorem lt_size_of_some {t : Token} (h : i.tokens[a]? = some t) : a < i.tokens.size :=
  (Array.getElem?_eq_some_iff.1 h).1

theorem around_token (h : i.tokens[a]? = some first) : Around (i.part a (a + 1)) first.span := by
  rw [part_single h]
  exact around_single first

theorem around_merge (hordered : Ordered i.tokens.toList) (hx : Around (i.part a b) x)
    (hy : Around (i.part c d) y) (hab : a ≤ b) (hbc : b ≤ c) (hcd : c ≤ d) :
    Around (i.part a d) (x.merge y) := by
  have hparts : i.part a b ++ (i.part b c ++ i.part c d) = i.part a d := by
    rw [part_append hbc hcd, part_append hab (Nat.le_trans hbc hcd)]
  have hpart : Ordered (i.part a d) := hordered.sublist (part_sublist i a d)
  rw [← hparts] at hpart ⊢
  exact hx.merge _ hy hpart

theorem Placed.filled_of_lt (h : Placed i a b node) (hab : a < b) :
    b ≤ i.tokens.size ∧ Around (i.part a b) node.span := by
  cases h with
  | filled _ hb haround => exact ⟨hb, haround⟩
  | empty => exact absurd hab (Nat.lt_irrefl a)

theorem placed_token (hfirst : i.tokens[a]? = some first) (hspan : node.span = first.span)
    (hchildren : node.children = []) : a < a + 1 ∧ Placed i a (a + 1) node := by
  refine ⟨Nat.lt_succ_self a, .filled (Nat.lt_succ_self a) (lt_size_of_some hfirst) ?_ ?_⟩
  · rw [hspan]
    exact around_token hfirst
  · rw [hchildren]
    exact .nil (Nat.le_succ a)

theorem placed_between (hordered : Ordered i.tokens.toList) (hfirst : i.tokens[a]? = some first)
    (hlast : i.tokens[b]? = some last) (hab : a < b)
    (hspan : node.span = first.span.merge last.span) (hrow : InRow i a (b + 1) node.children) :
    a < b + 1 ∧ Placed i a (b + 1) node := by
  refine ⟨by omega, .filled (by omega) (lt_size_of_some hlast) ?_ hrow⟩
  rw [hspan]
  exact around_merge hordered (around_token hfirst) (around_token hlast) (Nat.le_succ a) hab
    (Nat.le_succ b)

/-- A node from a first token to the end of a node behind it. -/
theorem placed_before (hordered : Ordered i.tokens.toList) (hfirst : i.tokens[a]? = some first)
    (hac : a < c) (hcb : c < b) (hbody : Placed i c b body)
    (hspan : node.span = first.span.merge body.span) (hchildren : node.children = [body]) :
    a < b ∧ Placed i a b node := by
  obtain ⟨hb, haround⟩ := hbody.filled_of_lt hcb
  refine ⟨by omega, .filled (by omega) hb ?_ ?_⟩
  · rw [hspan]
    exact around_merge hordered (around_token hfirst) haround (Nat.le_succ a) hac
      (Nat.le_of_lt hcb)
  · rw [hchildren]
    exact .cons (Nat.le_of_lt hac) hcb hbody (.nil (Nat.le_refl b))

end Spans

/-! ## Spans of statements -/

/-- The tokens from `a` up to `b` are those of a statement with the separator behind it. -/
structure Ended (i : Input) (a b : Nat) (found : Node × Option Span) : Prop where
  placed : ∃ c, a < c ∧ c ≤ b ∧ Placed i a c found.1
  within : b ≤ i.tokens.size
  tiles : Tiles (i.part a b) (statementSpans found)

/-- The tokens from `a` up to `b` are those of statements one behind the other. -/
inductive Listed (i : Input) : Nat → Nat → List (Node × Option Span) → Prop
  | nil (a : Nat) : Listed i a a []
  | cons {a b c : Nat} {found : Node × Option Span} {rest : List (Node × Option Span)} :
      Ended i a b found → Listed i b c rest → Listed i a c (found :: rest)

section Statements

variable {i : Input} {a b : Nat} {found : List (Node × Option Span)}

theorem Ended.lt {one : Node × Option Span} (h : Ended i a b one) : a < b := by
  obtain ⟨c, hac, hcb, -⟩ := h.placed
  exact Nat.lt_of_lt_of_le hac hcb

theorem Listed.inRow (h : Listed i a b found) : InRow i a b (found.map Prod.fst) := by
  induction h with
  | nil a => exact .nil (Nat.le_refl a)
  | cons hone _ ih =>
      obtain ⟨c, hac, hcb, hplaced⟩ := hone.placed
      have hle := ih.le
      exact .cons (Nat.le_refl _) (by omega) hplaced (ih.earlier hcb)

theorem Listed.tiles (h : Listed i a b found) :
    Tiles (i.part a b) (found.flatMap statementSpans) := by
  induction h with
  | nil a => rw [part_self]; exact .nil
  | cons hone hrest ih =>
      rw [← part_append (Nat.le_of_lt hone.lt) hrest.inRow.le]
      exact hone.tiles.append ih

theorem Listed.within (h : Listed i a b found) (ha : a ≤ i.tokens.size) : b ≤ i.tokens.size := by
  induction h with
  | nil => exact ha
  | cons hone _ ih => exact ih hone.within

/-- Statements make up a node from the first of them to the last separator. -/
theorem Listed.placed (hordered : Ordered i.tokens.toList) (h : Listed i a b found) :
    Placed i a b (.statements (found.map Prod.fst)
      (match found.flatMap statementSpans with
       | [] => i.hereSpan a
       | first :: rest => Span.mergeAll first rest)) := by
  have hrow := h.inRow
  have htiles := h.tiles
  cases h with
  | nil a => exact .empty a
  | @cons _ c _ one rest hone hrest =>
      obtain ⟨spans, hspans⟩ : ∃ spans, (one :: rest).flatMap statementSpans =
          one.1.span :: spans := by
        obtain ⟨node, separator⟩ := one
        cases separator <;> exact ⟨_, rfl⟩
      have hac := hone.lt
      have hcb := hrest.inRow.le
      rw [hspans] at htiles ⊢
      refine .filled (by omega) (hrest.within hone.within) ?_ hrow
      have hpart : Ordered (i.part a b) := hordered.sublist (part_sublist i a b)
      generalize i.part a b = ts at htiles hpart
      cases htiles with
      | cons haround hmore => exact hmore.mergeAll haround hpart

end Statements

/-! ## Rules around an inner expression -/

section Rules

variable {i : Input} {inner : Parser Node}

theorem places_comment : Places i comment := by
  intro a
  refine .bind (reaches_expect .comment) ?_
  rintro _ t ⟨rfl, ht⟩
  exact .pure (placed_token ht rfl rfl)

theorem places_identifier : Places i identifier := by
  intro a
  refine .bind (reaches_expect .identifier) ?_
  rintro _ t ⟨rfl, ht⟩
  exact .pure (placed_token ht rfl rfl)

theorem places_literal : Places i literal := by
  intro a
  refine .bind (reaches_expect .literal) ?_
  rintro _ t ⟨rfl, ht⟩
  cases t.content with
  | literal value => exact .pure (placed_token ht rfl rfl)
  | comment _ => exact .failExpecting _
  | identifier _ => exact .failExpecting _
  | operator _ => exact .failExpecting _

variable (hinner : Places i inner)

include hinner

theorem reaches_items (closer : String) (a : Nat) :
    Reaches i a (InRow i a) (separated inner closer) := by
  refine reaches_separated hinner (fun a => .nil (Nat.le_refl a)) ?_ closer a
  intro a b c d x xs hx hbc hxs
  have hcd := hxs.le
  exact .cons (Nat.le_refl a) (by omega) hx.2 (hxs.earlier hbc)

theorem reaches_statement (a : Nat) : Reaches i a (Ended i a) (statement inner) := by
  refine .bind (hinner a) ?_
  rintro b node ⟨hab, hnode⟩
  obtain ⟨hb, haround⟩ := hnode.filled_of_lt hab
  have hended : ∀ t, i.tokens[b]? = some t → Ended i a (b + 1) (node, some t.span) := by
    intro t ht
    refine ⟨⟨b, hab, Nat.le_succ b, hnode⟩, lt_size_of_some ht, ?_⟩
    rw [← part_append (Nat.le_of_lt hab) (Nat.le_succ b)]
    exact .cons haround (List.append_nil (i.part b (b + 1)) ▸ .cons (around_token ht) .nil)
  split
  · refine .bind (reaches_acceptOperator ";") ?_
    rintro c found (⟨t, rfl, rfl, ht⟩ | ⟨rfl, rfl⟩)
    · exact .pure (hended t ht)
    · refine .pure ⟨⟨c, hab, Nat.le_refl c, hnode⟩, hb, ?_⟩
      exact List.append_nil (i.part a c) ▸ .cons haround .nil
  · refine .bind (reaches_expectOperator ";") ?_
    rintro _ t ⟨rfl, ht⟩
    exact .pure (hended t ht)

theorem reaches_statementsUpTo :
    ∀ bound a, Reaches i a (Listed i a) (statementsUpTo inner bound)
  | 0, a => .pure (.nil a)
  | bound + 1, a => by
      refine .bind (.still fun _ => ⟨_, rfl⟩) ?_
      rintro _ done rfl
      cases done with
      | true => exact .pure (.nil _)
      | false =>
          refine .bind (reaches_statement hinner _).optional ?_
          rintro b found (⟨one, rfl, hone⟩ | ⟨rfl, rfl⟩)
          · refine .bind (reaches_statementsUpTo bound b) ?_
            intro c rest hrest
            exact .pure (.cons hone hrest)
          · exact .pure (.nil _)

variable (hordered : Ordered i.tokens.toList)

include hordered

theorem places_assignment : Places i (assignment inner) := by
  intro a
  refine .bind (reaches_expect .identifier) ?_
  rintro _ name ⟨rfl, hname⟩
  refine .bind (reaches_expectOperator "=") ?_
  rintro _ equals ⟨rfl, -⟩
  refine .bind (hinner _) ?_
  rintro b value ⟨hlt, hvalue⟩
  exact .pure (placed_before hordered hname (by omega) hlt hvalue rfl rfl)

theorem places_function : Places i (function inner) := by
  intro a
  refine .bind (reaches_expectOperator "(") ?_
  rintro _ opener ⟨rfl, hopener⟩
  -- of the parameters only matters that the cursor does not go back
  have hparams := reaches_separated (i := i) (P := fun a b _ => a ≤ b) (Q := fun a b _ => a ≤ b)
    (fun a => (reaches_expect .identifier).mono fun b t h => by omega) Nat.le_refl
    (fun a b c d _ _ hab hbc hcd => Nat.le_trans hab (Nat.le_trans hbc hcd)) ")" (a + 1)
  refine .bind hparams ?_
  intro b params hb
  refine .bind (reaches_expectOperator ")") ?_
  rintro _ closer ⟨rfl, -⟩
  refine .bind (reaches_expectOperator "=>") ?_
  rintro _ arrow ⟨rfl, -⟩
  refine .bind (hinner _) ?_
  rintro c body ⟨hlt, hbody⟩
  exact .pure (placed_before hordered hopener (by omega) hlt hbody rfl rfl)

theorem places_call : Places i (call inner) := by
  intro a
  refine .bind (reaches_expect .identifier) ?_
  rintro _ name ⟨rfl, hname⟩
  refine .bind (reaches_expectOperator "(") ?_
  rintro _ opener ⟨rfl, -⟩
  refine .bind (reaches_items hinner ")" _) ?_
  intro b args hargs
  have hle := hargs.le
  refine .bind (reaches_expectOperator ")") ?_
  rintro _ closer ⟨rfl, hcloser⟩
  exact .pure (placed_between hordered hname hcloser (by omega) rfl
    ((hargs.earlier (by omega)).later (Nat.le_succ b)))

theorem places_listLiteral : Places i (listLiteral inner) := by
  intro a
  refine .bind (reaches_expectOperator "[") ?_
  rintro _ opener ⟨rfl, hopener⟩
  refine .bind (reaches_items hinner "]" _) ?_
  intro b items hitems
  have hle := hitems.le
  refine .bind (reaches_expectOperator "]") ?_
  rintro _ closer ⟨rfl, hcloser⟩
  exact .pure (placed_between hordered hopener hcloser (by omega) rfl
    ((hitems.earlier (by omega)).later (Nat.le_succ b)))

theorem reaches_statementItems (a : Nat) :
    Reaches i a (fun b found => Placed i a b (.statements found.1 found.2))
      (statementItems inner) := by
  have hhere : Reaches i a (fun b start => b = a ∧ start = i.hereSpan a) here := by
    rintro s rfl hsound
    exact ⟨⟨rfl, rfl⟩, hsound⟩
  refine .bind hhere ?_
  rintro _ start ⟨rfl, rfl⟩
  refine .bind (.still fun _ => ⟨_, rfl⟩) ?_
  rintro _ left rfl
  refine .bind (reaches_statementsUpTo hinner left _) ?_
  intro b found hfound
  exact .pure (hfound.placed hordered)

theorem reaches_statementList (a : Nat) :
    Reaches i a (Placed i a) (statementList inner) := by
  refine .bind (reaches_statementItems hinner hordered a) ?_
  intro b found hfound
  exact .pure hfound

theorem places_block : Places i (block inner) := by
  intro a
  refine .bind (reaches_expectOperator _) ?_
  rintro _ opener ⟨rfl, hopener⟩
  refine .bind (reaches_statementItems hinner hordered _) ?_
  rintro b ⟨items, span⟩ hfound
  have hle := hfound.le
  refine .bind (reaches_expectOperator _) ?_
  rintro _ closer ⟨rfl, hcloser⟩
  exact .pure (placed_between hordered hopener hcloser (by omega) rfl
    (.cons (Nat.le_succ a) (by omega) hfound (.nil (Nat.le_succ b))))

/-! ## Terms and expressions -/

theorem places_freshTerm : Places i (freshTerm inner) := by
  intro a
  refine .firstOf (.failExpecting _) ?_
  simp only [List.forall_mem_cons]
  exact ⟨places_call hinner hordered a, places_block hinner hordered a,
    places_listLiteral hinner hordered a, places_literal a, places_identifier a, nofun⟩

omit hinner hordered in
theorem Sound.insert {memory : Memory} {start stop : Nat} {outcome : Except Failure Node}
    (h : Sound i memory)
    (hentry : ∀ node, outcome = .ok node → start < stop ∧ Placed i start stop node) :
    Sound i (memory.insert start (outcome, stop)) := by
  intro start' node stop' h'
  rw [Std.HashMap.getElem?_insert] at h'
  split at h'
  · next heq =>
      cases h'
      rw [← beq_iff_eq.1 heq]
      exact hentry node rfl
  · exact h start' node stop' h'

theorem places_term : Places i (term inner) := by
  intro a s hpos hsound
  have hfresh := places_freshTerm hinner hordered a s hpos hsound
  unfold term
  split
  · split
    · next entry hentry =>
        obtain ⟨outcome, stop⟩ := entry
        cases outcome with
        | ok node => exact ⟨hpos ▸ hsound _ _ _ hentry, hsound⟩
        | error failure => exact hsound
    · cases hresult : freshTerm inner i s with
      | ok node s' =>
          rw [hresult] at hfresh
          refine ⟨hfresh.1, hfresh.2.insert ?_⟩
          rintro _ ⟨rfl⟩
          exact hpos ▸ hfresh.1
      | fail failure s' =>
          rw [hresult] at hfresh
          exact hfresh.insert nofun
      | tooDeep s' => rw [hresult] at hfresh; exact hfresh
  · exact hfresh

theorem places_binaryOperation : Places i (binaryOperation inner) := by
  intro a
  refine .bind (places_term hinner hordered a) ?_
  rintro b left ⟨hab, hleft⟩
  refine .bind (.still fun _ => ⟨_, rfl⟩) ?_
  rintro b next rfl
  cases next.bind binaryOperator? with
  | none => exact .failExpecting _
  | some symbol =>
      have hskip : Reaches i b (fun c (_ : Unit) => c = b + 1) skip := by
        rintro s rfl hsound
        exact ⟨rfl, hsound⟩
      refine .bind hskip ?_
      rintro _ - rfl
      refine .bind (hinner _) ?_
      rintro c right ⟨hbc, hright⟩
      obtain ⟨hc, haround'⟩ := hright.filled_of_lt hbc
      obtain ⟨-, haround⟩ := hleft.filled_of_lt hab
      refine .pure ⟨by omega, .filled (by omega) hc ?_ ?_⟩
      · exact around_merge hordered haround haround' (by omega) (by omega) (by omega)
      · exact .cons (Nat.le_refl a) (by omega) hleft
          (.cons (Nat.le_succ _) (by omega) hright (.nil (Nat.le_refl c)))

theorem places_layer : Places i (layer inner) := by
  intro a
  refine .firstOf (.failExpecting _) ?_
  simp only [List.forall_mem_cons]
  exact ⟨places_comment a, places_assignment hinner hordered a, places_function hinner hordered a,
    places_binaryOperation hinner hordered a, places_term hinner hordered a, nofun⟩

end Rules

section Whole

variable {i : Input}

theorem places_expressionUpTo (hordered : Ordered i.tokens.toList) :
    ∀ depth, Places i (expressionUpTo depth)
  | 0 => fun _ _ _ hsound => hsound
  | depth + 1 => places_layer (places_expressionUpTo hordered depth) hordered

theorem places_expression (hordered : Ordered i.tokens.toList) : Places i expression :=
  fun a s hpos hsound => places_expressionUpTo hordered i.nesting a s hpos hsound

/-- Every rule reads nodes that are placed, and only a list of statements may be empty. -/
theorem reaches_production (hordered : Ordered i.tokens.toList) (production : Production)
    (a : Nat) :
    Reaches i a (fun b node => (a < b ∨ production = .statementList) ∧ Placed i a b node)
      production.parser := by
  have hinner := places_expression hordered
  have hrule : ∀ {p : Parser Node}, Places i p →
      Reaches i a (fun b node => (a < b ∨ production = .statementList) ∧ Placed i a b node) p :=
    fun h => (h a).mono fun b node hnode => ⟨.inl hnode.1, hnode.2⟩
  cases production with
  | comment => exact hrule places_comment
  | assignment => exact hrule (places_assignment hinner hordered)
  | function => exact hrule (places_function hinner hordered)
  | binaryOperation => exact hrule (places_binaryOperation hinner hordered)
  | term => exact hrule (places_term hinner hordered)
  | call => exact hrule (places_call hinner hordered)
  | block => exact hrule (places_block hinner hordered)
  | listLiteral => exact hrule (places_listLiteral hinner hordered)
  | literal => exact hrule places_literal
  | identifier => exact hrule places_identifier
  | expression => exact hrule hinner
  | statementList =>
      exact (reaches_statementList hinner hordered a).mono fun b node hnode => ⟨.inr rfl, hnode⟩

theorem eq_of_complete {node program : Node} {s : State} (h : i.complete node s = .ok program) :
    program = node := by
  unfold Input.complete at h
  split at h
  · cases h
  · cases h; rfl

/-- A program is placed on the tokens from the cursor on. -/
theorem leaves_wholeProgram (hordered : Ordered i.tokens.toList) {s : State}
    (hsound : Sound i s.memory) :
    (∀ program, (wholeProgram i s).1 = .ok program → ∃ b, Placed i s.pos b program) ∧
      Sound i (wholeProgram i s).2.memory := by
  have hleaves := reaches_statementList (places_expression hordered) hordered s.pos s rfl hsound
  unfold wholeProgram
  cases hresult : statementList expression i s with
  | ok node s' =>
      rw [hresult] at hleaves
      refine ⟨fun program h => ?_, hleaves.2⟩
      rw [eq_of_complete h]
      exact ⟨s'.pos, hleaves.1⟩
  | fail e s' => rw [hresult] at hleaves; exact ⟨nofun, hleaves⟩
  | tooDeep s' => rw [hresult] at hleaves; exact ⟨nofun, hleaves⟩

theorem leaves_wholeExpression (hordered : Ordered i.tokens.toList) {s : State}
    (hsound : Sound i s.memory) :
    (∀ node, (wholeExpression i s).1 = .ok node → ∃ b, Placed i s.pos b node) ∧
      Sound i (wholeExpression i s).2.memory := by
  have hleaves := places_expression hordered s.pos s rfl hsound
  unfold wholeExpression
  cases hresult : expression i s with
  | ok node s' =>
      rw [hresult] at hleaves
      refine ⟨fun program h => ?_, hleaves.2⟩
      rw [eq_of_complete h]
      exact ⟨s'.pos, hleaves.1.2⟩
  | fail e s' => rw [hresult] at hleaves; exact ⟨nofun, hleaves⟩
  | tooDeep s' => rw [hresult] at hleaves; exact ⟨nofun, hleaves⟩

theorem state_answerWhole (outcome : Except Diagnostic Node × State) :
    (answerWhole outcome).2 = outcome.2 := by
  obtain ⟨whole, s⟩ := outcome
  cases whole <;> rfl

/-! ## Whatever was done before -/

/-- A state that a parser of the input comes to, by any actions and with the cursor set
anywhere. -/
inductive Reached (i : Input) : State → Prop
  | start : Reached i {}
  | read {s : State} (action : Action) : Reached i s → Reached i (action.read i s).2
  | seek {s : State} (pos : Nat) : Reached i s → Reached i { s with pos := pos }

theorem sound_answer {α : Type} {P : Nat → α → Prop} {r : Result α} (show? : α → Answer)
    (h : r.Leaves P (Sound i)) : Sound i (answer show? r).2.memory := by
  cases r with
  | ok x s => exact h.2
  | fail e s => exact h
  | tooDeep s => exact h

theorem sound_read (hordered : Ordered i.tokens.toList) {s : State} (hsound : Sound i s.memory)
    (action : Action) : Sound i (action.read i s).2.memory := by
  have hrule := reaches_production hordered
  have hstill : ∀ {α : Type} {p : Parser α}, (∀ s, ∃ x, p i s = .ok x s) →
      (p i s).Leaves (fun b _ => b = s.pos) (Sound i) := fun h => Reaches.still h s rfl hsound
  cases action with
  | rule production => exact sound_answer _ (hrule production s.pos s rfl hsound)
  | attempt production => exact sound_answer _ ((hrule production s.pos).attempt s rfl hsound)
  | separated production closer =>
      exact sound_answer _ (reaches_separated (Q := fun _ _ _ => True) (hrule production)
        (fun _ => trivial) (fun _ _ _ _ _ _ _ _ _ => trivial) closer s.pos s rfl hsound)
  | seek pos => exact hsound
  | expect label =>
      simp only [Action.read]
      split
      · exact sound_answer _ (reaches_expect _ s rfl hsound)
      · exact hsound
  | expectOperator symbol => exact sound_answer _ (reaches_expectOperator symbol s rfl hsound)
  | acceptOperator symbol => exact sound_answer _ (reaches_acceptOperator symbol s rfl hsound)
  | atOperator symbol => exact sound_answer _ (hstill fun _ => ⟨_, rfl⟩)
  | peek => exact sound_answer _ (hstill fun _ => ⟨_, rfl⟩)
  | here => exact sound_answer _ (hstill fun _ => ⟨_, rfl⟩)
  | cursorSpan => exact sound_answer _ (hstill fun _ => ⟨_, rfl⟩)
  | wholeProgram =>
      rw [Action.read, state_answerWhole]
      exact (leaves_wholeProgram hordered hsound).2
  | wholeExpression =>
      rw [Action.read, state_answerWhole]
      exact (leaves_wholeExpression hordered hsound).2

theorem Reached.sound (hordered : Ordered i.tokens.toList) {s : State} (h : Reached i s) :
    Sound i s.memory := by
  induction h with
  | start => intro start node stop hentry; simp at hentry
  | read action _ ih => exact sound_read hordered ih action
  | seek pos _ ih => exact ih

end Whole

/-! ## Merging locations -/

/-- A span that a parser has to do with: that of a token, or of a node that was read or of
one below it. -/
def Met (i : Input) (span : Span) : Prop :=
  (∃ t ∈ i.tokens.toList, span = t.span) ∨
    ∃ s production node s', Reached i s ∧ Production.parser production i s = .ok node s' ∧
      ∃ n ∈ node.walk, span = n.span

/-- A span that does not end before it begins. -/
def Onward (span : Span) : Prop := span.start.offset ≤ span.stop.offset

section Locations

variable {a b : Span}

theorem Onward.merge (ha : Onward a) (hb : Onward b) : Onward (a.merge b) := by
  unfold Onward at *
  simp only [Span.merge]
  split <;> split <;> omega

theorem stop_ofSpan (source : Source) (ha : Onward a) :
    (Location.ofSpan source a).stop = (a.stop.offset : Int) := by
  unfold Onward at ha
  simp only [Location.stop, Location.ofSpan, Span.length]
  omega

theorem merge_ofSpan (source : Source) (ha : Onward a) (hb : Onward b) :
    Location.merge (.ofSpan source a) (.ofSpan source b) =
      some (.ofSpan source (a.merge b)) := by
  obtain ⟨first, hfirst⟩ : ∃ first, first = if a.start.offset ≤ b.start.offset then a else b :=
    ⟨_, rfl⟩
  obtain ⟨last, hlast⟩ : ∃ last, last = if b.stop.offset ≤ a.stop.offset then a else b := ⟨_, rfl⟩
  have hbegin : (if (Location.ofSpan source a).offset ≤ (Location.ofSpan source b).offset
      then Location.ofSpan source a else .ofSpan source b) = .ofSpan source first := by
    rw [hfirst]
    simp only [Location.ofSpan, Int.ofNat_le]
    split <;> rfl
  have hend : (if (Location.ofSpan source b).stop ≤ (Location.ofSpan source a).stop
      then Location.ofSpan source a else .ofSpan source b) = .ofSpan source last := by
    rw [hlast, stop_ofSpan source ha, stop_ofSpan source hb]
    simp only [Int.ofNat_le]
    split <;> rfl
  have hmerge : a.merge b = ⟨first.start, last.stop⟩ := by
    rw [hfirst, hlast]
    unfold Span.merge
    split <;> split <;> rfl
  have honward : Onward last := by
    rw [hlast]
    split
    · exact ha
    · exact hb
  have hlength := stop_ofSpan source (ha.merge hb)
  have hsame : (Location.ofSpan source a).source.id = (Location.ofSpan source b).source.id := rfl
  rw [Location.merge, if_pos hsame]
  simp only [hbegin, hend, stop_ofSpan source honward]
  rw [hmerge] at hlength ⊢
  simp only [Location.stop, Location.ofSpan] at hlength ⊢
  congr 2
  omega

theorem mergeAll_ofSpan (source : Source) {first : Span} {rest : List Span} (hfirst : Onward first)
    (hrest : ∀ span ∈ rest, Onward span) :
    Location.mergeAll (.ofSpan source first) (rest.map (.ofSpan source)) =
      some (.ofSpan source (Span.mergeAll first rest)) := by
  induction rest generalizing first with
  | nil => rfl
  | cons span rest ih =>
      obtain ⟨hspan, hrest⟩ := List.forall_mem_cons.1 hrest
      have hstep := merge_ofSpan source hfirst hspan
      have hmore := ih (hfirst.merge hspan) hrest
      unfold Location.mergeAll at hmore ⊢
      rw [List.map_cons, List.foldlM_cons, hstep]
      exact hmore

end Locations

section Met

variable {i : Input} {s s' : State} {production : Production} {node : Node} {span : Span}

theorem Placed.span_onward (hordered : Ordered i.tokens.toList) {a b : Nat}
    (h : Placed i a b node) : Onward node.span := by
  unfold Onward
  cases h with
  | filled hab hb haround =>
      obtain ⟨first, last, hfirst, hlast, hspan⟩ := around_part hab hb haround
      have hle := start_le_start hordered (show a ≤ b - 1 by omega) hfirst hlast
      have hlt := start_lt_stop hordered hlast
      rw [hspan]
      exact Nat.le_trans hle (Nat.le_of_lt hlt)
  | empty =>
      simp only [Node.span, Input.hereSpan]
      split <;> exact Nat.le_refl _

theorem Reached.placed (hordered : Ordered i.tokens.toList) (hreached : Reached i s)
    (h : production.parser i s = .ok node s') :
    (s.pos < s'.pos ∨ production = .statementList) ∧ Placed i s.pos s'.pos node := by
  have hleaves := reaches_production hordered production s.pos s rfl (hreached.sound hordered)
  rw [h] at hleaves
  exact hleaves.1

theorem Met.onward (hordered : Ordered i.tokens.toList) (h : Met i span) : Onward span := by
  rcases h with ⟨t, ht, rfl⟩ | ⟨s, production, node, s', hreached, hread, n, hn, rfl⟩
  · exact Nat.le_of_lt (hordered.filled t ht)
  · obtain ⟨c, d, -, -, -, -, hplaced⟩ := (hreached.placed hordered hread).2.walk_within n hn
    exact hplaced.span_onward hordered

end Met

end Parser

open Scriptlet.Parser

/-- The node was read by the rule from the tokens `p` up to `q`: its span reaches from where
the first of them starts to where the last of them stops.  From no tokens only a list of no
statements is read, with the empty span at the cursor. -/
def ReadFrom (i : Input) (production : Production) (p q : Nat) (node : Node) : Prop :=
  (p < q ∧ ∃ first last, i.tokens[p]? = some first ∧ i.tokens[q - 1]? = some last ∧
      node.span = ⟨first.span.start, last.span.stop⟩) ∨
    (p = q ∧ production = .statementList ∧ node = .statements [] (i.hereSpan p))

/-- **Nodes stand on the tokens that they were read from.** -/
theorem nodes_nested_on_tokens (source : Source) (tokens : List Token)
    (htokens : tokenize source = .ok tokens) (nesting : Nat) (remember : Bool) (i : Input)
    (hi : i = { Input.ofTokens source tokens with nesting := nesting, remember := remember }) :
    (∀ s production node s', Reached i s → Production.parser production i s = .ok node s' →
      ReadFrom i production s.pos s'.pos node ∧ Nested node) ∧
    (∀ s program, Reached i s →
      (wholeProgram i s).1 = .ok program ∨ (wholeExpression i s).1 = .ok program →
        Nested program) ∧
    (∀ first rest, (∀ span ∈ first :: rest, Met i span) →
      Location.mergeAll (.ofSpan source first) (rest.map (.ofSpan source)) =
        some (.ofSpan source (Span.mergeAll first rest))) := by
  have hordered : Ordered i.tokens.toList := by
    obtain ⟨xs, hcut, -, hxs⟩ := tokenize_eq_ok_iff.1 htokens
    rw [hi]
    exact (ordered_of_cut hcut hxs).1
  refine ⟨?_, ?_, ?_⟩
  · intro s production node s' hreached hread
    obtain ⟨hlt, hplaced⟩ := hreached.placed hordered hread
    refine ⟨?_, hplaced.nested hordered⟩
    generalize s.pos = p at hlt hplaced
    generalize s'.pos = q at hlt hplaced
    cases hplaced with
    | filled hpq hq haround => exact .inl ⟨hpq, around_part hpq hq haround⟩
    | empty => exact .inr ⟨rfl, hlt.resolve_left (Nat.lt_irrefl p), rfl⟩
  · intro s program hreached hprogram
    have hsound := hreached.sound hordered
    obtain ⟨b, hplaced⟩ : ∃ b, Placed i s.pos b program := by
      rcases hprogram with hprogram | hexpression
      · exact (leaves_wholeProgram hordered hsound).1 program hprogram
      · exact (leaves_wholeExpression hordered hsound).1 program hexpression
    exact hplaced.nested hordered
  · intro first rest hmet
    obtain ⟨hfirst, hrest⟩ := List.forall_mem_cons.1 hmet
    exact mergeAll_ofSpan source (hfirst.onward hordered)
      fun span hspan => (hrest span hspan).onward hordered

/-- A call with a block without statements for its argument. -/
def emptyArgument : Source := { text := "f(\x7b\x7d, 1);" }

def emptyArgumentPieces : List Piece :=
  [⟨.identifier, ['f']⟩, ⟨.operator, ['(']⟩, ⟨.operator, ['\x7b']⟩, ⟨.operator, ['\x7d']⟩,
   ⟨.operator, [',']⟩, ⟨.whitespace, [' ']⟩, ⟨.integer, ['1']⟩, ⟨.operator, [')']⟩,
   ⟨.operator, [';']⟩]

def emptyArgumentTokens : List Token :=
  [⟨.identifier "f", "f", inFirstLine 0 1⟩, ⟨.operator "(", "(", inFirstLine 1 1⟩,
   ⟨.operator "\x7b", "\x7b", inFirstLine 2 1⟩, ⟨.operator "\x7d", "\x7d", inFirstLine 3 1⟩,
   ⟨.operator ",", ",", inFirstLine 4 1⟩, ⟨.literal (.integer 1), "1", inFirstLine 6 1⟩,
   ⟨.operator ")", ")", inFirstLine 7 1⟩, ⟨.operator ";", ";", inFirstLine 8 1⟩]

def emptyArgumentShape : Shape :=
  .statements [.call "f" [.block [], .literal (.integer 1)]]

theorem emptyArgument_derives :
    Grammar.Whole (emptyArgumentTokens.map Token.content) emptyArgumentShape := by
  have hblock : Grammar.Expr _ (.block []) := .term (.block .none)
  have hone : Grammar.Expr _ _ := .term (.literal (.integer 1))
  have hcall : Grammar.Expr _ (.call "f" _) := .term (.call (.more hblock (.last hone)))
  exact .program (.more (.ended hcall rfl) .none)

theorem emptyArgument_nested :
    tokenize emptyArgument = .ok emptyArgumentTokens ∧
      (∃ program, parseProgram emptyArgument emptyArgumentTokens = .ok program ∧
        program.shape = emptyArgumentShape ∧ Nested program) ∧
      ReadFrom (.ofTokens emptyArgument emptyArgumentTokens) .statementList 8 8
        (.statements [] (inFirstLine 9 0)) ∧
      Location.mergeAll (.ofSpan emptyArgument (inFirstLine 0 1))
          [.ofSpan emptyArgument (inFirstLine 7 1)] =
        some (.ofSpan emptyArgument (inFirstLine 0 8)) := by
  have htokens : tokenize emptyArgument = .ok emptyArgumentTokens :=
    tokenize_eq_ok_iff.2 ⟨emptyArgumentPieces, by decide +kernel, by decide +kernel, rfl⟩
  obtain ⟨hread, hwhole, hmerge⟩ := nodes_nested_on_tokens emptyArgument emptyArgumentTokens htokens
    500 true (.ofTokens emptyArgument emptyArgumentTokens) rfl
  obtain ⟨program, hprogram, hshape⟩ :=
    (yields_programWithin_iff emptyArgument emptyArgumentTokens (show 8 < 500 by decide) _).2
      emptyArgument_derives
  refine ⟨htokens, ⟨program, hprogram, hshape, hwhole {} program .start (.inl hprogram)⟩, ?_, ?_⟩
  · exact (hread { pos := 8 } .statementList _ _ (.seek 8 .start) rfl).1
  · refine hmerge (inFirstLine 0 1) [inFirstLine 7 1] ?_
    simp only [List.forall_mem_cons]
    exact ⟨.inl ⟨_, .head _, rfl⟩,
      .inl ⟨⟨.operator ")", ")", inFirstLine 7 1⟩,
        by simp [Input.ofTokens, emptyArgumentTokens], rfl⟩,
      nofun⟩

end Scriptlet
