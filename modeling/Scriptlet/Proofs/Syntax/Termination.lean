/-
# Every rule comes to an end

What could keep the parser from ending is that expressions begin in one another without
end, or that a loop goes round without end.

## Expressions in one another

Where a rule begins an expression shows from a run that has answers for some of the inner
expressions only: it stops where it would need another one (`Begins`).  Expressions that
begin in one another are a chain of such places (`Nests`).  A rule takes a token before it
begins an expression, so each place of a chain lies behind the one before it, and a chain
has no more places than there are tokens left, and one.

The limit on nesting cuts a rule off exactly where a chain is longer than the limit
(`Regular.tooDeep_iff`); so a limit above that number is never met, and it does not show
which one it is (`Regular.eq_of_limits`).  What is left over without a limit is the
recursion of the grammar on itself, and it ends because the chains do.

## Loops

The loops of the grammar have bounds on their rounds, and the bounds are never felt either:
a round that goes on takes a token, and the loop without a bound (`Loops`) ends alike.

## What is shown

The main statement is `every_rule_proceeds`, for a parser with whatever was done with it
before: its memory is tidy, and that is all that a rule relies on.  Of each rule it says where
the cursor may be left (`Terminates`), how far expressions begin in one another, and that
limits above that do not show (`Proceeds`); of each loop, that it ends without its bound
(`LoopProceeds`).

A list of statements is the one rule that may succeed without a token.
-/
import Scriptlet.Proofs.Syntax.Progress
import Scriptlet.Proofs.Syntax.Placement

namespace Scriptlet

namespace Parser

/-! ## Where expressions begin -/

/-- The parser `part` answers as `p` does, or not at all: then it stops where it begins. -/
def PartOf (i : Input) (part p : Parser Node) : Prop :=
  ∀ s, part i s = .tooDeep s ∨ part i s = p i s ∧ (p i s).Ends

/-- Run from `s` with `inner` for the expressions in it, the rule begins one at `t`: given
some of the answers of `inner`, and so in a run that is the same up to there, it is stopped
at `t`, where the next answer is missing. -/
def Begins {α : Type} (i : Input) (rule : Parser Node → Parser α) (inner : Parser Node)
    (s t : State) : Prop :=
  ∃ part, PartOf i part inner ∧ rule part i s = .tooDeep t

/-- Expressions that begin in one another at the places of the chain, the first in a run of
the rule from `s`, with at most `depth` of them allowed.  One more than that may begin, and
is cut off at once. -/
inductive Nests (i : Input) : Nat → (Parser Node → Parser Node) → State → List State → Prop
  | one {depth : Nat} {rule : Parser Node → Parser Node} {s t : State} :
      Begins i rule (expressionUpTo depth) s t → Nests i depth rule s [t]
  | more {depth : Nat} {rule : Parser Node → Parser Node} {s t : State} {chain : List State} :
      Begins i rule (expressionUpTo (depth + 1)) s t → Nests i depth layer t chain →
      Nests i (depth + 1) rule s (t :: chain)

/-- The parser, stopped where it begins instead of where it is cut off. -/
def answered (p : Parser Node) : Parser Node := fun i s =>
  match p i s with
  | .tooDeep _ => .tooDeep s
  | r => r

theorem Result.exists_tooDeep {α : Type} {r : Result α} (h : ¬ r.Ends) : ∃ u, r = .tooDeep u := by
  cases r with
  | ok x s => exact absurd trivial h
  | fail e s => exact absurd trivial h
  | tooDeep u => exact ⟨u, rfl⟩

section Answered

variable {i : Input} {part p q : Parser Node} {s t u : State}

theorem answered_of_ends (h : (p i s).Ends) : answered p i s = p i s := by
  unfold answered
  cases hp : p i s with
  | ok node s' => rfl
  | fail e s' => rfl
  | tooDeep s' => rw [hp] at h; exact h.elim

theorem answered_of_not_ends (h : ¬ (p i s).Ends) : answered p i s = .tooDeep s := by
  obtain ⟨u, hu⟩ := Result.exists_tooDeep h
  unfold answered
  rw [hu]

theorem not_ends_of_answered (h : answered p i s = .tooDeep t) : ¬ (p i s).Ends := by
  intro hends
  rw [answered_of_ends hends] at h
  rw [h] at hends
  exact hends

theorem partOf_answered (i : Input) (p : Parser Node) : PartOf i (answered p) p := by
  intro s
  by_cases h : (p i s).Ends
  · exact .inr ⟨answered_of_ends h, h⟩
  · exact .inl (answered_of_not_ends h)

/-- A part of a parser that takes tokens is the parser as far as it gets. -/
theorem tracks_part
    (hpart : ∀ s : State, Tidy i s.memory → part i s = .tooDeep s ∨ part i s = p i s ∧ (p i s).Ends)
    (hp : Advances i p) (b : Nat) : Tracks i part p b b (fun c _ => b < c) part p := by
  rintro s rfl htidy
  rcases hpart s htidy with hstop | ⟨hsame, hends⟩
  · rw [hstop]
    exact .stopped (.refl i _) htidy (Nat.le_refl _) hstop fun u hu => hu
  · have hstays := hp s htidy
    rw [hsame]
    cases hr : p i s with
    | ok node s' =>
        rw [hr] at hstays
        exact .ok hstays.1 hstays.2.1 hstays.2.2
    | fail e s' =>
        rw [hr] at hstays
        exact .fail hstays.1 hstays.2
    | tooDeep s' => rw [hr] at hends; exact hends.elim

end Answered

/-! ## Rules and the expressions that they begin -/

namespace Regular

variable {α : Type} {i : Input} {k : Nat} {P : Nat → Nat → α → Prop}
  {rule : Parser Node → Parser α} {inner p q : Parser Node} {s t u : State}

/-- A run with the inner expressions answered as far as they end. -/
theorem tracks_answered (hrule : Regular i k P rule) (hinner : Advances i inner)
    (htidy : Tidy i s.memory) :
    (rule (answered inner) i s).Tracks i (answered inner) inner (s.pos + k) s.pos (P s.pos)
      (rule inner i s) :=
  hrule _ _ (tracks_part (fun s _ => partOf_answered i inner s) hinner) s.pos s rfl htidy

theorem tracks_begun (hrule : Regular i k P rule) (hinner : Advances i inner)
    (htidy : Tidy i s.memory) (h : Begins i rule inner s t) :
    ∃ part, (Result.tooDeep t).Tracks i part inner (s.pos + k) s.pos (P s.pos)
      (rule inner i s) := by
  obtain ⟨part, hpart, hstop⟩ := h
  rw [← hstop]
  exact ⟨part, hrule _ _ (tracks_part (fun s _ => hpart s) hinner) s.pos s rfl htidy⟩

theorem begins_at (hrule : Regular i k P rule) (hinner : Advances i inner)
    (htidy : Tidy i s.memory) (h : Begins i rule inner s t) :
    s.pos + k ≤ t.pos ∧ i.Between s.pos t.pos ∧ Tidy i t.memory := by
  obtain ⟨_, htracks⟩ := hrule.tracks_begun hinner htidy h
  cases htracks with
  | stopped hbetween htidy' hle _ _ => exact ⟨hle, hbetween, htidy'⟩

/-- A rule is cut off where an expression that it begins is. -/
theorem tooDeep_of_begins (hrule : Regular i k P rule) (hinner : Advances i inner)
    (htidy : Tidy i s.memory) (h : Begins i rule inner s t) (hu : inner i t = .tooDeep u) :
    rule inner i s = .tooDeep u := by
  obtain ⟨_, htracks⟩ := hrule.tracks_begun hinner htidy h
  cases htracks with
  | stopped _ _ _ _ hfull => exact hfull u hu

/-- A rule is cut off only where an expression that it begins is. -/
theorem begins_of_tooDeep (hrule : Regular i k P rule) (hinner : Advances i inner)
    (htidy : Tidy i s.memory) (h : rule inner i s = .tooDeep u) :
    ∃ t, Begins i rule inner s t ∧ inner i t = .tooDeep u := by
  have htracks := hrule.tracks_answered hinner htidy
  rw [h] at htracks
  generalize hr : rule (answered inner) i s = r at htracks
  cases htracks with
  | @stopped t full _ _ _ hpart hfull =>
      obtain ⟨u', hu'⟩ := Result.exists_tooDeep (not_ends_of_answered hpart)
      cases hfull u' hu'
      exact ⟨t, ⟨_, partOf_answered i inner, hr⟩, hu'⟩

theorem stays (hrule : Regular i k P rule) (hinner : Advances i inner)
    (htidy : Tidy i s.memory) : (rule inner i s).Stays i s.pos (P s.pos) := by
  have htracks := hrule.tracks_answered hinner htidy
  generalize rule (answered inner) i s = r, rule inner i s = full at htracks
  cases htracks with
  | ok hbetween htidy' hP => exact ⟨hbetween, htidy', hP⟩
  | fail hbetween htidy' => exact ⟨hbetween, htidy'⟩
  | @stopped t full hbetween htidy' _ hpart hfull =>
      obtain ⟨u, hu⟩ := Result.exists_tooDeep (not_ends_of_answered hpart)
      have hstays := hinner t htidy'
      rw [hu] at hstays
      rw [hfull u hu]
      exact ⟨hbetween.trans hstays.1, hstays.2⟩

/-- A run that ends is the same with a parser that answers more. -/
theorem eq_of_ends (hrule : Regular i k P rule) (hp : Advances i p) (hq : Advances i q)
    (hmore : ∀ t : State, Tidy i t.memory → (p i t).Ends → q i t = p i t)
    (htidy : Tidy i s.memory) (hends : (rule p i s).Ends) : rule q i s = rule p i s := by
  have hpart : ∀ t : State, Tidy i t.memory →
      answered p i t = .tooDeep t ∨ answered p i t = q i t ∧ (q i t).Ends := by
    intro t htidy'
    by_cases h : (p i t).Ends
    · rw [hmore t htidy' h]
      exact .inr ⟨answered_of_ends h, h⟩
    · exact .inl (answered_of_not_ends h)
  -- The run with the answers of `p` that end is as far as it gets the run of both.
  have hless := hrule.tracks_answered hp htidy
  have hfull := hrule _ _ (tracks_part hpart hq) s.pos s rfl htidy
  generalize rule (answered p) i s = r, rule p i s = less, rule q i s = full at hless hfull hends
  cases hless with
  | ok => cases hfull with | ok => rfl
  | fail => cases hfull with | fail => rfl
  | stopped _ _ _ hstop hcut =>
      obtain ⟨u, hu⟩ := Result.exists_tooDeep (not_ends_of_answered hstop)
      rw [hcut u hu] at hends
      exact hends.elim

theorem congr (hrule : Regular i k P rule) (hp : Advances i p) (h : ∀ t, q i t = p i t)
    (htidy : Tidy i s.memory) : rule q i s = rule p i s := by
  have hq : Advances i q := fun t htidy' => h t ▸ hp t htidy'
  by_cases hends : (rule p i s).Ends
  · exact hrule.eq_of_ends hp hq (fun t _ _ => h t) htidy hends
  · obtain ⟨u, hr⟩ := Result.exists_tooDeep hends
    obtain ⟨t, ⟨part, hpart, hstop⟩, hu⟩ := hrule.begins_of_tooDeep hp htidy hr
    have hpart' : PartOf i part q := fun t => by rw [h t]; exact hpart t
    rw [hr]
    exact hrule.tooDeep_of_begins hq htidy ⟨part, hpart', hstop⟩ ((h t).trans hu)

end Regular

/-! ## Expressions -/

section Depth

variable {i : Input}

theorem advances_expressionUpTo (i : Input) : ∀ depth, Advances i (expressionUpTo depth)
  | 0 => fun _ htidy => ⟨.refl i _, htidy⟩
  | depth + 1 => fun _ htidy => (regular_layer i).stays (advances_expressionUpTo i depth) htidy

theorem advances_expression (i : Input) : Advances i expression :=
  advances_expressionUpTo i i.nesting

/-- What ends with some limit is the same with a higher one. -/
theorem expressionUpTo_of_ends :
    ∀ {depth higher : Nat}, depth ≤ higher → ∀ s : State, Tidy i s.memory →
      (expressionUpTo depth i s).Ends → expressionUpTo higher i s = expressionUpTo depth i s
  | 0, _, _, _, _ => False.elim
  | depth + 1, higher + 1, hle, _, htidy =>
      (regular_layer i).eq_of_ends (advances_expressionUpTo i depth)
        (advances_expressionUpTo i higher)
        (expressionUpTo_of_ends (Nat.le_of_succ_le_succ hle)) htidy

variable {k depth : Nat} {P : Nat → Nat → Node → Prop} {rule : Parser Node → Parser Node}
  {s u : State} {chain : List State}

theorem Nests.onward (h : Nests i depth rule s chain) (hrule : Regular i k P rule)
    (htidy : Tidy i s.memory) :
    (chain.Pairwise fun t u => t.pos < u.pos) ∧
      ∀ t ∈ chain, s.pos + k ≤ t.pos ∧ i.Between s.pos t.pos := by
  induction h generalizing k P with
  | one hbegins =>
      obtain ⟨hle, hbetween, -⟩ :=
        hrule.begins_at (advances_expressionUpTo i _) htidy hbegins
      refine ⟨List.pairwise_singleton _ _, List.forall_mem_singleton.2 ⟨hle, hbetween⟩⟩
  | more hbegins _ ih =>
      obtain ⟨hle, hbetween, htidy'⟩ :=
        hrule.begins_at (advances_expressionUpTo i _) htidy hbegins
      obtain ⟨hchain, hall⟩ := ih (regular_layer i) htidy'
      refine ⟨.cons (fun u hu => (hall u hu).1) hchain, List.forall_mem_cons.2 ?_⟩
      refine ⟨⟨hle, hbetween⟩, fun u hu => ?_⟩
      obtain ⟨hlt, hbetween'⟩ := hall u hu
      exact ⟨by omega, hbetween.trans hbetween'⟩

/-- States with different cursors, in order, are no more than there are cursors. -/
theorem length_le_of_onward {a b : Nat} (h : chain.Pairwise fun t u => t.pos < u.pos)
    (hall : ∀ t ∈ chain, a ≤ t.pos ∧ t.pos ≤ b) : chain.length ≤ b + 1 - a := by
  induction h generalizing a with
  | nil => exact Nat.zero_le _
  | @cons t rest hlt _ ih =>
      obtain ⟨⟨hat, htb⟩, hrest⟩ := List.forall_mem_cons.1 hall
      have hlength : rest.length ≤ b + 1 - (t.pos + 1) :=
        ih fun u hu => ⟨hlt u hu, (hrest u hu).2⟩
      rw [List.length_cons]
      omega

/-- A chain has at most one place for each token left, and one more at their end. -/
theorem Nests.length_le (h : Nests i depth rule s chain) (hrule : Regular i k P rule)
    (htidy : Tidy i s.memory) (hs : s.pos ≤ i.tokens.size) :
    chain.length ≤ i.tokens.size + 1 - (s.pos + k) := by
  obtain ⟨hchain, hall⟩ := h.onward hrule htidy
  refine length_le_of_onward hchain fun t ht => ?_
  obtain ⟨hle, hbetween⟩ := hall t ht
  exact ⟨hle, Nat.max_eq_right hs ▸ hbetween.2⟩

/-- A rule is cut off at the end of a chain that is longer than the limit, and only there. -/
theorem Regular.tooDeep_iff (hrule : Regular i k P rule) (htidy : Tidy i s.memory) :
    rule (expressionUpTo depth) i s = .tooDeep u ↔
      ∃ chain, Nests i depth rule s chain ∧ chain.length = depth + 1 ∧
        chain.getLast? = some u := by
  -- The first expression is begun by the rule, all others by `layer`, so the rule varies.
  constructor
  · intro h
    induction depth generalizing rule s k P with
    | zero =>
        obtain ⟨t, hbegins, ht⟩ := hrule.begins_of_tooDeep (advances_expressionUpTo i 0) htidy h
        cases ht
        exact ⟨[u], .one hbegins, rfl, rfl⟩
    | succ depth ih =>
        have hinner := advances_expressionUpTo i (depth + 1)
        obtain ⟨t, hbegins, ht⟩ := hrule.begins_of_tooDeep hinner htidy h
        obtain ⟨-, -, htidy'⟩ := hrule.begins_at hinner htidy hbegins
        obtain ⟨chain, hchain, hlength, hlast⟩ := ih (regular_layer i) htidy' ht
        refine ⟨t :: chain, .more hbegins hchain, congrArg (· + 1) hlength, ?_⟩
        rw [List.getLast?_cons, hlast]
        rfl
  · rintro ⟨chain, hchain, hlength, hlast⟩
    induction hchain generalizing k P with
    | @one depth rule s t hbegins =>
        cases hlast
        obtain rfl : depth = 0 := (Nat.succ.inj hlength).symm
        exact hrule.tooDeep_of_begins (advances_expressionUpTo i 0) htidy hbegins rfl
    | @more depth rule s t chain hbegins hchain ih =>
        have hinner := advances_expressionUpTo i (depth + 1)
        obtain ⟨-, -, htidy'⟩ := hrule.begins_at hinner htidy hbegins
        have hlength' : chain.length = depth + 1 := Nat.succ.inj hlength
        have hlast' : chain.getLast? = some u := by
          cases chain with
          | nil => cases hlength'
          | cons v rest => exact hlast
        exact hrule.tooDeep_of_begins hinner htidy hbegins
          (ih (regular_layer i) htidy' hlength' hlast')

/-- With a limit above the number of tokens left no expression is cut off. -/
theorem expressionUpTo_ends (htidy : Tidy i s.memory) (hs : s.pos ≤ i.tokens.size)
    (hlimit : i.tokens.size - s.pos < depth) : (expressionUpTo depth i s).Ends := by
  refine Classical.byContradiction fun hends => ?_
  obtain ⟨u, hu⟩ := Result.exists_tooDeep hends
  cases depth with
  | zero => exact absurd hlimit (Nat.not_lt_zero _)
  | succ depth =>
      obtain ⟨chain, hchain, hlength, -⟩ := ((regular_layer i).tooDeep_iff htidy).1 hu
      have hle := hchain.length_le (regular_layer i) htidy hs
      omega

end Depth

namespace Regular

variable {α : Type} {i : Input} {k depth : Nat} {P : Nat → Nat → α → Prop}
  {rule : Parser Node → Parser α} {s : State}

/-- With a limit above the number of tokens left no rule is cut off. -/
theorem ends (hrule : Regular i k P rule) (htidy : Tidy i s.memory) (hs : s.pos ≤ i.tokens.size)
    (hlimit : i.tokens.size - s.pos < depth) : (rule (expressionUpTo depth) i s).Ends := by
  refine Classical.byContradiction fun hends => ?_
  obtain ⟨u, hu⟩ := Result.exists_tooDeep hends
  have hinner := advances_expressionUpTo i depth
  obtain ⟨t, hbegins, ht⟩ := hrule.begins_of_tooDeep hinner htidy hu
  obtain ⟨hle, hbetween, htidy'⟩ := hrule.begins_at hinner htidy hbegins
  have hinside : (expressionUpTo depth i t).Ends :=
    expressionUpTo_ends htidy' (Nat.max_eq_right hs ▸ hbetween.2) (by omega)
  rw [ht] at hinside
  exact hinside

theorem eq_of_limits {depth' : Nat} (hrule : Regular i k P rule) (htidy : Tidy i s.memory)
    (hs : s.pos ≤ i.tokens.size) (h : i.tokens.size - s.pos < depth)
    (h' : i.tokens.size - s.pos < depth') :
    rule (expressionUpTo depth') i s = rule (expressionUpTo depth) i s := by
  have hhigher : ∀ {lower higher : Nat}, i.tokens.size - s.pos < lower → lower ≤ higher →
      rule (expressionUpTo higher) i s = rule (expressionUpTo lower) i s :=
    fun hlower hle => hrule.eq_of_ends (advances_expressionUpTo i _) (advances_expressionUpTo i _)
      (expressionUpTo_of_ends hle) htidy (hrule.ends htidy hs hlower)
  rcases Nat.le_total depth depth' with hle | hle
  · exact hhigher h hle
  · exact (hhigher h' hle).symm

theorem expression_eq (hrule : Regular i k P rule) (htidy : Tidy i s.memory) :
    rule (expressionUpTo i.nesting) i s = rule expression i s :=
  hrule.congr (advances_expression i) (fun _ => rfl) htidy

end Regular

/-! ## Loops -/

/-- The result with what was found before it. -/
def Result.behind {α : Type} (found : List α) : Result (List α) → Result (List α)
  | .ok rest s => .ok (found ++ rest) s
  | .fail e s => .fail e s
  | .tooDeep s => .tooDeep s

theorem bind_behind {α : Type} {i : Input} {s : State} (p : Parser (List α)) (found : List α) :
    (p >>= fun rest => Pure.pure (found ++ rest)) i s = (p i s).behind found := by
  show Parser.bind p (fun rest => Parser.pure (found ++ rest)) i s = _
  unfold Parser.bind
  cases p i s <;> rfl

/-- The loop of the rounds, with no bound on their number, comes to an end with the result,
and every round that goes on has taken a token. -/
inductive Loops {α : Type} (i : Input) (round : Parser (List α × Bool)) :
    State → Result (List α) → Prop
  | last {s t : State} {found : List α} : round i s = .ok (found, false) t →
      Loops i round s (.ok found t)
  | again {s t : State} {found : List α} {r : Result (List α)} :
      round i s = .ok (found, true) t → s.pos < t.pos → t.pos ≤ i.tokens.size →
      Loops i round t r → Loops i round s (r.behind found)
  | failed {s t : State} {e : Failure} : round i s = .fail e t → Loops i round s (.fail e t)
  | cutOff {s t : State} : round i s = .tooDeep t → Loops i round s (.tooDeep t)

theorem Loops.unique {α : Type} {i : Input} {round : Parser (List α × Bool)} {s : State}
    {r r' : Result (List α)} (h : Loops i round s r) (h' : Loops i round s r') : r' = r := by
  induction h generalizing r' with
  | last hr =>
      cases h' with
      | last hr' => cases hr.symm.trans hr'; rfl
      | again hr' | failed hr' | cutOff hr' => cases hr.symm.trans hr'
  | again hr _ _ _ ih =>
      cases h' with
      | again hr' _ _ hrest => cases hr.symm.trans hr'; rw [ih hrest]
      | last hr' | failed hr' | cutOff hr' => cases hr.symm.trans hr'
  | failed hr =>
      cases h' with
      | failed hr' => cases hr.symm.trans hr'; rfl
      | last hr' | again hr' | cutOff hr' => cases hr.symm.trans hr'
  | cutOff hr =>
      cases h' with
      | cutOff hr' => cases hr.symm.trans hr'; rfl
      | last hr' | again hr' | failed hr' => cases hr.symm.trans hr'

/-- Rounds within a bound are the loop without one, where rounds that go on take tokens:
when the bound is used up, the cursor is at `last` or behind it, where a round does nothing. -/
theorem loops_rounds {α : Type} {i : Input} {round : Parser (List α × Bool)} (last : Nat)
    (hround : ∀ s : State, Tidy i s.memory →
      (round i s).Stays i s.pos fun b found => found.2 = true → s.pos < b)
    (hlast : ∀ s : State, last ≤ s.pos → s.pos ≤ i.tokens.size → round i s = .ok ([], false) s) :
    ∀ bound (s : State), Tidy i s.memory → s.pos ≤ i.tokens.size → last ≤ s.pos + bound →
      Loops i round s (rounds round bound i s)
  | 0, s, _, hs, hbound => .last (hlast s hbound hs)
  | bound + 1, s, htidy, hs, hbound => by
      have hstays := hround s htidy
      unfold rounds
      cases hr : round i s with
      | ok result t =>
          obtain ⟨found, more⟩ := result
          rw [hr] at hstays
          obtain ⟨⟨-, ht⟩, htidy', hlt⟩ := hstays
          rw [parser_bind_ok hr]
          cases more with
          | false => exact .last hr
          | true =>
              have hlt' : s.pos < t.pos := hlt rfl
              have hend : t.pos ≤ i.tokens.size := Nat.max_eq_right hs ▸ ht
              have hrest := loops_rounds last hround hlast bound t htidy' hend (by omega)
              have hagain := Loops.again hr hlt' hend hrest
              rw [← bind_behind] at hagain
              exact hagain
      | fail e t =>
          rw [parser_bind_fail hr]
          exact .failed hr
      | tooDeep t =>
          rw [parser_bind_tooDeep hr]
          exact .cutOff hr

/-! ## Whatever was done before -/

section Histories

variable {α : Type} {i : Input} {k : Nat} {P : Nat → Nat → α → Prop}
  {rule : Parser Node → Parser α} {s : State}

theorem Result.Stays.state {a : Nat} {Q : Nat → α → Prop} {r : Result α} (h : r.Stays i a Q) :
    i.Between a r.state.pos ∧ Tidy i r.state.memory := by
  cases r with
  | ok x s => exact ⟨h.1, h.2.1⟩
  | fail e s => exact h
  | tooDeep s => exact h

theorem Regular.tidy_answer (hrule : Regular i k P rule) (htidy : Tidy i s.memory)
    (show? : α → Answer) : Tidy i (answer show? (rule expression i s)).2.memory := by
  have hstate := (hrule.stays (advances_expression i) htidy).state.2
  generalize rule expression i s = r at hstate
  cases r <;> exact hstate

theorem state_wholeProgram (i : Input) (s : State) :
    (wholeProgram i s).2 = (statementList expression i s).state := by
  unfold wholeProgram
  cases statementList expression i s <;> rfl

theorem state_wholeExpression (i : Input) (s : State) :
    (wholeExpression i s).2 = (expression i s).state := by
  unfold wholeExpression
  cases expression i s <;> rfl

theorem tidy_read (htidy : Tidy i s.memory) (action : Action) :
    Tidy i (action.read i s).2.memory := by
  have hrule := regular_production i
  cases action with
  | rule production =>
      have hanswer := (hrule production).tidy_answer htidy .node
      rw [production.around_expression] at hanswer
      exact hanswer
  | attempt production =>
      have hattempt : Regular i 0 _ fun inner => Parser.attempt (production.around inner) :=
        fun part inner h a => (hrule production part inner h a).attempt
      have hanswer := hattempt.tidy_answer htidy .node
      rw [production.around_expression] at hanswer
      exact hanswer
  | separated production closer =>
      have hanswer := (regular_separated (hrule production) closer).tidy_answer htidy .items
      rw [production.around_expression] at hanswer
      exact hanswer
  | seek pos => exact htidy
  | expect label =>
      simp only [Action.read]
      split
      · next kind _ => exact (regular_expect i kind).tidy_answer htidy .token
      · exact htidy
  | expectOperator symbol =>
      have hoperator : Regular i 0 _ fun _ => Parser.expectOperator symbol :=
        fun _ _ _ _ => tracks_expectOperator symbol
      exact hoperator.tidy_answer htidy .token
  | acceptOperator symbol =>
      have hoperator : Regular i 0 _ fun _ => Parser.acceptOperator symbol :=
        fun _ _ _ _ => tracks_acceptOperator symbol
      exact hoperator.tidy_answer htidy .ofToken?
  | atOperator symbol => exact htidy
  | peek => exact htidy
  | here => exact htidy
  | cursorSpan => exact htidy
  | wholeProgram =>
      rw [Action.read, state_answerWhole, state_wholeProgram]
      exact ((hrule .statementList).stays (advances_expression i) htidy).state.2
  | wholeExpression =>
      rw [Action.read, state_answerWhole, state_wholeExpression]
      exact (advances_expression i s htidy).state.2

theorem Reached.tidy (h : Reached i s) : Tidy i s.memory := by
  induction h with
  | start => exact tidy_empty i
  | read action _ ih => exact tidy_read ih action
  | seek pos _ ih => exact ih

end Histories

/-! ## How runs end -/

/-- A run begun at `s` leaves the cursor between where it was and the end of the tokens,
and with a limit above the number of tokens left it is not cut off. -/
structure Terminates {α : Type} (i : Input) (s : State) (r : Result α) : Prop where
  cursor : s.pos ≤ r.state.pos ∧ r.state.pos ≤ i.tokens.size
  ends : i.tokens.size - s.pos < i.nesting → r.Ends

/-- How a rule runs from `s`. -/
structure Proceeds (i : Input) (s : State) (production : Production) : Prop
    extends Terminates i s (production.parser i s) where
  /-- Every rule but the list of statements takes a token if it succeeds. -/
  takes : ∀ node s', production.parser i s = .ok node s' → production ≠ .statementList →
    s.pos < s'.pos
  /-- Expressions that begin in one another begin further and further on, so that they are
  no more than the tokens left, and one. -/
  nested : ∀ chain, Nests i i.nesting production.around s chain →
    (chain.Pairwise fun t u => t.pos < u.pos) ∧
      (∀ t ∈ chain, s.pos ≤ t.pos ∧ t.pos ≤ i.tokens.size) ∧
      chain.length ≤ i.tokens.size - s.pos + 1
  /-- The limit cuts the rule off where one expression more than it allows begins. -/
  cutOff : ∀ u, production.parser i s = .tooDeep u ↔
    ∃ chain, Nests i i.nesting production.around s chain ∧ chain.length = i.nesting + 1 ∧
      chain.getLast? = some u
  /-- Which limit it is does not show, as long as it is above the number of tokens left. -/
  limitless : i.tokens.size - s.pos < i.nesting → ∀ depth, i.tokens.size - s.pos < depth →
    production.around (expressionUpTo depth) i s = production.parser i s

/-- How a loop runs from `s`: round by round, with no bound on the rounds. -/
structure LoopProceeds {α : Type} (i : Input) (s : State) (round : Parser (List α × Bool))
    (r : Result (List α)) : Prop extends Terminates i s r where
  loops : ∀ r', Loops i round s r' ↔ r' = r

section Runs

theorem LoopProceeds.of_loops {α : Type} {i : Input} {s : State}
    {round : Parser (List α × Bool)} {r : Result (List α)} (h : Terminates i s r)
    (hloops : Loops i round s r) : LoopProceeds i s round r := by
  refine ⟨h, fun r' => ⟨hloops.unique, ?_⟩⟩
  rintro rfl
  exact hloops

variable {α : Type} {i : Input} {P : Nat → Nat → α → Prop} {item rule : Parser Node → Parser α}
  {s : State}

theorem Regular.terminates (hrule : Regular i 0 P rule) (htidy : Tidy i s.memory)
    (hs : s.pos ≤ i.tokens.size) : Terminates i s (rule expression i s) := by
  refine ⟨?_, fun hlimit => ?_⟩
  · obtain ⟨hle, hmax⟩ := (hrule.stays (advances_expression i) htidy).state.1
    exact ⟨hle, Nat.max_eq_right hs ▸ hmax⟩
  · rw [← hrule.expression_eq htidy]
    exact hrule.ends htidy hs hlimit

theorem proceeds (production : Production) (htidy : Tidy i s.memory)
    (hs : s.pos ≤ i.tokens.size) : Proceeds i s production := by
  have hrule := regular_production i production
  have hterminates := hrule.terminates htidy hs
  have hstays := hrule.stays (advances_expression i) htidy
  have hlimit := hrule.expression_eq htidy
  rw [production.around_expression] at hterminates hstays hlimit
  refine ⟨hterminates, ?_, ?_, ?_, ?_⟩
  · intro node s' hread
    rw [hread] at hstays
    exact hstays.2.2
  · intro chain hchain
    obtain ⟨honward, hall⟩ := hchain.onward hrule htidy
    have hlength := hchain.length_le hrule htidy hs
    refine ⟨honward, fun t ht => ?_, by omega⟩
    obtain ⟨hle, hbetween⟩ := hall t ht
    exact ⟨hle, Nat.max_eq_right hs ▸ hbetween.2⟩
  · intro u
    rw [← hlimit]
    exact hrule.tooDeep_iff htidy
  · intro hnesting depth hdepth
    rw [← hlimit]
    exact hrule.eq_of_limits htidy hs hnesting hdepth

/-- The bound on the number of items is never what ends their loop. -/
theorem separated_proceeds (hitem : Regular i 0 P item) (closer : String)
    (htidy : Tidy i s.memory) (hs : s.pos ≤ i.tokens.size) :
    LoopProceeds i s (separatedRound (item expression) closer)
      (separated (item expression) closer i s) := by
  refine .of_loops ((regular_separated hitem closer).terminates htidy hs) ?_
  have hround := regular_separatedRound hitem closer
  have hloops := loops_rounds (i.tokens.size + 1)
    (fun _ => hround.stays (advances_expression i)) (fun _ hlast hle => by omega)
    (i.tokens.size - s.pos + 1) s htidy hs (by omega)
  rw [← separatedUpTo_eq] at hloops
  exact hloops

theorem statements_proceed (htidy : Tidy i s.memory) (hs : s.pos ≤ i.tokens.size) :
    LoopProceeds i s (statementRound expression)
      (statementsUpTo expression (i.tokens.size - s.pos) i s) := by
  refine .of_loops ((regular_statementsUpTo i _).terminates htidy hs) ?_
  have hend : ∀ t : State, i.tokens.size ≤ t.pos → t.pos ≤ i.tokens.size →
      statementRound expression i t = .ok ([], false) t := by
    intro t hle _
    have hdone : atEnd i t = .ok true t := by
      simp only [atEnd, hle, decide_true]
    exact parser_bind_ok hdone
  rw [statementsUpTo_eq_rounds]
  exact loops_rounds i.tokens.size
    (fun _ => (regular_statementRound i).stays (advances_expression i)) hend
    _ s htidy hs (by omega)

end Runs

/-- **Every rule moves on and comes to an end.**  Whatever was done with a parser before,
its memory is tidy; and with a tidy memory, wherever the cursor stands, every rule leaves
it at or behind that place and not behind the last token, having taken a token if it
succeeded, a list of statements apart.  Expressions that begin in one another begin further
and further on, and are therefore no more than the tokens left, and one; a limit of so many
or more is never met and does not show.  The loops of the grammar, over items of any rule
or names with commas between them and over statements, end without a bound on their rounds,
and every round of theirs that goes on has taken a token. -/
theorem every_rule_proceeds (i : Input) :
    (∀ s, Reached i s → Tidy i s.memory) ∧
    ∀ s, Tidy i s.memory → s.pos ≤ i.tokens.size →
      (∀ production, Proceeds i s production) ∧
      (∀ production closer,
        LoopProceeds i s (separatedRound (Production.parser production) closer)
          (separated (Production.parser production) closer i s)) ∧
      (∀ kind closer,
        LoopProceeds i s (separatedRound (expect kind) closer)
          (separated (expect kind) closer i s)) ∧
      LoopProceeds i s (statementRound expression)
        (statementsUpTo expression (i.tokens.size - s.pos) i s) := by
  refine ⟨fun s hreached => hreached.tidy, fun s htidy hs => ⟨?_, ?_, ?_, ?_⟩⟩
  · exact fun production => proceeds production htidy hs
  · intro production closer
    have hloop := separated_proceeds (regular_production i production) closer htidy hs
    rw [production.around_expression] at hloop
    exact hloop
  · exact fun kind closer => separated_proceeds (regular_expect i kind) closer htidy hs
  · exact statements_proceed htidy hs

/-- Two lists that are opened and not closed. -/
def openLists (nesting : Nat) : Input :=
  { Input.ofTokens { text := "[[" }
      [⟨.operator "[", "[", default⟩, ⟨.operator "[", "[", default⟩] with nesting := nesting }

/-- Behind the two openings a third expression would begin, at the end of the tokens: a
limit of two is met there, and a limit of three is not. -/
theorem openLists_proceed :
    Reached (openLists 2) {} ∧ Reached (openLists 3) {} ∧
      (∃ chain, Nests (openLists 2) 2 Production.expression.around {} chain ∧ chain.length = 3 ∧
        (chain.Pairwise fun t u => t.pos < u.pos) ∧ ∀ t ∈ chain, t.pos ≤ 2) ∧
      (Production.expression.parser (openLists 3) {}).Ends := by
  obtain ⟨htidy, htwo⟩ := every_rule_proceeds (openLists 2)
  obtain ⟨htidy', hthree⟩ := every_rule_proceeds (openLists 3)
  refine ⟨.start, .start, ?_, ?_⟩
  · have hexpression := (htwo {} (htidy {} .start) (by decide)).1 .expression
    have hdeep : ¬ (Production.expression.parser (openLists 2) {}).Ends := by cbv
    obtain ⟨u, hu⟩ := Result.exists_tooDeep hdeep
    obtain ⟨chain, hchain, hlength, -⟩ := (hexpression.cutOff u).1 hu
    obtain ⟨honward, hall, -⟩ := hexpression.nested chain hchain
    exact ⟨chain, hchain, hlength, honward, fun t ht => (hall t ht).2⟩
  · exact ((hthree {} (htidy' {} .start) (by decide)).1 .expression).ends (by decide)

end Parser

end Scriptlet
