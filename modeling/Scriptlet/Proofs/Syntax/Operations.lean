/-
# Terms asked for twice

A term is asked for as the left side of an operator, and asked for again by itself
when there is no operator or its right side fails.  With memory the second answer is
the first one; without, the term is read again.  Either way nothing new is recorded
that is kept: a term that was read records nothing behind itself, and a term that
stopped records the failure at its stop once more.
-/
import Scriptlet.Proofs.Syntax.Openings

namespace Scriptlet

open Forward (Verdict Reader Opening)

namespace Parser

/-! ## Terms with memory -/

section Remembering

variable {i : Input} {n start : Nat} {a b : Memory} {entry : Except Failure Node × Nat}

theorem getElem?_insert_of_ne {q : Nat} (h : q ≠ start) : (b.insert start entry)[q]? = b[q]? := by
  rw [Std.HashMap.getElem?_insert, if_neg]
  simpa using h.symm

theorem Kept.insert (h : Kept n a b) (hle : n ≤ start) : Kept n a (b.insert start entry) := by
  intro q hq
  rw [getElem?_insert_of_ne (by omega)]
  exact h q hq

theorem Clean.insert (h : Clean i b n) (hlt : start < n) : Clean i (b.insert start entry) n := by
  intro hremember q hq
  rw [getElem?_insert_of_ne (by omega)]
  exact h hremember q hq

variable {s : State} {v : Verdict Node} {r : Result Node} {symbols : List String}

theorem Meets.toMemory (h : Meets i s 0 (NodeAt symbols i) v r)
    (hlt : ∀ node rest, v = .ok node rest → rest.length < (i.left s.pos).length) :
    Meets i s 0 (NodeAt symbols i) v (Parser.toMemory s.pos r) := by
  cases v with
  | ok node rest =>
      obtain ⟨s', rfl, rfl, hmoved, hfresh⟩ := h
      have hpos : s.pos < s'.pos := lt_of_length_left (hlt _ _ rfl)
      exact ⟨_, rfl, rfl, ⟨hmoved.le, hmoved.upto, hmoved.kept.insert (Nat.le_refl _)⟩,
        hfresh.within, hfresh.clean.insert hpos⟩
  | stop cause rest =>
      obtain ⟨m, hleft, hstopped, hgiven⟩ := h
      have hinsert : ∀ {s' : State} {entry}, Stopped i s cause m s' →
          Stopped i s cause m { s' with memory := s'.memory.insert s.pos entry } :=
        fun hs => ⟨hs.le, hs.within, hs.furthest, hs.kept.insert (Nat.le_refl _),
          hs.clean.insert (Nat.lt_succ_of_le hs.le)⟩
      cases r with
      | ok node s' => exact ⟨m, hleft, hinsert hstopped, hgiven⟩
      | fail e s' => exact ⟨m, hleft, hinsert hstopped, trivial⟩
      | tooDeep s' => exact hgiven.elim
  | deep rest =>
      obtain ⟨s', rfl, hleft⟩ := h
      exact ⟨s', rfl, hleft⟩

end Remembering

section Terms

variable {i : Input} {expr : Parser Node} {read : Reader Node} {s s₁ s₂ : State}

theorem follows_term (h : Follows i (NodeAt ["("] i) (freshTerm expr) (Forward.term i.finish read))
    (hadvances : read.Advances) :
    Follows i (NodeAt ["("] i) (term expr) (Forward.term i.finish read) := by
  intro s hfresh
  rw [term_of_miss fun hremember => hfresh.clean hremember s.pos (Nat.le_refl _)]
  split
  · exact (h s hfresh).toMemory fun _ _ hok =>
      (Forward.advances_term i.finish hadvances).length_lt hok
  · exact h s hfresh

theorem memory_of_term (hremember : i.remember = true) (hmiss : s.memory[s.pos]? = none)
    {entry : Except Failure Node × Nat} (hentry : (term expr i s).recorded? = some entry) :
    (term expr i s).state.memory[s.pos]? = some entry := by
  rw [term_of_miss fun _ => hmiss, hremember] at hentry ⊢
  simp only [if_true] at hentry ⊢
  cases hr : freshTerm expr i s with
  | ok node s' =>
      rw [hr] at hentry
      cases hentry
      exact Std.HashMap.getElem?_insert_self
  | fail e s' =>
      rw [hr] at hentry
      cases hentry
      exact Std.HashMap.getElem?_insert_self
  | tooDeep s' => rw [hr] at hentry; cases hentry

/-- Asked for once more at the same token, a term comes from memory or is read again. -/
theorem term_again (hmiss : i.remember = true → s.memory[s.pos]? = none) (hpos : s₂.pos = s.pos)
    (hsame : s₂.memory[s.pos]? = (term expr i s).state.memory[s.pos]?)
    {entry : Except Failure Node × Nat} (hentry : (term expr i s).recorded? = some entry) :
    (i.remember = true ∧ term expr i s₂ = fromMemory entry s₂) ∨
      (i.remember = false ∧ term expr i s₂ = freshTerm expr i s₂) := by
  cases hremember : i.remember with
  | true =>
      have hmemory : s₂.memory[s₂.pos]? = some entry := by
        rw [hpos, hsame]
        exact memory_of_term hremember (hmiss hremember) hentry
      exact .inl ⟨rfl, term_of_hit hremember hmemory⟩
  | false =>
      refine .inr ⟨rfl, ?_⟩
      rw [term_of_miss (by simp [hremember]), hremember]
      rfl

theorem pos_eq_of_left {n m : Nat} (h : i.left n = i.left m) (hn : n ≤ i.tokens.size)
    (hm : m ≤ i.tokens.size) : n = m := by
  have hlength := congrArg List.length h
  rw [length_left, length_left] at hlength
  omega

theorem term_again_ok (s₂ : State)
    (h : Follows i (NodeAt ["("] i) (freshTerm expr) (Forward.term i.finish read))
    (hfresh : Fresh i s 0) {node : Node} (hfirst : term expr i s = .ok node s₁)
    (hread : Forward.term i.finish read (i.left s.pos) = .ok node (i.left s₁.pos))
    (hwithin : s₁.pos ≤ i.tokens.size) (hpos : s₂.pos = s.pos)
    (hsame : s₂.memory[s.pos]? = s₁.memory[s.pos]?) :
    ∃ s₃, term expr i s₂ = .ok node s₃ ∧ s₃.pos = s₁.pos ∧
      Upto s₁.pos s₂.furthest s₃.furthest ∧ Kept s.pos s₂.memory s₃.memory ∧
      ∀ n, Clean i s₂.memory n → Clean i s₃.memory n := by
  have hmiss : i.remember = true → s.memory[s.pos]? = none :=
    fun hremember => hfresh.clean hremember s.pos (Nat.le_refl _)
  have hentry : (term expr i s).recorded? = some (.ok node, s₁.pos) := by rw [hfirst]; rfl
  rcases term_again hmiss hpos (by rw [hfirst]; exact hsame) hentry with ⟨-, heq⟩ | ⟨hplain, heq⟩
  · exact ⟨_, heq, rfl, .refl _ _, .refl _ _, fun n hclean => hclean⟩
  · have hvacuous : ∀ memory n, Clean i memory n := by
      intro memory n hremember
      rw [hplain] at hremember
      cases hremember
    have hmeets := h s₂ ⟨hpos ▸ hfresh.within, hvacuous _ _⟩
    rw [hpos, hread] at hmeets
    obtain ⟨s₃, hagain, hleft, hmoved, hfresh₃⟩ := hmeets
    have hpos₃ : s₃.pos = s₁.pos := pos_eq_of_left hleft hfresh₃.within hwithin
    exact ⟨s₃, heq.trans hagain, hpos₃, hpos₃ ▸ hmoved.upto, hpos ▸ hmoved.kept,
      fun _ _ => hvacuous _ _⟩

theorem Stopped.again {cause : Cause} {m : Nat} (h : Stopped i s cause m s₁)
    (h' : Stopped i s₁ cause m s₂) (hle : s.pos ≤ s₁.pos) : Stopped i s cause m s₂ where
  le := h.le
  within := h.within
  furthest := by rw [h'.furthest, h.furthest, later_later]
  kept := h.kept.trans h'.kept hle
  clean := h'.clean

theorem meets_term_again_stop (s₂ : State)
    (h : Follows i (NodeAt ["("] i) (freshTerm expr) (Forward.term i.finish read))
    (hfresh : Fresh i s 0) {cause : Cause} {m : Nat}
    (hread : Forward.term i.finish read (i.left s.pos) = .stop cause (i.left m))
    (hstopped : Stopped i s cause m (term expr i s).state)
    (hgiven : (term expr i s).GivenUp (NodeAt ["("] i) m) (hpos : s₂.pos = s.pos)
    (hquiet : Quiet (term expr i s).state s₂) :
    Meets i s 0 (NodeAt ["("] i) (.stop cause (i.left m)) (term expr i s₂) := by
  have hmiss : i.remember = true → s.memory[s.pos]? = none :=
    fun hremember => hfresh.clean hremember s.pos (Nat.le_refl _)
  have hsame : s₂.memory[s.pos]? = (term expr i s).state.memory[s.pos]? := by rw [hquiet.2]
  have hstopped₂ : Stopped i s cause m s₂ := hstopped.quiet hquiet
  -- without memory the term is read again, and stops where it did
  have hplain : i.remember = false → term expr i s₂ = freshTerm expr i s₂ →
      Meets i s 0 (NodeAt ["("] i) (.stop cause (i.left m)) (term expr i s₂) := by
    intro hremember heq
    have hfresh₂ : Fresh i s₂ 0 :=
      ⟨hpos ▸ hfresh.within, fun hr => by rw [hremember] at hr; cases hr⟩
    have hmeets := h s₂ hfresh₂
    rw [hpos, hread, ← heq] at hmeets
    obtain ⟨m', hleft, hagain, hgiven'⟩ := hmeets
    obtain rfl : m' = m := pos_eq_of_left hleft hagain.within hstopped.within
    exact ⟨m', rfl, hstopped₂.again hagain (Nat.le_of_eq hpos.symm), hgiven'⟩
  cases hfirst : term expr i s with
  | tooDeep s₁ => rw [hfirst] at hgiven; exact hgiven.elim
  | ok node s₁ =>
      rw [hfirst] at hgiven
      have hentry : (term expr i s).recorded? = some (.ok node, s₁.pos) := by rw [hfirst]; rfl
      rcases term_again hmiss hpos hsame hentry with ⟨-, heq⟩ | ⟨hremember, heq⟩
      · rw [heq]
        exact ⟨m, rfl, hstopped₂.quiet ⟨rfl, rfl⟩, hgiven⟩
      · exact hplain hremember heq
  | fail e s₁ =>
      have hentry : (term expr i s).recorded? = some (.error e, s₁.pos) := by rw [hfirst]; rfl
      rcases term_again hmiss hpos hsame hentry with ⟨-, heq⟩ | ⟨hremember, heq⟩
      · rw [heq]
        exact ⟨m, rfl, hstopped₂.quiet ⟨rfl, rfl⟩, trivial⟩
      · exact hplain hremember heq

end Terms

/-! ## Operations -/

section Operations

variable {i : Input} {expr : Parser Node} {read : Reader Node} {s s₁ : State}

theorem peek_eq (i : Input) (s : State) : peek i s = .ok i.tokens[s.pos]? s := rfl

/-- Without an operator behind it, a first operand is no operation. -/
theorem binaryOperation_of_none {node : Node} (hterm : term expr i s = .ok node s₁)
    (hnone : i.tokens[s₁.pos]?.bind binaryOperator? = none) :
    binaryOperation expr i s = failExpecting "operator" i s₁ := by
  unfold binaryOperation
  rw [parser_bind_ok hterm, parser_bind_ok (peek_eq i s₁), hnone]

theorem binaryOperation_of_some {node : Node} {symbol : String}
    (hterm : term expr i s = .ok node s₁)
    (hsome : i.tokens[s₁.pos]?.bind binaryOperator? = some symbol) :
    binaryOperation expr i s =
      (expr >>= fun right => pure (.call symbol [node, right] (node.span.merge right.span)))
        i { s₁ with pos := s₁.pos + 1 } := by
  unfold binaryOperation
  rw [parser_bind_ok hterm, parser_bind_ok (peek_eq i s₁), hsome]
  rfl

/-- A term without an operator behind it is asked for twice. -/
theorem meets_operand {node : Node}
    (h : Follows i (NodeAt ["("] i) (freshTerm expr) (Forward.term i.finish read))
    (hfresh : Fresh i s 0) (hterm : term expr i s = .ok node s₁)
    (hread : Forward.term i.finish read (i.left s.pos) = .ok node (i.left s₁.pos))
    (hmoved : Moved s s₁) (hfresh₁ : Fresh i s₁ 0)
    (hnone : i.tokens[s₁.pos]?.bind binaryOperator? = none) :
    Meets i s 0 (NodeAt joints i) (.ok node (i.left s₁.pos))
      (firstOf (failExpecting "expression") [binaryOperation expr, term expr] i s) := by
  have hfail := (binaryOperation_of_none hterm hnone).trans (failExpecting_eq "operator")
  obtain ⟨s₃, hagain, hpos, hupto, hkept, hclean⟩ := term_again_ok
    { s₁ with pos := s.pos, furthest := later s₁.furthest (i.missing s₁.pos "operator") }
    h hfresh hterm hread hfresh₁.within rfl rfl
  refine ⟨s₃, ?_, by rw [hpos], ⟨hpos ▸ hmoved.le, ?_, ?_⟩, hpos ▸ hfresh₁.within, ?_⟩
  · simp only [firstOf, Parser.attempt, hfail, Result.backTo, hagain]
  · rw [hpos]
    exact (hmoved.upto.trans (upto_later _ (Nat.le_refl _))).trans hupto
  · exact hmoved.kept.trans hkept (Nat.le_refl _)
  · rw [hpos]
    exact hclean _ hfresh₁.clean

/-- An operation whose right side fails is its left operand, in front of the operator. -/
theorem meets_operation_of_some {node : Node} {symbol : String} {t : Token} {v : Verdict Node}
    (h : Follows i (NodeAt ["("] i) (freshTerm expr) (Forward.term i.finish read))
    (hfresh : Fresh i s 0) (hterm : term expr i s = .ok node s₁)
    (hread : Forward.term i.finish read (i.left s.pos) = .ok node (i.left s₁.pos))
    (hmoved : Moved s s₁) (hfresh₁ : Fresh i s₁ 0) (ht : i.tokens[s₁.pos]? = some t)
    (hsome : binaryOperator? t = some symbol)
    (hright : Meets i { s₁ with pos := s₁.pos + 1 } 0 (NodeAt joints i) v
      (binaryOperation expr i s)) :
    Meets i s 0 (NodeAt joints i) v
      (firstOf (failExpecting "expression") [binaryOperation expr, term expr] i s) := by
  have hmoved' : Moved s { s₁ with pos := s₁.pos + 1 } := hmoved.trans (.next s₁)
  refine hright.orElse hmoved' fun cause m e s' hv hr hstopped => ?_
  have hm : s₁.pos < m := hstopped.le
  have hstopped' : Stopped i s cause m s' := hmoved'.stopped hstopped
  have hsame : s'.memory[s.pos]? = s₁.memory[s.pos]? :=
    hstopped.kept s.pos (Nat.lt_succ_of_le hmoved.le)
  obtain ⟨s₃, hagain, hpos, hupto, hkept, hclean⟩ := term_again_ok
    { s' with pos := s.pos } h hfresh hterm hread hfresh₁.within rfl hsame
  have hfurthest : s₃.furthest = s'.furthest := hupto.eq_of_beyond hstopped'.beyond hm
  have hresult : firstOf (failExpecting "expression") [term expr] i { s' with pos := s.pos } =
      .ok node s₃ := by
    simp only [firstOf, Parser.attempt, hagain, Result.backTo]
  obtain ⟨hcontent, hmem⟩ := Forward.operator_of_binary hsome
  rw [hresult, hv]
  refine ⟨m, rfl, ⟨hstopped'.le, hstopped'.within, hfurthest.trans hstopped'.furthest,
    hstopped'.kept.trans hkept (Nat.le_refl _), hclean _ hstopped'.clean⟩, ?_, ?_, ?_⟩
  · rw [hpos]
    exact hm
  · exact Forward.yields_term i.finish _ _ _ hread
  · refine ⟨t, symbol, ?_, hcontent, ?_⟩
    · rw [hpos]
      exact ht
    · exact List.mem_cons_of_mem _ (List.mem_cons_of_mem _ hmem)

theorem meets_operation_of_stop {cause : Cause} {m : Nat}
    (h : Follows i (NodeAt ["("] i) (freshTerm expr) (Forward.term i.finish read))
    (hfresh : Fresh i s 0)
    (hread : Forward.term i.finish read (i.left s.pos) = .stop cause (i.left m))
    (hstopped : Stopped i s cause m (term expr i s).state)
    (hgiven : (term expr i s).GivenUp (NodeAt ["("] i) m)
    (hlt : (i.left m).length < (i.left s.pos).length) :
    Meets i s 0 (NodeAt joints i) (.stop cause (i.left m))
      (firstOf (failExpecting "expression") [binaryOperation expr, term expr] i s) := by
  have hfail : ∃ e stop, binaryOperation expr i s =
      .fail e { (term expr i s).state with pos := stop } := by
    cases hterm : term expr i s with
    | tooDeep s₁ => rw [hterm] at hgiven; exact hgiven.elim
    | fail e s₁ => exact ⟨e, s₁.pos, parser_bind_fail hterm⟩
    | ok node s₁ =>
        rw [hterm] at hstopped hgiven
        obtain ⟨hm, -, t, symbol, ht, hcontent, hsymbol⟩ := hgiven
        obtain rfl := List.mem_singleton.1 hsymbol
        have hnone : i.tokens[s₁.pos]?.bind binaryOperator? = none := by
          rw [ht]
          show binaryOperator? t = none
          unfold binaryOperator?
          rw [hcontent]
          decide
        exact ⟨i.missing s₁.pos "operator", s₁.pos, (binaryOperation_of_none hterm hnone).trans
          (failExpecting_quiet "operator" hstopped.beyond hm)⟩
  obtain ⟨e, stop, hfail⟩ := hfail
  have hagain := meets_term_again_stop { (term expr i s).state with pos := s.pos } h hfresh hread
    hstopped hgiven rfl ⟨rfl, rfl⟩
  have hlast : Meets i s 0 (NodeAt joints i) _ _ :=
    (hagain.alternative rfl (fun _ _ hstop => by cases hstop; exact hlt)
      (List.forall_mem_nil _) "expression").weaken fun _ _ hat => hat.joints
  have hresult : firstOf (failExpecting "expression") [binaryOperation expr, term expr] i s =
      firstOf (failExpecting "expression") [term expr] i
        { (term expr i s).state with pos := s.pos } := by
    simp only [firstOf, Parser.attempt, hfail, Result.backTo]
  rw [hresult]
  exact hlast

theorem meets_operation (hexpr : Follows i (NodeAt joints i) expr read)
    (hadvances : read.Advances) (hhalts : Halts read) (hfresh : Fresh i s 0)
    (hlt : ∀ cause rest, Forward.term i.finish read (i.left s.pos) = .stop cause rest →
      rest.length < (i.left s.pos).length) :
    Meets i s 0 (NodeAt joints i)
      ((Forward.term i.finish read >>= Forward.afterOperand read) (i.left s.pos))
      (firstOf (failExpecting "expression") [binaryOperation expr, term expr] i s) := by
  have h := follows_freshTerm hexpr hadvances hhalts
  have hmeets := follows_term h hadvances s hfresh
  cases hread : Forward.term i.finish read (i.left s.pos) with
  | ok node rest =>
      rw [hread] at hmeets
      obtain ⟨s₁, hterm, rfl, hmoved, hfresh₁⟩ := hmeets
      rw [Forward.bind_of_ok hread]
      unfold Forward.afterOperand
      cases hop : i.tokens[s₁.pos]?.bind binaryOperator? with
      | none =>
          have htake : Forward.takeIf binaryOperator? (i.left s₁.pos) =
              .ok none (i.left s₁.pos) := by
            cases ht : i.tokens[s₁.pos]? with
            | none => rw [left_of_none ht]; rfl
            | some t =>
                rw [ht] at hop
                rw [left_of_some ht]
                exact Forward.takeIf_of_none hop
          rw [Forward.bind_of_ok htake]
          exact meets_operand h hfresh hterm hread hmoved hfresh₁ hop
      | some symbol =>
          obtain ⟨t, ht, hsome⟩ := Option.bind_eq_some_iff.1 hop
          have htake : Forward.takeIf binaryOperator? (i.left s₁.pos) =
              .ok (some symbol) (i.left (s₁.pos + 1)) := by
            rw [left_of_some ht]
            exact Forward.takeIf_of_some hsome
          rw [Forward.bind_of_ok htake]
          refine meets_operation_of_some h hfresh hterm hread hmoved hfresh₁ ht hsome ?_
          rw [binaryOperation_of_some hterm hop]
          exact meets_wrapped hexpr ((hfresh₁.mono (Nat.zero_le _)).next ht) _ fun _ => rfl
  | stop cause rest =>
      rw [hread] at hmeets
      obtain ⟨m, rfl, hstopped, hgiven⟩ := hmeets
      rw [Forward.bind_of_stop hread]
      exact meets_operation_of_stop h hfresh hread hstopped hgiven (hlt _ _ hread)
  | deep rest =>
      rw [hread] at hmeets
      obtain ⟨s₁, hterm, hleft⟩ := hmeets
      rw [Forward.bind_of_deep hread]
      have hdeep : Meets i s 0 (NodeAt joints i) (.deep rest) (binaryOperation expr i s) :=
        ⟨s₁, parser_bind_tooDeep hterm, hleft⟩
      exact hdeep.orElse (.refl s) fun _ _ _ _ hv => absurd hv nofun

end Operations

/-! ## Terms that need no inner expression -/

/-- Back at the same token, with failures up to token `n` recorded and at most the
term that begins here remembered. -/
structure Beside (n : Nat) (s s' : State) : Prop where
  pos : s'.pos = s.pos
  upto : Upto n s.furthest s'.furthest
  memory : ∀ q, q ≠ s.pos → s'.memory[q]? = s.memory[q]?

section Decided

variable {i : Input} {expr : Parser Node} {s s₁ s₂ : State} {n : Nat}
  {entry : Except Failure Node × Nat}

theorem Stopped.beside {cause : Cause} {m : Nat} (h : Stopped i s cause m s₁)
    (hpos : s₁.pos = s.pos) (h' : Beside n s₁ s₂) (hlt : n < m) : Stopped i s cause m s₂ where
  le := h.le
  within := h.within
  furthest := (h'.upto.eq_of_beyond h.beyond hlt).trans h.furthest
  kept := fun q hq => (h'.memory q (by omega)).trans (h.kept q hq)
  clean := fun hremember q hq => by
    have := h.le
    rw [h'.memory q (by omega)]
    exact h.clean hremember q hq

/-- How reading the term at the cursor ends does not depend on what is remembered. -/
def Decided (expr : Parser Node) (i : Input) (pos n : Nat)
    (entry : Except Failure Node × Nat) : Prop :=
  ∀ s : State, s.pos = pos → ∃ furthest, Upto n s.furthest furthest ∧
    freshTerm expr i s = fromMemory entry { s with furthest := furthest }

theorem recorded?_fromMemory : (fromMemory entry s).recorded? = some entry := by
  obtain ⟨node | e, stop⟩ := entry <;> rfl

theorem memory_fromMemory : (fromMemory entry s).state.memory = s.memory := by
  obtain ⟨node | e, stop⟩ := entry <;> rfl

theorem toMemory_fromMemory (start : Nat) :
    toMemory start (fromMemory entry s) =
      fromMemory entry { s with memory := s.memory.insert start entry } := by
  obtain ⟨node | e, stop⟩ := entry <;> rfl

/-- Such a term ends alike the first and the second time. -/
theorem Decided.twice (h : Decided expr i s.pos n entry)
    (hmiss : i.remember = true → s.memory[s.pos]? = none) :
    ∃ s₁, term expr i s = fromMemory entry s₁ ∧ Beside n s s₁ ∧
      ∀ s₂ : State, s₂.pos = s.pos → s₂.memory = s₁.memory →
        ∃ s₃, term expr i s₂ = fromMemory entry s₃ ∧ Beside n s₂ s₃ := by
  obtain ⟨furthest, hupto, heq⟩ := h s rfl
  have hfirst : ∃ s₁, term expr i s = fromMemory entry s₁ ∧ Beside n s s₁ := by
    rw [term_of_miss hmiss, heq]
    split
    · rw [toMemory_fromMemory]
      exact ⟨_, rfl, rfl, hupto, fun q hq => getElem?_insert_of_ne hq⟩
    · exact ⟨_, rfl, rfl, hupto, fun _ _ => rfl⟩
  obtain ⟨s₁, hterm, hbeside⟩ := hfirst
  refine ⟨s₁, hterm, hbeside, fun s₂ hpos hmemory => ?_⟩
  have hsame : s₂.memory[s.pos]? = (term expr i s).state.memory[s.pos]? := by
    rw [hterm, memory_fromMemory, hmemory]
  have hentry : (term expr i s).recorded? = some entry := by rw [hterm, recorded?_fromMemory]
  rcases term_again hmiss hpos hsame hentry with ⟨-, hagain⟩ | ⟨-, hagain⟩
  · exact ⟨s₂, hagain, rfl, .refl _ _, fun _ _ => rfl⟩
  · obtain ⟨furthest', hupto', heq'⟩ := h s₂ hpos
    exact ⟨_, hagain.trans heq', rfl, hupto', fun _ _ => rfl⟩

/-- Where no term begins, there is no operation and no operand. -/
theorem firstOf_noOperation (expr otherwise : Parser Node)
    (hno : Opening.ofToken? i.tokens[s.pos]? ∉ [Opening.name, .brace, .bracket, .literal, .name])
    (hmiss : i.remember = true → s.memory[s.pos]? = none) :
    ∃ s₁, firstOf otherwise [binaryOperation expr, term expr] i s = otherwise i s₁ ∧
      Beside s.pos s s₁ := by
  have hdecided : Decided expr i s.pos s.pos (.error (i.missing s.pos "term"), s.pos) := by
    intro s' hpos
    rw [← hpos] at hno ⊢
    obtain ⟨furthest, hupto, heq⟩ := firstOf_noTerm expr (failExpecting "term") hno
    exact ⟨_, hupto.trans (upto_later _ (Nat.le_refl _)), heq⟩
  obtain ⟨s₁, hterm, hbeside, hsecond⟩ := hdecided.twice hmiss
  obtain ⟨s₃, hagain, hbeside'⟩ := hsecond { s₁ with pos := s.pos } rfl rfl
  have hfail : binaryOperation expr i s =
      .fail (i.missing s.pos "term") { s₁ with pos := s.pos } := parser_bind_fail hterm
  have hagain' : term expr i { s₁ with pos := s.pos } =
      .fail (i.missing s.pos "term") { s₃ with pos := s.pos } := hagain
  refine ⟨{ s₃ with pos := s.pos }, ?_, rfl, hbeside.upto.trans hbeside'.upto,
    fun q hq => (hbeside'.memory q hq).trans (hbeside.memory q hq)⟩
  simp only [firstOf, Parser.attempt, hfail, hagain', Result.backTo]

/-- A name with neither `(` nor an operator behind it is an operand. -/
theorem firstOf_operand (expr otherwise : Parser Node) {t : Token} (ht : i.tokens[s.pos]? = some t)
    (hkind : t.kind = .identifier)
    (hnot : ∀ t', i.tokens[s.pos + 1]? = some t' → ¬ t'.isOperator "(" = true)
    (hnone : i.tokens[s.pos + 1]?.bind binaryOperator? = none)
    (hmiss : i.remember = true → s.memory[s.pos]? = none) :
    ∃ s₁, firstOf otherwise [binaryOperation expr, term expr] i s =
        .ok (.identifier (textOf t) t.span) { s₁ with pos := s.pos + 1 } ∧
      Beside (s.pos + 1) s s₁ := by
  have hdecided : Decided expr i s.pos (s.pos + 1)
      (.ok (.identifier (textOf t) t.span), s.pos + 1) := by
    intro s' hpos
    rw [← hpos] at ht hnot ⊢
    exact freshTerm_name expr ht hkind hnot
  obtain ⟨s₁, hterm, hbeside, hsecond⟩ := hdecided.twice hmiss
  have hfail := (binaryOperation_of_none hterm hnone).trans (failExpecting_eq "operator")
  obtain ⟨s₃, hagain, hbeside'⟩ := hsecond
    { s₁ with pos := s.pos, furthest := later s₁.furthest (i.missing (s.pos + 1) "operator") }
    rfl rfl
  have hagain' : term expr i { s₁ with
      pos := s.pos, furthest := later s₁.furthest (i.missing (s.pos + 1) "operator") } =
      .ok (.identifier (textOf t) t.span) { s₃ with pos := s.pos + 1 } := hagain
  refine ⟨s₃, ?_, hbeside'.pos, ?_, fun q hq => (hbeside'.memory q hq).trans (hbeside.memory q hq)⟩
  · simp only [firstOf, Parser.attempt, hfail, hagain', Result.backTo]
  · exact (hbeside.upto.trans (upto_later _ (Nat.le_refl _))).trans hbeside'.upto

end Decided

end Parser

end Scriptlet
