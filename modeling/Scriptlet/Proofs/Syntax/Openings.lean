/-
# What the next token opens

At a given token all but one of the rules fail at once (`Opens`), or, behind a name,
at the token behind it.  This is what makes a grammar of ordered alternatives one that
can be read forward: the rules are compared one by one with the readers of `Forward`,
and a rule among alternatives that fail at once is compared like the rule by itself,
since what those record lies in front of anything that the rule records behind its
first token.
-/
import Mathlib.Data.List.Forall2
import Scriptlet.Proofs.Syntax.Furthest

namespace Scriptlet

open Forward (Verdict Reader Opening)

namespace Parser

/-! ## Alternatives that fail at once -/

/-- At `pos` the alternative fails, and all it leaves behind is failures up to token `n`. -/
def Skips {α : Type} (n : Nat) (p : Parser α) (i : Input) (pos : Nat) : Prop :=
  ∀ s : State, s.pos = pos → ∃ e stop furthest,
    p i s = .fail e { s with pos := stop, furthest := furthest } ∧ Upto n s.furthest furthest

/-- The alternative fails at once unless the next token opens it. -/
def Opens {α : Type} (o : Opening) (p : Parser α) : Prop :=
  ∀ i pos, Opening.ofToken? i.tokens[pos]? ≠ o → Skips pos p i pos

section Skipping

variable {α β : Type} {i : Input} {pos n : Nat}

theorem Skips.mono {p : Parser α} {m : Nat} (h : Skips n p i pos) (hle : n ≤ m) :
    Skips m p i pos := by
  intro s hs
  obtain ⟨e, stop, furthest, hp, hupto⟩ := h s hs
  exact ⟨e, stop, furthest, hp, hupto.mono hle⟩

theorem Skips.bind {p : Parser α} (f : α → Parser β) (h : Skips n p i pos) :
    Skips n (p >>= f) i pos := by
  intro s hs
  obtain ⟨e, stop, furthest, hp, hupto⟩ := h s hs
  exact ⟨e, stop, furthest, parser_bind_fail hp, hupto⟩

theorem Skips.after {p : Parser α} {f : α → Parser β} {a : α} (h : Skips n (f a) i (pos + 1))
    (hp : ∀ s : State, s.pos = pos → p i s = .ok a { s with pos := s.pos + 1 }) :
    Skips n (p >>= f) i pos := by
  intro s hs
  obtain ⟨e, stop, furthest, hf, hupto⟩ := h { s with pos := s.pos + 1 } (by rw [hs])
  exact ⟨e, stop, furthest, (parser_bind_ok (hp s hs)).trans hf, hupto⟩

theorem skips_failExpecting (what : String) :
    Skips pos (failExpecting what : Parser α) i pos := by
  rintro s rfl
  exact ⟨_, s.pos, _, failExpecting_eq what, upto_later _ (Nat.le_refl _)⟩

theorem skips_expect {kind : TokenKind}
    (h : ∀ t, i.tokens[pos]? = some t → t.kind ≠ kind) : Skips pos (expect kind) i pos := by
  rintro s rfl
  have hfail : expect kind i s = failExpecting kind.label i s := by
    unfold expect
    split
    · next t ht => rw [if_neg (h t ht)]
    · rfl
  rw [hfail]
  exact skips_failExpecting _ s rfl

theorem skips_expectOperator {symbol : String}
    (h : ∀ t, i.tokens[pos]? = some t → ¬ t.isOperator symbol = true) :
    Skips pos (expectOperator symbol) i pos := by
  rintro s rfl
  have hfail : expectOperator symbol i s = failExpecting (Text.quoted symbol) i s := by
    unfold expectOperator
    split
    · next t ht => rw [if_neg (h t ht)]
    · rfl
  rw [hfail]
  exact skips_failExpecting _ s rfl

theorem firstOf_skip (otherwise : Parser α) {ps : List (Parser α)} (qs : List (Parser α))
    {s : State} (h : ∀ p ∈ ps, Skips n p i s.pos) :
    ∃ furthest, Upto n s.furthest furthest ∧
      firstOf otherwise (ps ++ qs) i s =
        firstOf otherwise qs i { s with furthest := furthest } := by
  induction ps generalizing s with
  | nil => exact ⟨s.furthest, .refl _ _, rfl⟩
  | cons p ps ih =>
      obtain ⟨e, stop, first, hp, hupto⟩ := h p List.mem_cons_self s rfl
      have hps : ∀ p' ∈ ps, Skips n p' i { s with furthest := first }.pos :=
        fun p' hp' => h p' (List.mem_cons_of_mem _ hp')
      obtain ⟨second, hupto', heq⟩ := ih hps
      refine ⟨second, hupto.trans hupto', ?_⟩
      rw [← heq]
      simp only [List.cons_append, firstOf, Parser.attempt, hp, Result.backTo]

end Skipping

/-! ## What opens a rule -/

section Openings

variable {α : Type} {i : Input} {pos : Nat} {t : Token} {expr : Parser Node}

/-- What a kind of token opens, operators apart. -/
def openingOf : TokenKind → Opening
  | .comment => .comment
  | .identifier => .name
  | .literal => .literal
  | .operator => .nothing

theorem opening_of_kind (h : t.kind ≠ .operator) :
    Opening.ofContent t.content = openingOf t.kind := by
  unfold Token.kind at h ⊢
  cases hcontent : t.content with
  | operator symbol => rw [hcontent] at h; exact (h rfl).elim
  | comment text => rfl
  | identifier name => rfl
  | literal value => rfl

theorem opens_expect (kind : TokenKind) (f : Token → Parser α) (hkind : kind ≠ .operator) :
    Opens (openingOf kind) (expect kind >>= f) := by
  intro i pos h
  refine (skips_expect fun t ht heq => h ?_).bind f
  subst heq
  rw [ht, ← opening_of_kind hkind]
  rfl

theorem opens_expectOperator {symbol : String} {o : Opening} (f : Token → Parser α)
    (hopening : Opening.ofContent (.operator symbol) = o) :
    Opens o (expectOperator symbol >>= f) := by
  intro i pos h
  refine (skips_expectOperator fun t ht hop => h ?_).bind f
  rw [ht, ← hopening, ← isOperator_iff.1 hop]
  rfl

theorem opens_comment : Opens .comment comment := opens_expect .comment _ (by decide)

theorem opens_identifier : Opens .name identifier := opens_expect .identifier _ (by decide)

theorem opens_literal : Opens .literal literal := opens_expect .literal _ (by decide)

theorem opens_assignment : Opens .name (assignment expr) := opens_expect .identifier _ (by decide)

theorem opens_call : Opens .name (call expr) := opens_expect .identifier _ (by decide)

theorem opens_function : Opens .paren (function expr) := opens_expectOperator _ (by decide)

theorem opens_block : Opens .brace (block expr) := opens_expectOperator _ (by decide)

theorem opens_listLiteral : Opens .bracket (listLiteral expr) :=
  opens_expectOperator _ (by decide)

/-- At a token that opens none of them, all rules of a list fail at once. -/
theorem skips_all {os : List Opening} {ps : List (Parser α)} (h : List.Forall₂ Opens os ps)
    (hnot : Opening.ofToken? i.tokens[pos]? ∉ os) : ∀ p ∈ ps, Skips pos p i pos := by
  induction h with
  | nil => nofun
  | cons hopens _ ih =>
      rw [List.mem_cons, not_or] at hnot
      exact List.forall_mem_cons.2 ⟨hopens i pos hnot.1, ih hnot.2⟩

/-- Behind a name, a rule that needs some operator next fails there. -/
theorem skips_behind_name (symbol : String) (f : Token → Token → Parser α)
    (ht : i.tokens[pos]? = some t) (hkind : t.kind = .identifier)
    (hnot : ∀ t', i.tokens[pos + 1]? = some t' → ¬ t'.isOperator symbol = true) :
    Skips (pos + 1) (expect .identifier >>= fun name => expectOperator symbol >>= f name) i
      pos := by
  refine .after ((skips_expectOperator hnot).bind (f t)) ?_
  rintro s rfl
  simp only [expect, ht, hkind, if_true]

end Openings

/-! ## Single rules -/

section Rules

variable {i : Input} {expr : Parser Node} {read : Reader Node} {s : State}

theorem follows_comment : Follows i Never comment Forward.comment :=
  fun _ hfresh => (meets_expect .comment (hfresh.mono (Nat.zero_le _))).andThen
    fun _ _ _ _ hfresh₁ => meets_pure _ hfresh₁

theorem meets_closedRow (h : Follows i (NodeAt joints i) expr read) (hfresh : Fresh i s 0)
    {closer : String} (hcloser : closer ∉ joints) (make : List Node → Token → Node) :
    Meets i s 0 Never
      ((do let found ← Forward.row read closer
           let last ← Forward.operator closer
           return make found last : Reader Node) (i.left s.pos))
      ((do let found ← separated expr closer
           let last ← expectOperator closer
           return make found last : Parser Node) i s) := by
  refine (follows_separated h (fun _ _ hat => hat.2) closer s hfresh).bind ?_
    fun found s₁ _ _ hfresh₁ => ?_
  · intro found s₁ m hat hlt hbeyond
    obtain ⟨e, he⟩ := expectOperator_quiet (hat.not_isOperator hcloser) hbeyond hlt
    exact givenUp_of_fail (parser_bind_fail he)
  · exact (meets_expectOperator closer (hfresh₁.mono (Nat.zero_le _))).andThen
      fun last s₂ _ _ hfresh₂ => meets_pure _ hfresh₂

theorem follows_listLiteral (h : Follows i (NodeAt joints i) expr read) :
    Follows i Never (listLiteral expr) (Forward.listLiteral read) :=
  fun _ hfresh => (meets_expectOperator "[" (hfresh.mono (Nat.zero_le _))).andThen
    fun opener _ _ _ hfresh₁ => meets_closedRow h hfresh₁ (by decide)
      fun found last => .list found (opener.span.merge last.span)

theorem follows_block (h : Follows i (NodeAt joints i) expr read) (hadvances : read.Advances)
    (hhalts : Halts read) : Follows i Never (block expr) (Forward.block i.finish read) := by
  intro s hfresh
  refine (meets_expectOperator "\x7b" (hfresh.mono (Nat.zero_le _))).andThen
    fun opener s₁ _ _ hfresh₁ => ?_
  refine (meets_statementItems h hadvances hhalts hfresh₁).bind ?_
    fun found s₂ _ _ hfresh₂ => ?_
  · rintro ⟨items, inner⟩ s₂ m ⟨t, ht, hnot⟩ hlt hbeyond
    have hmissing : ∀ t', i.tokens[s₂.pos]? = some t' → ¬ t'.isOperator "\x7d" = true := by
      intro t' ht'
      rw [ht] at ht'
      cases ht'
      exact hnot
    obtain ⟨e, he⟩ := expectOperator_quiet hmissing hbeyond hlt
    exact givenUp_of_fail (parser_bind_fail he)
  · exact (meets_expectOperator "\x7d" hfresh₂).andThen fun closer s₃ _ _ hfresh₃ =>
      meets_pure _ hfresh₃

/-- A node made from an inner expression at its end is stuck where that is. -/
theorem meets_wrapped (h : Follows i (NodeAt joints i) expr read) (hfresh : Fresh i s 0)
    (make : Node → Node) (hmake : ∀ node, (make node).isComment = false) :
    Meets i s 0 (NodeAt joints i) ((read >>= fun node => pure (make node)) (i.left s.pos))
      ((expr >>= fun node => pure (make node)) i s) :=
  (h s hfresh).bind
    (fun node _ _ hat hlt _ => ⟨⟨hlt, hmake node, hat.2⟩, rfl, rfl⟩)
    (fun _ _ _ _ hfresh₁ => meets_pure _ hfresh₁)

theorem meets_function (h : Follows i (NodeAt joints i) expr read) (hfresh : Fresh i s 0)
    {t : Token} (ht : i.tokens[s.pos]? = some t) (hop : t.isOperator "(" = true) :
    Meets i { s with pos := s.pos + 1 } 0 (NodeAt joints i)
      (Forward.function read (i.left s.pos)) (function expr i s) := by
  have hopener : expectOperator "(" i s = .ok t { s with pos := s.pos + 1 } := by
    simp only [expectOperator, ht, hop, if_true]
  unfold function Forward.function
  rw [parser_bind_ok hopener, left_of_some ht, Forward.bind_of_ok (Forward.operator_of hop)]
  have hname : Follows i Never (expect .identifier) (Forward.ofKind .identifier) :=
    fun s' hfresh' => meets_expect .identifier (hfresh'.mono (Nat.zero_le _))
  refine (follows_separated hname (fun _ _ hnever => hnever.elim) ")" _
    ((hfresh.mono (Nat.zero_le _)).next ht)).bind ?_ fun params s₂ _ _ hfresh₂ => ?_
  · intro params s₂ m hat hlt hbeyond
    have hnot := hat.not_isOperator (by decide : ")" ∉ joints)
    obtain ⟨e, he⟩ := expectOperator_quiet hnot hbeyond hlt
    exact givenUp_of_fail (parser_bind_fail he)
  · refine (meets_expectOperator ")" (hfresh₂.mono (Nat.zero_le _))).andThen
      fun _ s₃ _ _ hfresh₃ => ?_
    refine (meets_expectOperator "=>" (hfresh₃.mono (Nat.zero_le _))).andThen
      fun _ s₄ _ _ hfresh₄ => ?_
    exact meets_wrapped h hfresh₄ (fun body => .function (params.map textOf) body
      (t.span.merge body.span)) fun _ => rfl

theorem meets_assignment (h : Follows i (NodeAt joints i) expr read) (hfresh : Fresh i s 0)
    {t t' : Token} (ht : i.tokens[s.pos]? = some t) (hkind : t.kind = .identifier)
    (ht' : i.tokens[s.pos + 1]? = some t') (hop : t'.isOperator "=" = true) :
    Meets i { s with pos := s.pos + 1 + 1 } 0 (NodeAt joints i)
      ((read >>= fun value => pure (.assignment (textOf t) value (t.span.merge value.span)))
        (i.left (s.pos + 1 + 1)))
      (assignment expr i s) := by
  have hname : expect .identifier i s = .ok t { s with pos := s.pos + 1 } := by
    simp only [expect, ht, hkind, if_true]
  have hequals : expectOperator "=" i { s with pos := s.pos + 1 } =
      .ok t' { s with pos := s.pos + 1 + 1 } := by
    simp only [expectOperator, ht', hop, if_true]
  unfold assignment
  rw [parser_bind_ok hname, parser_bind_ok hequals]
  have hfresh₁ : Fresh i { s with pos := s.pos + 1 } 0 := (hfresh.mono (Nat.zero_le 1)).next ht
  have hfresh₂ : Fresh i { s with pos := s.pos + 1 + 1 } 0 :=
    (hfresh₁.mono (Nat.zero_le 1)).next ht'
  exact meets_wrapped h hfresh₂ _ fun _ => rfl

end Rules

/-! ## One rule among alternatives that fail at once -/

section Alternatives

variable {α : Type} {i : Input} {s s₁ : State} {room : Nat} {stuck : α → State → Prop}
  {v : Verdict α} {p : Parser α} {ps : List (Parser α)}

/-- A failure up to token `n` recorded first does not matter to a run that gets there. -/
theorem Fresh.recorded (h : Fresh i s room) (furthest : Option Failure) :
    Fresh i { s with furthest := furthest } room :=
  ⟨h.within, h.clean⟩

theorem Moved.recorded {furthest : Option Failure} (h : Upto s.pos s.furthest furthest) :
    Moved s { s with furthest := furthest } :=
  ⟨Nat.le_refl _, h, .refl _ _⟩

/-- Only when the first alternative fails, the parser goes back and tries the others. -/
theorem Meets.orElse {s₂ : State} {otherwise : Parser α} (h : Meets i s₂ room stuck v (p i s₁))
    (hmoved : Moved s s₂)
    (hfail : ∀ cause m e s', v = .stop cause (i.left m) → p i s₁ = .fail e s' →
      Stopped i s₂ cause m s' →
      Meets i s room stuck v (firstOf otherwise ps i { s' with pos := s₁.pos })) :
    Meets i s room stuck v (firstOf otherwise (p :: ps) i s₁) := by
  have hmeets := h.moved hmoved
  cases hr : p i s₁ with
  | ok a s' =>
      rw [hr] at hmeets
      simpa only [firstOf, Parser.attempt, hr, Result.backTo] using hmeets
  | tooDeep s' =>
      rw [hr] at hmeets
      simpa only [firstOf, Parser.attempt, hr, Result.backTo] using hmeets
  | fail e s' =>
      simp only [firstOf, Parser.attempt, hr, Result.backTo]
      rw [hr] at h
      cases v with
      | ok a rest => obtain ⟨_, hok, -⟩ := h; cases hok
      | deep rest => obtain ⟨_, hdeep, -⟩ := h; cases hdeep
      | stop cause rest =>
          obtain ⟨m, rfl, hstopped, -⟩ := h
          exact hfail cause m e s' rfl hr hstopped

/-- Where the rule stops behind its first token, the failures of the alternatives
left are not kept. -/
theorem Meets.alternative (h : Meets i s room stuck v (p i s₁)) (hpos : s₁.pos = s.pos)
    (hlt : ∀ cause rest, v = .stop cause rest → rest.length < (i.left s.pos).length)
    (hps : ∀ p' ∈ ps, Skips s.pos p' i s.pos) (what : String) :
    Meets i s room stuck v (firstOf (failExpecting what) (p :: ps) i s₁) := by
  refine h.orElse (.refl s) fun cause m e s' hv hr hstopped => ?_
  have hm : s.pos < m := lt_of_length_left (hlt _ _ hv)
  have hskip : ∀ p' ∈ ps, Skips s.pos p' i { s' with pos := s₁.pos }.pos := by
    rw [hpos]
    exact hps
  obtain ⟨furthest, hupto, heq⟩ := firstOf_skip (failExpecting what) [] hskip
  have hkept : furthest = s'.furthest := hupto.eq_of_beyond hstopped.beyond hm
  have hresult : firstOf (failExpecting what) ps i { s' with pos := s₁.pos } =
      .fail (i.missing s.pos what) { s' with pos := s.pos } := by
    rw [List.append_nil] at heq
    rw [heq, hkept, hpos]
    exact failExpecting_quiet what hstopped.beyond hm
  rw [hresult, hv]
  exact ⟨m, rfl, hstopped.quiet ⟨rfl, rfl⟩, trivial⟩

end Alternatives

/-! ## Terms -/

section FreshTerms

variable {i : Input} {expr : Parser Node} {read : Reader Node} {s : State} {t : Token}

theorem token_of_opening {o : Opening} (h : Opening.ofToken? i.tokens[s.pos]? = o)
    (ho : o ≠ .nothing) :
    ∃ t, i.tokens[s.pos]? = some t ∧ Opening.ofContent t.content = o := by
  cases ht : i.tokens[s.pos]? with
  | none => rw [ht] at h; exact (ho h.symm).elim
  | some t => rw [ht] at h; exact ⟨t, rfl, h⟩

theorem opening_of_name (ht : i.tokens[s.pos]? = some t) (hkind : t.kind = .identifier) :
    Opening.ofToken? i.tokens[s.pos]? = .name := by
  rw [ht]
  exact (opening_of_kind (by rw [hkind]; decide)).trans (by rw [hkind]; rfl)

theorem identifier_eq (ht : i.tokens[s.pos]? = some t) (hkind : t.kind = .identifier) :
    identifier i s = .ok (.identifier (textOf t) t.span) { s with pos := s.pos + 1 } := by
  have hname : expect .identifier i s = .ok t { s with pos := s.pos + 1 } := by
    simp only [expect, ht, hkind, if_true]
  exact parser_bind_ok hname

/-- A name is read as such once the other terms have failed. -/
theorem firstOf_identifier (expr otherwise : Parser Node) (ht : i.tokens[s.pos]? = some t)
    (hkind : t.kind = .identifier) :
    ∃ furthest, Upto s.pos s.furthest furthest ∧
      firstOf otherwise [block expr, listLiteral expr, literal, identifier] i s =
        .ok (.identifier (textOf t) t.span) { s with pos := s.pos + 1, furthest := furthest } := by
  have hopening := opening_of_name ht hkind
  have hskip : ∀ p ∈ [block expr, listLiteral expr, literal], Skips s.pos p i s.pos :=
    skips_all (.cons opens_block (.cons opens_listLiteral (.cons opens_literal .nil)))
      (by rw [hopening]; decide)
  obtain ⟨furthest, hupto, heq⟩ := firstOf_skip otherwise [identifier] hskip
  have hname : identifier i { s with furthest := furthest } = _ := identifier_eq ht hkind
  refine ⟨furthest, hupto, heq.trans ?_⟩
  simp only [firstOf, Parser.attempt, hname, Result.backTo]

theorem freshTerm_name (expr : Parser Node) (ht : i.tokens[s.pos]? = some t)
    (hkind : t.kind = .identifier)
    (hnot : ∀ t', i.tokens[s.pos + 1]? = some t' → ¬ t'.isOperator "(" = true) :
    ∃ furthest, Upto (s.pos + 1) s.furthest furthest ∧
      freshTerm expr i s =
        .ok (.identifier (textOf t) t.span) { s with pos := s.pos + 1, furthest := furthest } := by
  obtain ⟨e, stop, first, hcall, hupto⟩ := skips_behind_name "(" _ ht hkind hnot s rfl
  obtain ⟨furthest, hupto', heq⟩ :=
    firstOf_identifier (s := { s with furthest := first }) expr (failExpecting "term") ht hkind
  refine ⟨furthest, hupto.trans (hupto'.mono (Nat.le_succ _)), ?_⟩
  rw [← heq]
  have hfail : call expr i s = .fail e { s with pos := stop, furthest := first } := hcall
  simp only [freshTerm, firstOf, Parser.attempt, hfail, Result.backTo]

theorem firstOf_noTerm (expr otherwise : Parser Node)
    (h : Opening.ofToken? i.tokens[s.pos]? ∉ [Opening.name, .brace, .bracket, .literal, .name]) :
    ∃ furthest, Upto s.pos s.furthest furthest ∧
      firstOf otherwise [call expr, block expr, listLiteral expr, literal, identifier] i s =
        otherwise i { s with furthest := furthest } := by
  have hskip : ∀ p ∈ [call expr, block expr, listLiteral expr, literal, identifier],
      Skips s.pos p i s.pos :=
    skips_all (.cons opens_call (.cons opens_block (.cons opens_listLiteral
      (.cons opens_literal (.cons opens_identifier .nil))))) h
  exact firstOf_skip otherwise [] hskip

theorem meets_call (h : Follows i (NodeAt joints i) expr read) (hfresh : Fresh i s 0)
    {t' : Token} (ht : i.tokens[s.pos]? = some t) (hkind : t.kind = .identifier)
    (ht' : i.tokens[s.pos + 1]? = some t') (hop : t'.isOperator "(" = true) :
    Meets i { s with pos := s.pos + 1 + 1 } 0 Never
      (Forward.arguments read t (i.left (s.pos + 1 + 1))) (call expr i s) := by
  have hname : expect .identifier i s = .ok t { s with pos := s.pos + 1 } := by
    simp only [expect, ht, hkind, if_true]
  have hopener : expectOperator "(" i { s with pos := s.pos + 1 } =
      .ok t' { s with pos := s.pos + 1 + 1 } := by
    simp only [expectOperator, ht', hop, if_true]
  unfold call
  rw [parser_bind_ok hname, parser_bind_ok hopener]
  have hfresh₁ : Fresh i { s with pos := s.pos + 1 } 0 := (hfresh.mono (Nat.zero_le 1)).next ht
  have hfresh₂ : Fresh i { s with pos := s.pos + 1 + 1 } 0 :=
    (hfresh₁.mono (Nat.zero_le 1)).next ht'
  exact meets_closedRow h hfresh₂ (by decide)
    fun found last => .call (textOf t) found (t.span.merge last.span)

/-- A call that fails is a name, in front of its `(`. -/
theorem meets_freshTerm_call (h : Follows i (NodeAt joints i) expr read) (hfresh : Fresh i s 0)
    {t' : Token} (ht : i.tokens[s.pos]? = some t) (hkind : t.kind = .identifier)
    (ht' : i.tokens[s.pos + 1]? = some t') (hop : t'.isOperator "(" = true) :
    Meets i s 0 (NodeAt ["("] i) (Forward.arguments read t (i.left (s.pos + 1 + 1)))
      (freshTerm expr i s) := by
  have hmoved : Moved s { s with pos := s.pos + 1 + 1 } :=
    ⟨Nat.le_add_right s.pos 2, .refl _ _, .refl _ _⟩
  have hcall := meets_call h hfresh ht hkind ht' hop
  refine (hcall.weaken fun _ _ => False.elim).orElse hmoved fun cause m e s' hv hr hstopped => ?_
  have hm : s.pos + 1 < m := hstopped.le
  obtain ⟨furthest, hupto, heq⟩ :=
    firstOf_identifier (s := { s' with pos := s.pos }) expr (failExpecting "term") ht hkind
  have hkept : furthest = s'.furthest := hupto.eq_of_beyond hstopped.beyond (Nat.lt_of_succ_lt hm)
  rw [heq, hkept, hv]
  refine ⟨m, rfl, (hmoved.stopped hstopped).quiet ⟨rfl, rfl⟩, hm, rfl, ?_⟩
  exact ⟨t', "(", ht', isOperator_iff.1 hop, List.mem_singleton.2 rfl⟩

/-- A term that does not stop at its first token, among terms that fail at once. -/
theorem meets_opened {before after : List (Parser Node)} {p : Parser Node} {q : Reader Node}
    (hp : Follows i Never p q)
    (hstop : ∀ cause rest, q (i.left s.pos) = .stop cause rest →
      rest.length < (i.left s.pos).length)
    (hbefore : ∀ p' ∈ before, Skips s.pos p' i s.pos)
    (hafter : ∀ p' ∈ after, Skips s.pos p' i s.pos) (hfresh : Fresh i s 0) :
    Meets i s 0 (NodeAt ["("] i) (q (i.left s.pos))
      (firstOf (failExpecting "term") (before ++ p :: after) i s) := by
  obtain ⟨furthest, hupto, heq⟩ := firstOf_skip (failExpecting "term") (p :: after) hbefore
  rw [heq]
  have hmeets := (hp _ (hfresh.recorded furthest)).moved (.recorded hupto)
  exact (hmeets.weaken fun _ _ => False.elim).alternative rfl hstop hafter "term"

theorem follows_literal : Follows i Never literal Forward.literal := by
  intro s hfresh
  refine (meets_expect .literal (hfresh.mono (Nat.zero_le _))).andThen
    fun token s₁ _ _ hfresh₁ => ?_
  cases token.content with
  | literal value => exact meets_pure _ hfresh₁
  | comment _ => exact meets_failExpecting _ (hfresh₁.mono (Nat.zero_le _))
  | identifier _ => exact meets_failExpecting _ (hfresh₁.mono (Nat.zero_le _))
  | operator _ => exact meets_failExpecting _ (hfresh₁.mono (Nat.zero_le _))

theorem meets_freshTerm_name (h : Follows i (NodeAt joints i) expr read) (hfresh : Fresh i s 0)
    (ht : i.tokens[s.pos]? = some t) (hkind : t.kind = .identifier) :
    Meets i s 0 (NodeAt ["("] i) (Forward.afterName read t (i.left (s.pos + 1)))
      (freshTerm expr i s) := by
  unfold Forward.afterName
  by_cases hcall : ∃ t', i.tokens[s.pos + 1]? = some t' ∧ t'.isOperator "(" = true
  · obtain ⟨t', ht', hop⟩ := hcall
    have hopener : Forward.accept "(" (i.left (s.pos + 1)) =
        .ok (some t') (i.left (s.pos + 1 + 1)) := by
      rw [left_of_some ht']
      exact Forward.accept_of hop
    rw [Forward.bind_of_ok hopener]
    exact meets_freshTerm_call h hfresh ht hkind ht' hop
  · have hnot : ∀ t', i.tokens[s.pos + 1]? = some t' → ¬ t'.isOperator "(" = true :=
      fun t' ht' hop => hcall ⟨t', ht', hop⟩
    have hopener : Forward.accept "(" (i.left (s.pos + 1)) = .ok none (i.left (s.pos + 1)) :=
      Forward.accept_of_not (by rw [head?_left]; exact hnot)
    rw [Forward.bind_of_ok hopener]
    obtain ⟨furthest, hupto, heq⟩ := freshTerm_name expr ht hkind hnot
    rw [heq]
    exact ⟨_, rfl, rfl, ⟨Nat.le_succ _, hupto, .refl _ _⟩,
      ((hfresh.mono (Nat.zero_le _)).next ht).recorded _⟩

/-- At most one kind of term begins with the next token. -/
theorem follows_freshTerm (h : Follows i (NodeAt joints i) expr read) (hadvances : read.Advances)
    (hhalts : Halts read) :
    Follows i (NodeAt ["("] i) (freshTerm expr) (Forward.term i.finish read) := by
  intro s hfresh
  have hlt : ∀ cause rest, Opening.ofToken? (i.left s.pos).head? ∈
        [Opening.name, .literal, .brace, .bracket] →
      Forward.term i.finish read (i.left s.pos) = .stop cause rest →
      rest.length < (i.left s.pos).length :=
    fun _ _ => Forward.length_lt_of_term_stop i.finish hadvances
  rw [Forward.term_apply, head?_left] at hlt ⊢
  have hnone : Opening.ofToken? i.tokens[s.pos]? ∉
        [Opening.name, .brace, .bracket, .literal, .name] →
      Meets i s 0 (NodeAt ["("] i) (Forward.refuse "term" (i.left s.pos))
        (freshTerm expr i s) := by
    intro hno
    obtain ⟨furthest, hupto, heq⟩ := firstOf_noTerm expr (failExpecting "term") hno
    unfold freshTerm
    rw [heq]
    exact (meets_failExpecting "term" ((hfresh.mono (Nat.zero_le _)).recorded _)).moved
      (.recorded hupto)
  cases hopen : Opening.ofToken? i.tokens[s.pos]? with
  | comment => exact hnone (by rw [hopen]; decide)
  | paren => exact hnone (by rw [hopen]; decide)
  | nothing => exact hnone (by rw [hopen]; decide)
  | name =>
      obtain ⟨t, ht, hcontent⟩ := token_of_opening hopen (by decide)
      have hkind : t.content.kind = .identifier := by
        simpa only [hcontent] using Forward.content_of_opening t.content
      have hname : Forward.ofKind .identifier (i.left s.pos) = .ok t (i.left (s.pos + 1)) := by
        rw [left_of_some ht]
        exact Forward.ofKind_of hkind
      dsimp only
      rw [Forward.bind_of_ok hname]
      exact meets_freshTerm_name h hfresh ht hkind
  | literal =>
      rw [hopen] at hlt
      exact meets_opened follows_literal (fun _ _ => hlt _ _ (by decide))
        (skips_all (.cons opens_call (.cons opens_block (.cons opens_listLiteral .nil)))
          (by rw [hopen]; decide))
        (skips_all (.cons opens_identifier .nil) (by rw [hopen]; decide)) hfresh
  | brace =>
      rw [hopen] at hlt
      exact meets_opened (follows_block h hadvances hhalts) (fun _ _ => hlt _ _ (by decide))
        (skips_all (.cons opens_call .nil) (by rw [hopen]; decide))
        (skips_all (.cons opens_listLiteral (.cons opens_literal (.cons opens_identifier .nil)))
          (by rw [hopen]; decide)) hfresh
  | bracket =>
      rw [hopen] at hlt
      exact meets_opened (follows_listLiteral h) (fun _ _ => hlt _ _ (by decide))
        (skips_all (.cons opens_call (.cons opens_block .nil)) (by rw [hopen]; decide))
        (skips_all (.cons opens_literal (.cons opens_identifier .nil))
          (by rw [hopen]; decide)) hfresh

end FreshTerms

end Parser

end Scriptlet
