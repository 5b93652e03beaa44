/-
# The furthest failure is the first token that does not fit

The parser goes back wherever an alternative fails, and explains a whole parse
that fails by the failure that got furthest.  Here it is compared with the
readers of `Forward`, which never go back: where a reader stops, the parser has
recorded just that cause at just that token, whatever it tries afterwards.

`Meets` is the comparison for one run.  A reader that takes its tokens is met by
a parser that does, with no failure recorded behind them.  A reader that stops is
met by a parser that has given up: it failed, or it succeeded with less than it
was asked for and left a token in front of which nothing that calls it can go on
(a name with its `(`, a target with its `=`, an operand with its operator).
Either way every failure that is recorded later lies further to the front, and so
the one at the stop remains.

All of this holds with memory and without.  A term is asked for twice, as the
left side of an operator and by itself.  With memory the second time records
nothing; without, it records what the first time did, which lies no further than
the term or is the failure that was recorded last.  That no other term is in
memory when it is asked for, is what `Clean` is for.
-/
import Scriptlet.Proofs.Syntax.Forward
import Scriptlet.Proofs.Syntax.Memory

namespace Scriptlet

open Forward (Verdict Reader)

namespace Parser

/-! ## The tokens that are left -/

/-- The tokens from `pos` on. -/
def Input.left (i : Input) (pos : Nat) : List Token := i.tokens.toList.drop pos

section Left

variable {i : Input} {pos : Nat} {t : Token} {rest : List Token}

theorem head?_left (i : Input) (pos : Nat) : (i.left pos).head? = i.tokens[pos]? := by
  simp [Input.left]

theorem left_of_some (h : i.tokens[pos]? = some t) : i.left pos = t :: i.left (pos + 1) := by
  obtain ⟨hlt, rfl⟩ := Array.getElem?_eq_some_iff.1 h
  have hlist : pos < i.tokens.toList.length := hlt
  simp only [Input.left, List.drop_eq_getElem_cons hlist, Array.getElem_toList]

theorem left_of_none (h : i.tokens[pos]? = none) : i.left pos = [] := by
  have hle : i.tokens.toList.length ≤ pos := Array.getElem?_eq_none_iff.1 h
  simp only [Input.left, List.drop_eq_nil_of_le hle]

theorem length_left : (i.left pos).length = i.tokens.size - pos := by
  simp [Input.left]

theorem lt_of_length_left {m : Nat} (h : (i.left m).length < (i.left pos).length) : pos < m := by
  rw [length_left, length_left] at h
  omega

theorem hereSpan_eq (i : Input) (pos : Nat) :
    i.hereSpan pos = Forward.placeOf i.finish (i.left pos).head? := by
  rw [head?_left]
  unfold Input.hereSpan
  cases i.tokens[pos]? <;> rfl

end Left

/-! ## Recorded failures -/

/-- From `old` to `new`, failures were recorded at most up to token `n`. -/
def Upto (n : Nat) (old new : Option Failure) : Prop :=
  new = old ∨ ∃ f, new = some f ∧ f.index ≤ n ∧ ∀ g, old = some g → g.index ≤ f.index

/-- A failure at `m` or behind it is recorded. -/
def Beyond (m : Nat) (furthest : Option Failure) : Prop := ∃ f, furthest = some f ∧ m ≤ f.index

section Failures

variable {n m : Nat} {a b c : Option Failure} {f : Failure}

theorem Upto.refl (n : Nat) (a : Option Failure) : Upto n a a := .inl rfl

theorem Upto.mono (h : Upto n a b) (hle : n ≤ m) : Upto m a b := by
  rcases h with h | ⟨f, hf, hn, hold⟩
  · exact .inl h
  · exact .inr ⟨f, hf, Nat.le_trans hn hle, hold⟩

theorem Upto.trans (h : Upto n a b) (h' : Upto n b c) : Upto n a c := by
  rcases h' with rfl | ⟨f, hf, hn, hold⟩
  · exact h
  · rcases h with rfl | ⟨g, hg, -, hold'⟩
    · exact .inr ⟨f, hf, hn, hold⟩
    · refine .inr ⟨f, hf, hn, ?_⟩
      intro k hk
      exact Nat.le_trans (hold' k hk) (hold g hg)

theorem upto_later (a : Option Failure) (h : f.index ≤ n) : Upto n a (later a f) := by
  unfold later
  cases a with
  | none => exact .inr ⟨f, rfl, h, nofun⟩
  | some g =>
      by_cases hle : g.index ≤ f.index
      · refine .inr ⟨f, by simp only [hle, if_true], h, ?_⟩
        rintro k hk
        cases hk
        exact hle
      · exact .inl (by simp only [hle, if_false])

theorem beyond_later (a : Option Failure) (f : Failure) : Beyond f.index (later a f) := by
  unfold later
  cases a with
  | none => exact ⟨f, rfl, Nat.le_refl _⟩
  | some g =>
      by_cases hle : g.index ≤ f.index
      · exact ⟨f, by simp only [hle, if_true], Nat.le_refl _⟩
      · exact ⟨g, by simp only [hle, if_false], by omega⟩

/-- What was recorded up to a failure is forgotten when that is recorded. -/
theorem later_of_upto (h : Upto f.index a b) : later b f = later a f := by
  rcases h with rfl | ⟨g, rfl, hle, hold⟩
  · rfl
  · cases a with
    | none => simp only [later, hle, if_true]
    | some k => simp only [later, hle, Nat.le_trans (hold k rfl) hle, if_true]

/-- What is recorded in front of the furthest failure is not kept. -/
theorem Upto.eq_of_beyond (h : Upto n a b) (hbeyond : Beyond m a) (hlt : n < m) : b = a := by
  rcases h with h | ⟨g, -, hle, hold⟩
  · exact h
  · obtain ⟨k, hk, hm⟩ := hbeyond
    have := hold k hk
    omega

theorem later_of_beyond (h : Beyond m a) (hlt : f.index < m) : later a f = a :=
  (upto_later a (Nat.le_refl f.index)).eq_of_beyond h hlt

theorem later_later (a : Option Failure) (f : Failure) : later (later a f) f = later a f :=
  later_of_upto (upto_later a (Nat.le_refl _))

end Failures

/-! ## Memory during a parse that begins with none -/

/-- If terms are remembered, none is that begins at `n` or behind it. -/
def Clean (i : Input) (memory : Memory) (n : Nat) : Prop :=
  i.remember = true → ∀ q, n ≤ q → memory[q]? = none

/-- What is remembered of terms that begin in front of `n` is the same. -/
def Kept (n : Nat) (old new : Memory) : Prop := ∀ q, q < n → new[q]? = old[q]?

section Remembered

variable {i : Input} {n m : Nat} {a b c : Memory}

theorem Clean.mono (h : Clean i a n) (hle : n ≤ m) : Clean i a m :=
  fun hremember q hq => h hremember q (Nat.le_trans hle hq)

theorem Kept.refl (n : Nat) (a : Memory) : Kept n a a := fun _ _ => rfl

theorem Kept.trans (h : Kept n a b) (h' : Kept m b c) (hle : n ≤ m) : Kept n a c :=
  fun q hq => (h' q (Nat.lt_of_lt_of_le hq hle)).trans (h q hq)

end Remembered

/-- The cursor lies within the input, and terms are remembered only in front of the
`room`-th token from the cursor on. -/
structure Fresh (i : Input) (s : State) (room : Nat) : Prop where
  within : s.pos ≤ i.tokens.size
  clean : Clean i s.memory (s.pos + room)

theorem Fresh.mono {i : Input} {s : State} {room room' : Nat} (h : Fresh i s room)
    (hle : room ≤ room') : Fresh i s room' :=
  ⟨h.within, h.clean.mono (Nat.add_le_add_left hle _)⟩

/-- Moving past a token uses up one place of the room. -/
theorem Fresh.next {i : Input} {s : State} {t : Token} (h : Fresh i s 1)
    (ht : i.tokens[s.pos]? = some t) : Fresh i { s with pos := s.pos + 1 } 0 :=
  ⟨(Array.getElem?_eq_some_iff.1 ht).1, h.clean⟩

/-! ## A parser that meets a reader -/

section Meets

variable {α β : Type}

/-- The parser failed, or it succeeded in front of `m` and is `stuck` there. -/
def Result.GivenUp (stuck : α → State → Prop) (m : Nat) : Result α → Prop
  | .ok a s => s.pos < m ∧ stuck a s
  | .fail _ _ => True
  | .tooDeep _ => False

/-- The cursor moved on, and no failure was recorded behind it. -/
structure Moved (s s' : State) : Prop where
  le : s.pos ≤ s'.pos
  upto : Upto s'.pos s.furthest s'.furthest
  kept : Kept s.pos s.memory s'.memory

/-- A failure was recorded at `m`, and nothing behind it. -/
structure Stopped (i : Input) (s : State) (cause : Cause) (m : Nat) (s' : State) : Prop where
  le : s.pos ≤ m
  within : m ≤ i.tokens.size
  furthest : s'.furthest = later s.furthest ⟨cause, i.cursorSpan m, m⟩
  kept : Kept s.pos s.memory s'.memory
  clean : Clean i s'.memory (m + 1)

/-- The parser ends as the reader does, with a memory that is `Fresh` up to `room`. -/
def Meets (i : Input) (s : State) (room : Nat) (stuck : α → State → Prop) :
    Verdict α → Result α → Prop
  | .ok a rest, r => ∃ s', r = .ok a s' ∧ i.left s'.pos = rest ∧ Moved s s' ∧ Fresh i s' room
  | .stop cause rest, r => ∃ m, i.left m = rest ∧ Stopped i s cause m r.state ∧
      r.GivenUp stuck m
  | .deep rest, r => ∃ s', r = .tooDeep s' ∧ i.left s'.pos = rest

/-- Nothing of the state but the cursor has changed. -/
def Quiet (s : State) (s' : State) : Prop := s'.furthest = s.furthest ∧ s'.memory = s.memory

def Never {α : Type} (_ : α) (_ : State) : Prop := False

variable {i : Input} {s s' : State} {room room' m n : Nat} {stuck : α → State → Prop}
  {stuck' : β → State → Prop} {cause : Cause}

theorem Moved.refl (s : State) : Moved s s := ⟨Nat.le_refl _, .refl _ _, .refl _ _⟩

theorem Moved.next (s : State) : Moved s { s with pos := s.pos + 1 } :=
  ⟨Nat.le_succ _, .refl _ _, .refl _ _⟩

theorem Moved.trans {s'' : State} (h : Moved s s') (h' : Moved s' s'') : Moved s s'' where
  le := Nat.le_trans h.le h'.le
  upto := (h.upto.mono h'.le).trans h'.upto
  kept := h.kept.trans h'.kept h.le

theorem Moved.stopped {s'' : State} (h : Moved s s') (h' : Stopped i s' cause m s'') :
    Stopped i s cause m s'' where
  le := Nat.le_trans h.le h'.le
  within := h'.within
  furthest := h'.furthest.trans (later_of_upto (h.upto.mono h'.le))
  kept := h.kept.trans h'.kept h.le
  clean := h'.clean

theorem Stopped.beyond (h : Stopped i s cause m s') : Beyond m s'.furthest := by
  rw [h.furthest]
  exact beyond_later _ _

theorem Stopped.quiet {s'' : State} (h : Stopped i s cause m s') (hquiet : Quiet s' s'') :
    Stopped i s cause m s'' :=
  ⟨h.le, h.within, hquiet.1.trans h.furthest, hquiet.2 ▸ h.kept, hquiet.2 ▸ h.clean⟩

/-- A parser met by a reader, seen from further to the front. -/
theorem Meets.moved {v : Verdict α} {r : Result α} (h : Moved s s')
    (hmeets : Meets i s' room stuck v r) : Meets i s room stuck v r := by
  cases v with
  | ok a rest =>
      obtain ⟨s'', hr, hleft, hmoved, hfresh⟩ := hmeets
      exact ⟨s'', hr, hleft, h.trans hmoved, hfresh⟩
  | stop cause rest =>
      obtain ⟨m, hleft, hstopped, hgiven⟩ := hmeets
      exact ⟨m, hleft, h.stopped hstopped, hgiven⟩
  | deep rest => exact hmeets

theorem Meets.weaken {weaker : α → State → Prop} {v : Verdict α} {r : Result α}
    (h : Meets i s room stuck v r) (hweaker : ∀ a s', stuck a s' → weaker a s') :
    Meets i s room weaker v r := by
  cases v with
  | ok a rest => exact h
  | deep rest => exact h
  | stop cause rest =>
      obtain ⟨m, hleft, hstopped, hgiven⟩ := h
      refine ⟨m, hleft, hstopped, ?_⟩
      cases r with
      | ok a s' => exact ⟨hgiven.1, hweaker a s' hgiven.2⟩
      | fail e s' => trivial
      | tooDeep s' => exact hgiven

theorem meets_pure (a : α) (hfresh : Fresh i s room) :
    Meets i s room stuck ((pure a : Reader α) (i.left s.pos)) ((pure a : Parser α) i s) :=
  ⟨s, rfl, rfl, .refl s, hfresh⟩

section Sequences

variable {p : Parser α} {f : α → Parser β}

theorem givenUp_of_fail {r : Result α} {e : Failure} (h : r = .fail e s) :
    r.GivenUp stuck m ∧ Quiet s r.state := by
  subst h
  exact ⟨trivial, rfl, rfl⟩

/-- In sequence.  Where the first parser is stuck, the second has to give up and
must not record anything. -/
theorem Meets.bind {q : Reader α} {g : α → Reader β} {ts : List Token}
    (h : Meets i s room stuck (q ts) (p i s))
    (hstuck : ∀ a s' m, stuck a s' → s'.pos < m → Beyond m s'.furthest →
      (f a i s').GivenUp stuck' m ∧ Quiet s' (f a i s').state)
    (hok : ∀ a s', q ts = .ok a (i.left s'.pos) → Moved s s' →
      Fresh i s' room →
      Meets i s' room' stuck' (g a (i.left s'.pos)) (f a i s')) :
    Meets i s room' stuck' ((q >>= g) ts) ((p >>= f) i s) := by
  cases hq : q ts with
  | ok a rest =>
      rw [hq] at h
      obtain ⟨s', hp, rfl, hmoved, hfresh⟩ := h
      rw [Forward.bind_of_ok hq, parser_bind_ok hp]
      exact (hok a s' hq hmoved hfresh).moved hmoved
  | stop cause rest =>
      rw [hq] at h
      obtain ⟨m, hleft, hstopped, hgiven⟩ := h
      rw [Forward.bind_of_stop hq]
      cases hp : p i s with
      | ok a s' =>
          rw [hp] at hstopped hgiven
          obtain ⟨hgiven', hquiet⟩ := hstuck a s' m hgiven.2 hgiven.1 hstopped.beyond
          rw [parser_bind_ok hp]
          exact ⟨m, hleft, hstopped.quiet hquiet, hgiven'⟩
      | fail e s' =>
          rw [hp] at hstopped
          rw [parser_bind_fail hp]
          exact ⟨m, hleft, hstopped, trivial⟩
      | tooDeep s' =>
          rw [hp] at hgiven
          exact hgiven.elim
  | deep rest =>
      rw [hq] at h
      obtain ⟨s', hp, hleft⟩ := h
      rw [Forward.bind_of_deep hq, parser_bind_tooDeep hp]
      exact ⟨s', rfl, hleft⟩

theorem Meets.andThen {q : Reader α} {g : α → Reader β} {ts : List Token}
    (h : Meets i s room Never (q ts) (p i s))
    (hok : ∀ a s', q ts = .ok a (i.left s'.pos) → Moved s s' →
      Fresh i s' room →
      Meets i s' room' stuck' (g a (i.left s'.pos)) (f a i s')) :
    Meets i s room' stuck' ((q >>= g) ts) ((p >>= f) i s) :=
  h.bind (fun _ _ _ hnever => hnever.elim) hok

end Sequences

end Meets

/-! ## Primitives -/

section Primitives

variable {α : Type} {i : Input} {s : State} {room : Nat} {stuck : α → State → Prop}

/-- The failure to find something at `pos`. -/
def Input.missing (i : Input) (pos : Nat) (what : String) : Failure :=
  ⟨.expected what (i.tokens[pos]?.map Token.lexeme), i.cursorSpan pos, pos⟩

theorem failExpecting_eq (what : String) :
    (failExpecting what i s : Result α) =
      .fail (i.missing s.pos what)
        { s with furthest := later s.furthest (i.missing s.pos what) } :=
  rfl

theorem meets_failExpecting (what : String) (hfresh : Fresh i s 1) :
    Meets i s room stuck (Forward.refuse what (i.left s.pos)) (failExpecting what i s) := by
  refine ⟨s.pos, rfl, ⟨Nat.le_refl _, hfresh.within, ?_, .refl _ _, hfresh.clean⟩, trivial⟩
  rw [head?_left]
  rfl

theorem meets_take {p : Parser Token} {fits : Token → Bool} {what : String}
    (hfits : ∀ t, i.tokens[s.pos]? = some t → fits t = true →
      p i s = .ok t { s with pos := s.pos + 1 })
    (hnot : (∀ t, i.tokens[s.pos]? = some t → ¬ fits t = true) →
      p i s = failExpecting what i s)
    (hfresh : Fresh i s 1) :
    Meets i s 0 Never (Forward.take fits what (i.left s.pos)) (p i s) := by
  have hfail : Meets i s 0 Never (Forward.refuse what (i.left s.pos))
      (failExpecting what i s : Result Token) :=
    meets_failExpecting what hfresh
  cases ht : i.tokens[s.pos]? with
  | none =>
      rw [hnot fun t h => by rw [ht] at h; cases h]
      rw [left_of_none ht] at hfail ⊢
      exact hfail
  | some t =>
      by_cases hfit : fits t = true
      · rw [hfits t ht hfit, left_of_some ht, Forward.take_of_fits hfit]
        exact ⟨_, rfl, rfl, .next s, hfresh.next ht⟩
      · rw [hnot fun t' h => by rw [ht] at h; cases h; exact hfit]
        rw [left_of_some ht] at hfail ⊢
        rw [Forward.take_of_not hfit]
        exact hfail

theorem meets_expect (kind : TokenKind)
    (hfresh : Fresh i s 1) :
    Meets i s 0 Never (Forward.ofKind kind (i.left s.pos)) (expect kind i s) := by
  refine meets_take ?_ ?_ hfresh
  · intro t ht hfits
    simp only [expect, ht, of_decide_eq_true hfits, if_true]
  · intro hnot
    unfold expect
    split
    · next t ht => rw [if_neg fun hkind => hnot t ht (decide_eq_true hkind)]
    · rfl

theorem meets_expectOperator (symbol : String)
    (hfresh : Fresh i s 1) :
    Meets i s 0 Never (Forward.operator symbol (i.left s.pos)) (expectOperator symbol i s) := by
  refine meets_take ?_ ?_ hfresh
  · intro t ht hfits
    simp only [expectOperator, ht, hfits, if_true]
  · intro hnot
    unfold expectOperator
    split
    · next t ht => rw [if_neg (hnot t ht)]
    · rfl

theorem meets_acceptOperator (symbol : String)
    (hfresh : Fresh i s 0) :
    Meets i s 0 Never (Forward.accept symbol (i.left s.pos)) (acceptOperator symbol i s) := by
  unfold acceptOperator Forward.accept
  cases ht : i.tokens[s.pos]? with
  | none =>
      rw [left_of_none ht]
      exact ⟨s, rfl, left_of_none ht, .refl s, hfresh⟩
  | some t =>
      by_cases hop : t.isOperator symbol = true
      · rw [left_of_some ht, Forward.takeIf_of_some (if_pos hop)]
        simp only [hop, if_true]
        exact ⟨_, rfl, rfl, .next s, (hfresh.mono (Nat.zero_le _)).next ht⟩
      · rw [left_of_some ht, Forward.takeIf_of_none (if_neg hop)]
        simp only [hop, if_false, Bool.false_eq_true]
        exact ⟨s, rfl, left_of_some ht, .refl s, hfresh⟩

theorem meets_atOperator (symbol : String)
    (hfresh : Fresh i s 0) :
    Meets i s 0 Never (Forward.nextIs symbol (i.left s.pos)) (atOperator symbol i s) := by
  refine ⟨s, ?_, rfl, .refl s, hfresh⟩
  rw [head?_left]
  rfl

theorem meets_here (hfresh : Fresh i s 0) :
    Meets i s 0 Never (Forward.here i.finish (i.left s.pos)) (here i s) := by
  refine ⟨s, ?_, rfl, .refl s, hfresh⟩
  rw [← hereSpan_eq]
  rfl

theorem meets_atEnd (hfresh : Fresh i s 0) :
    Meets i s 0 Never (Forward.atEnd (i.left s.pos)) (atEnd i s) := by
  refine ⟨s, ?_, rfl, .refl s, hfresh⟩
  rw [head?_left]
  unfold atEnd
  congr 1
  rw [Bool.eq_iff_iff]
  simp

/-- A failure in front of the furthest one leaves no trace. -/
theorem failExpecting_quiet {m : Nat} (what : String) (hbeyond : Beyond m s.furthest)
    (hlt : s.pos < m) : (failExpecting what i s : Result α) = .fail (i.missing s.pos what) s := by
  have hkept : later s.furthest (i.missing s.pos what) = s.furthest := later_of_beyond hbeyond hlt
  rw [failExpecting_eq, hkept]

/-- Away from the token it needs, an operator is missed; in front of the furthest
failure that leaves no trace. -/
theorem expectOperator_quiet {symbol : String} {m : Nat}
    (hnot : ∀ t, i.tokens[s.pos]? = some t → ¬ t.isOperator symbol = true)
    (hbeyond : Beyond m s.furthest) (hlt : s.pos < m) :
    ∃ e, expectOperator symbol i s = .fail e s := by
  have hfail : expectOperator symbol i s = failExpecting (Text.quoted symbol) i s := by
    unfold expectOperator
    split
    · next t ht => rw [if_neg (hnot t ht)]
    · rfl
  exact ⟨_, hfail.trans (failExpecting_quiet _ hbeyond hlt)⟩

end Primitives

/-! ## Where nothing can go on -/

/-- The operators that go on with a name or an operand, and with nothing else. -/
def joints : List String := "(" :: "=" :: binaryOperators

/-- The next token is an operator of the given ones. -/
def AtOneOf (symbols : List String) (i : Input) (s : State) : Prop :=
  ∃ t symbol, i.tokens[s.pos]? = some t ∧ t.content = .operator symbol ∧ symbol ∈ symbols

/-- A node that is no comment, in front of one of the given operators. -/
def NodeAt (symbols : List String) (i : Input) (node : Node) (s : State) : Prop :=
  node.isComment = false ∧ AtOneOf symbols i s

theorem NodeAt.joints {i : Input} {node : Node} {s : State} (h : NodeAt ["("] i node s) :
    NodeAt Parser.joints i node s := by
  obtain ⟨hnode, t, symbol, ht, hcontent, hsymbol⟩ := h
  obtain rfl := List.mem_singleton.1 hsymbol
  exact ⟨hnode, t, "(", ht, hcontent, List.mem_cons_self⟩

section Joints

variable {i : Input} {s : State} {symbols : List String} {symbol : String}

theorem AtOneOf.not_isOperator (h : AtOneOf symbols i s) (hsymbol : symbol ∉ symbols) :
    ∀ t, i.tokens[s.pos]? = some t → ¬ t.isOperator symbol = true := by
  obtain ⟨t, other, ht, hcontent, hmem⟩ := h
  intro t' ht' hop
  rw [ht] at ht'
  cases ht'
  rw [isOperator_iff, hcontent] at hop
  cases hop
  exact hsymbol hmem

theorem AtOneOf.acceptOperator (h : AtOneOf symbols i s) (hsymbol : symbol ∉ symbols) :
    Parser.acceptOperator symbol i s = .ok none s := by
  have hnot := h.not_isOperator hsymbol
  obtain ⟨t, other, ht, -⟩ := h
  simp only [Parser.acceptOperator, ht, hnot t ht, if_false, Bool.false_eq_true]

end Joints

/-! ## Rows and statements -/

/-- The parser meets the reader wherever it begins with a clean memory. -/
def Follows {α : Type} (i : Input) (stuck : α → State → Prop) (p : Parser α) (q : Reader α) :
    Prop :=
  ∀ s, Fresh i s 0 → Meets i s 0 stuck (q (i.left s.pos)) (p i s)

section Rows

variable {α : Type} {i : Input} {stuck : α → State → Prop} {item : Parser α} {read : Reader α}

theorem Follows.attempt (h : Follows i stuck item read) :
    Follows i stuck (Parser.attempt item) read := by
  intro s hfresh
  have hmeets := h s hfresh
  unfold Parser.attempt
  cases hv : read (i.left s.pos) with
  | ok a rest =>
      rw [hv] at hmeets
      obtain ⟨s', hr, hrest⟩ := hmeets
      rw [hr]
      exact ⟨s', rfl, hrest⟩
  | stop cause rest =>
      rw [hv] at hmeets
      obtain ⟨m, hleft, hstopped, hgiven⟩ := hmeets
      cases hr : item i s with
      | ok a s' => rw [hr] at hstopped hgiven; exact ⟨m, hleft, hstopped, hgiven⟩
      | fail e s' =>
          rw [hr] at hstopped
          exact ⟨m, hleft, hstopped.quiet ⟨rfl, rfl⟩, trivial⟩
      | tooDeep s' => rw [hr] at hgiven; exact hgiven.elim
  | deep rest =>
      rw [hv] at hmeets
      obtain ⟨s', hr, hrest⟩ := hmeets
      rw [hr]
      exact ⟨s', rfl, hrest⟩

/-- A row that is stuck is stuck where its last item is. -/
theorem follows_separatedUpTo (h : Follows i stuck item read)
    (hstuck : ∀ a s, stuck a s → AtOneOf joints i s) (closer : String) :
    ∀ bound, Follows i (fun _ s => AtOneOf joints i s) (separatedUpTo item closer bound)
      (Forward.rowUpTo read closer bound)
  | 0 => fun s hfresh => meets_pure [] hfresh
  | bound + 1 => by
      intro s hfresh
      unfold separatedUpTo Forward.rowUpTo
      refine (meets_atOperator closer hfresh).andThen fun closed s₁ _ _ hfresh₁ => ?_
      cases closed with
      | true => exact meets_pure [] hfresh₁
      | false =>
          refine (h.attempt s₁ hfresh₁).bind ?_ fun first s₂ _ _ hfresh₂ => ?_
          · intro first s₂ m hat hlt _
            have hjoint := hstuck first s₂ hat
            rw [parser_bind_ok (hjoint.acceptOperator (by decide))]
            exact ⟨⟨hlt, hjoint⟩, rfl, rfl⟩
          · refine (meets_acceptOperator "," hfresh₂).andThen fun found s₃ _ _ hfresh₃ => ?_
            cases found with
            | none => exact meets_pure [first] hfresh₃
            | some _ =>
                refine (follows_separatedUpTo h hstuck closer bound s₃ hfresh₃).bind ?_
                  fun rest s₄ _ _ hfresh₄ => meets_pure _ hfresh₄
                exact fun rest s₄ m hat hlt _ => ⟨⟨hlt, hat⟩, rfl, rfl⟩

theorem follows_separated (h : Follows i stuck item read)
    (hstuck : ∀ a s, stuck a s → AtOneOf joints i s) (closer : String) :
    Follows i (fun _ s => AtOneOf joints i s) (separated item closer)
      (Forward.row read closer) := by
  intro s hfresh
  have hmeets := follows_separatedUpTo h hstuck closer ((i.left s.pos).length + 1) s hfresh
  have hbound : separated item closer i s =
      separatedUpTo item closer ((i.left s.pos).length + 1) i s := by
    rw [length_left]
    rfl
  rw [hbound]
  exact hmeets

end Rows

/-- A token that does not close a block is next. -/
def NotClosing (i : Input) (s : State) : Prop :=
  ∃ t, i.tokens[s.pos]? = some t ∧ ¬ t.isOperator "\x7d" = true

/-- The reader takes nothing in front of a `}`. -/
def Halts {α : Type} (q : Reader α) : Prop :=
  ∀ t ts, t.isOperator "\x7d" = true →
    (∃ cause, q (t :: ts) = .stop cause (t :: ts)) ∨ q (t :: ts) = .deep (t :: ts)

section Statements

variable {i : Input} {expr : Parser Node} {read : Reader Node}

theorem Halts.statement (h : Halts read) : Halts (Forward.statement read) := by
  intro t ts ht
  rcases h t ts ht with ⟨cause, hstop⟩ | hdeep
  · exact .inl ⟨cause, Forward.bind_of_stop hstop⟩
  · exact .inr (Forward.bind_of_deep hdeep)

/-- A reader that stops, but not at its first token, does not begin at a `}`. -/
theorem Halts.notClosing {α : Type} {q : Reader α} {s : State} {cause : Cause} {rest : List Token}
    (h : Halts q) (hlocal : q.Local) (hstop : q (i.left s.pos) = .stop cause rest)
    (hlength : ¬ rest.length = (i.left s.pos).length) : NotClosing i s := by
  obtain ⟨us, hus, -⟩ := hlocal.stop hstop
  cases ht : i.tokens[s.pos]? with
  | none =>
      rw [left_of_none ht] at hus hlength
      simp [List.append_eq_nil_iff.1 hus.symm] at hlength
  | some t =>
      refine ⟨t, ht, fun hop => ?_⟩
      rw [left_of_some ht] at hstop hlength
      rcases h t _ hop with ⟨cause', hhalts⟩ | hdeep
      · rw [hhalts] at hstop
        cases hstop
        exact hlength rfl
      · rw [hdeep] at hstop
        cases hstop

theorem follows_statement (h : Follows i (NodeAt joints i) expr read) :
    Follows i Never (statement expr) (Forward.statement read) := by
  intro s hfresh
  refine (h s hfresh).bind ?_ fun node s₁ _ _ hfresh₁ => ?_
  · intro node s₁ m hat hlt hbeyond
    have hnot := hat.2.not_isOperator (by decide : ";" ∉ joints)
    obtain ⟨e, he⟩ := expectOperator_quiet hnot hbeyond hlt
    simp only [hat.1, Bool.false_eq_true, if_false]
    exact givenUp_of_fail (parser_bind_fail he)
  · cases node.isComment with
    | true =>
        exact (meets_acceptOperator ";" hfresh₁).andThen fun _ s₂ _ _ hfresh₂ =>
          meets_pure _ hfresh₂
    | false =>
        exact (meets_expectOperator ";" (hfresh₁.mono (Nat.zero_le _))).andThen
          fun _ s₂ _ _ hfresh₂ => meets_pure _ hfresh₂

/-- A statement that stops at its first token is none.  One that stops later is
none for the parser, too, which is then back in front of it and stuck. -/
theorem Meets.afterOptional {α β : Type} {p : Parser α} {q : Reader α} {f : Option α → Parser β}
    {g : Option α → Reader β} {s : State} {room : Nat} {stuck : β → State → Prop}
    (h : Follows i Never p q) (hlocal : q.Local) (hhalts : Halts q) (hfresh : Fresh i s 0)
    (hsome : ∀ a s', Moved s s' → Fresh i s' 0 →
      Meets i s' room stuck (g (some a) (i.left s'.pos)) (f (some a) i s'))
    (hnone : ∀ s', Fresh i s' 1 → Meets i s' room stuck (g none (i.left s'.pos)) (f none i s'))
    (hstuck : ∀ s' m, NotClosing i s' → s'.pos < m →
      (f none i s').GivenUp stuck m ∧ Quiet s' (f none i s').state) :
    Meets i s room stuck ((Forward.optional q >>= g) (i.left s.pos)) ((optional p >>= f) i s) := by
  have hmeets := h s hfresh
  cases hq : q (i.left s.pos) with
  | ok a rest =>
      rw [hq] at hmeets
      obtain ⟨s', hr, rfl, hmoved, hfresh'⟩ := hmeets
      have hread : Forward.optional q (i.left s.pos) = .ok (some a) (i.left s'.pos) := by
        simp only [Forward.optional, hq]
      have hparsed : optional p i s = .ok (some a) s' := by
        simp only [Parser.optional, Parser.attempt, hr, Result.backTo]
      rw [Forward.bind_of_ok hread, parser_bind_ok hparsed]
      exact (hsome a s' hmoved hfresh').moved hmoved
  | deep rest =>
      rw [hq] at hmeets
      obtain ⟨s', hr, hleft⟩ := hmeets
      have hread : Forward.optional q (i.left s.pos) = .deep rest := by
        simp only [Forward.optional, hq]
      have hparsed : optional p i s = .tooDeep s' := by
        simp only [Parser.optional, Parser.attempt, hr, Result.backTo]
      rw [Forward.bind_of_deep hread, parser_bind_tooDeep hparsed]
      exact ⟨s', rfl, hleft⟩
  | stop cause rest =>
      rw [hq] at hmeets
      obtain ⟨m, hleft, hstopped, hgiven⟩ := hmeets
      cases hr : p i s with
      | ok a s' => rw [hr] at hgiven; exact hgiven.2.elim
      | tooDeep s' => rw [hr] at hgiven; exact hgiven.elim
      | fail e s' =>
          rw [hr] at hstopped
          have hparsed : optional p i s = .ok none { s' with pos := s.pos } := by
            simp only [Parser.optional, Parser.attempt, hr, Result.backTo]
          rw [parser_bind_ok hparsed]
          by_cases hlength : rest.length = (i.left s.pos).length
          · -- the first token: nothing was taken, and only that token may be remembered
            have hread : Forward.optional q (i.left s.pos) = .ok none (i.left s.pos) := by
              simp only [Forward.optional, hq, hlength, if_true]
            rw [Forward.bind_of_ok hread]
            have hm : m = s.pos := by
              rw [← hleft, length_left, length_left] at hlength
              have := hstopped.within
              have := hfresh.within
              omega
            subst hm
            have hfresh' : Fresh i { s' with pos := s.pos } 1 := ⟨hfresh.within, hstopped.clean⟩
            have hupto : Upto s.pos s.furthest s'.furthest := by
              rw [show s'.furthest = _ from hstopped.furthest]
              exact upto_later _ (Nat.le_refl _)
            have hmoved : Moved s { s' with pos := s.pos } :=
              ⟨Nat.le_refl _, hupto, hstopped.kept⟩
            exact (hnone _ hfresh').moved hmoved
          · -- a later token: the parser is back at a token that the reader has taken
            have hread : Forward.optional q (i.left s.pos) = .stop cause rest := by
              simp only [Forward.optional, hq, hlength, if_false]
            rw [Forward.bind_of_stop hread]
            have hlt : s.pos < m := by
              rw [← hleft, length_left, length_left] at hlength
              have := hstopped.le
              omega
            have hnot : NotClosing i { s' with pos := s.pos } := hhalts.notClosing hlocal hq hlength
            obtain ⟨hgiven', hquiet⟩ := hstuck _ m hnot hlt
            exact ⟨m, hleft, hstopped.quiet hquiet, hgiven'⟩

theorem meets_statementsUpTo (h : Follows i (NodeAt joints i) expr read)
    (hadvances : read.Advances) (hhalts : Halts read) :
    ∀ bound s, Fresh i s 0 →
      Meets i s 1 (fun _ s' => NotClosing i s')
        (Forward.statementsUpTo read bound (i.left s.pos)) (statementsUpTo expr bound i s)
  | 0, s, hfresh => meets_pure [] (hfresh.mono (Nat.zero_le _))
  | bound + 1, s, hfresh => by
      unfold statementsUpTo Forward.statementsUpTo
      refine (meets_atEnd hfresh).andThen fun done s₁ _ _ hfresh₁ => ?_
      cases done with
      | true => exact meets_pure [] (hfresh₁.mono (Nat.zero_le _))
      | false =>
          refine .afterOptional (follows_statement h)
            (Forward.advances_statement hadvances).toLocal hhalts.statement hfresh₁ ?_ ?_ ?_
          · intro first s₂ _ hfresh₂
            refine (meets_statementsUpTo h hadvances hhalts bound s₂ hfresh₂).bind ?_
              fun rest s₃ _ _ hfresh₃ => meets_pure _ hfresh₃
            exact fun rest s₃ m hnot hlt _ => ⟨⟨hlt, hnot⟩, rfl, rfl⟩
          · exact fun s₂ hfresh₂ => meets_pure [] hfresh₂
          · exact fun s₂ m hnot hlt => ⟨⟨hlt, hnot⟩, rfl, rfl⟩

theorem meets_statementItems (h : Follows i (NodeAt joints i) expr read)
    (hadvances : read.Advances) (hhalts : Halts read) {s : State} (hfresh : Fresh i s 0) :
    Meets i s 1 (fun _ s' => NotClosing i s') (Forward.items i.finish read (i.left s.pos))
      (statementItems expr i s) := by
  refine (meets_here hfresh).andThen fun start s₁ _ _ hfresh₁ => ?_
  have hbound : Forward.statements read (i.left s₁.pos) =
      Forward.statementsUpTo read (i.tokens.size - s₁.pos) (i.left s₁.pos) := by
    rw [← length_left]
    rfl
  have hfound := meets_statementsUpTo h hadvances hhalts (i.tokens.size - s₁.pos) s₁ hfresh₁
  rw [← hbound] at hfound
  refine hfound.bind ?_ fun found s₂ _ _ hfresh₂ => meets_pure _ hfresh₂
  exact fun found s₂ m hnot hlt _ => ⟨⟨hlt, hnot⟩, rfl, rfl⟩

end Statements

end Parser

end Scriptlet
