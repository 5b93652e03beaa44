/-
# What a parser leaves behind

The small logic in which the rules of the parser are specified.  `Post` says
what is known of a result by how it ends, and `Post.bind`, `Post.orElse` and
their like take it through sequences and alternatives.  The lemmas at the end
say it of every primitive in terms of `Input.rest`, the contents of the tokens
that are left.
-/
import Scriptlet.Syntax.Grammar

namespace Scriptlet

namespace Parser

/-! ## What a parser leaves behind -/

/-- What is known of a result, by how it ends. -/
def Result.Post {α : Type} (ok : α → State → Prop) (fail : State → Prop) (deep : Prop) :
    Result α → Prop
  | .ok a s => ok a s
  | .fail _ s => fail s
  | .tooDeep _ => deep

section Logic

variable {α β : Type} {i : Input} {s : State}
  {ok : α → State → Prop} {okNext : β → State → Prop} {fail failNext : State → Prop}
  {deep deepNext : Prop}

theorem Post.mono {okNext : α → State → Prop} {r : Result α} (h : r.Post ok fail deep)
    (hok : ∀ a s', ok a s' → okNext a s') (hfail : ∀ s', fail s' → failNext s')
    (hdeep : deep → deepNext) : r.Post okNext failNext deepNext := by
  cases r with
  | ok a s' => exact hok a s' h
  | fail _ s' => exact hfail s' h
  | tooDeep _ => exact hdeep h

theorem Post.bind {p : Parser α} {f : α → Parser β} (h : (p i s).Post ok fail deep)
    (hfail : ∀ s', fail s' → failNext s') (hdeep : deep → deepNext)
    (hok : ∀ a s', ok a s' → (f a i s').Post okNext failNext deepNext) :
    ((p >>= f) i s).Post okNext failNext deepNext := by
  show Result.Post _ _ _ (match p i s with
    | .ok a s' => f a i s'
    | .fail e s' => .fail e s'
    | .tooDeep s' => .tooDeep s')
  cases hr : p i s with
  | ok a s' => rw [hr] at h; exact hok a s' h
  | fail _ s' => rw [hr] at h; exact hfail s' h
  | tooDeep _ => rw [hr] at h; exact hdeep h

/-- A failed attempt puts the cursor back and keeps the rest of the state. -/
theorem Post.attempt {p : Parser α} (h : (p i s).Post ok fail deep)
    (hfail : ∀ s', fail s' → failNext { s' with pos := s.pos }) :
    (Parser.attempt p i s).Post ok failNext deep := by
  unfold Parser.attempt
  cases hr : p i s with
  | ok a s' => rw [hr] at h; exact h
  | fail _ s' => rw [hr] at h; exact hfail s' h
  | tooDeep _ => rw [hr] at h; exact h

/-- The first alternative settles it, or the others do from where it began. -/
theorem Post.orElse {p otherwise : Parser α} {rest : List (Parser α)}
    (h : (p i s).Post ok fail deep)
    (hrest : ∀ s', fail s' →
      (firstOf otherwise rest i { s' with pos := s.pos }).Post ok failNext deep) :
    (firstOf otherwise (p :: rest) i s).Post ok failNext deep := by
  unfold firstOf Parser.attempt
  cases hr : p i s with
  | ok a s' => rw [hr] at h; exact h
  | fail _ s' => rw [hr] at h; exact hrest s' h
  | tooDeep _ => rw [hr] at h; exact h

theorem Post.optional {p : Parser α} {okNext : Option α → State → Prop}
    (h : (p i s).Post ok fail deep) (hok : ∀ a s', ok a s' → okNext (some a) s')
    (hfail : ∀ s', fail s' → okNext none { s' with pos := s.pos }) :
    (Parser.optional p i s).Post okNext failNext deep := by
  unfold Parser.optional Parser.attempt
  cases hr : p i s with
  | ok a s' => rw [hr] at h; exact hok a s' h
  | fail _ s' => rw [hr] at h; exact hfail s' h
  | tooDeep _ => rw [hr] at h; exact h

end Logic

/-! ## The tokens that are left -/

/-- The contents of the tokens from `pos` on. -/
def Input.rest (i : Input) (pos : Nat) : List Content :=
  (i.tokens.toList.drop pos).map Token.content

variable {i : Input} {s : State} {pos : Nat}

theorem rest_of_some {token : Token} (h : i.tokens[pos]? = some token) :
    i.rest pos = token.content :: i.rest (pos + 1) := by
  obtain ⟨hlt, rfl⟩ := Array.getElem?_eq_some_iff.1 h
  have hlist : pos < i.tokens.toList.length := hlt
  simp only [Input.rest, List.drop_eq_getElem_cons hlist, List.map_cons, Array.getElem_toList]

theorem rest_of_none (h : i.tokens[pos]? = none) : i.rest pos = [] := by
  have hle : i.tokens.toList.length ≤ pos := Array.getElem?_eq_none_iff.1 h
  simp only [Input.rest, List.drop_eq_nil_of_le hle, List.map_nil]

theorem length_rest : (i.rest pos).length = i.tokens.size - pos := by
  simp [Input.rest]

theorem rest_eq_nil_iff : i.rest pos = [] ↔ i.tokens.size ≤ pos := by
  rw [← List.length_eq_zero_iff, length_rest]
  omega

/-! ## Primitives -/

theorem failExpecting_post {α : Type} {ok : α → State → Prop} {deep : Prop} (what : String) :
    (failExpecting what i s : Result α).Post ok
      (fun s' => s'.memory = s.memory ∧ s'.pos = s.pos) deep :=
  ⟨rfl, rfl⟩

theorem expect_post (kind : TokenKind) :
    (expect kind i s).Post
      (fun token s' => i.rest s.pos = token.content :: i.rest s'.pos ∧ token.kind = kind ∧
        s'.memory = s.memory)
      (fun s' => (∀ c us, i.rest s.pos = c :: us → c.kind ≠ kind) ∧ s'.memory = s.memory)
      False := by
  unfold expect
  split
  · next token h =>
      split
      · next hk => exact ⟨rest_of_some h, hk, rfl⟩
      · next hk =>
          refine ⟨?_, rfl⟩
          intro c us hrest
          rw [rest_of_some h] at hrest
          cases hrest
          exact hk
  · next h =>
      refine ⟨?_, rfl⟩
      intro c us hrest
      rw [rest_of_none h] at hrest
      cases hrest

theorem isOperator_iff {token : Token} {symbol : String} :
    token.isOperator symbol = true ↔ token.content = .operator symbol := by
  unfold Token.isOperator
  cases token.content <;> simp

theorem rest_ne_operator {token : Token} {symbol : String} (h : i.tokens[pos]? = some token)
    (hop : ¬ token.isOperator symbol = true) (us : List Content) :
    i.rest pos ≠ .operator symbol :: us := by
  rw [rest_of_some h]
  intro heq
  injection heq with hhead _
  exact hop (isOperator_iff.2 hhead)

theorem expectOperator_post (symbol : String) :
    (expectOperator symbol i s).Post
      (fun _ s' => i.rest s.pos = .operator symbol :: i.rest s'.pos ∧ s'.memory = s.memory)
      (fun s' => (∀ us, i.rest s.pos ≠ .operator symbol :: us) ∧ s'.memory = s.memory)
      False := by
  unfold expectOperator
  split
  · next token h =>
      split
      · next hop => exact ⟨isOperator_iff.1 hop ▸ rest_of_some h, rfl⟩
      · next hop => exact ⟨rest_ne_operator h hop, rfl⟩
  · next h => exact ⟨fun us => by rw [rest_of_none h]; nofun, rfl⟩

theorem acceptOperator_post (symbol : String) :
    (acceptOperator symbol i s).Post
      (fun found s' => s'.memory = s.memory ∧
        match found with
        | some _ => i.rest s.pos = .operator symbol :: i.rest s'.pos
        | none => i.rest s'.pos = i.rest s.pos ∧ ∀ us, i.rest s.pos ≠ .operator symbol :: us)
      (fun _ => False) False := by
  unfold acceptOperator
  split
  · next token h =>
      split
      · next hop => exact ⟨rfl, isOperator_iff.1 hop ▸ rest_of_some h⟩
      · next hop => exact ⟨rfl, rfl, rest_ne_operator h hop⟩
  · next h => exact ⟨rfl, rfl, fun us => by rw [rest_of_none h]; nofun⟩

theorem atOperator_post (symbol : String) :
    (atOperator symbol i s).Post
      (fun found s' => s' = s ∧ (found = true ↔ ∃ us, i.rest s.pos = .operator symbol :: us))
      (fun _ => False) False := by
  refine ⟨rfl, ?_⟩
  cases h : i.tokens[s.pos]? with
  | none => simp [rest_of_none h]
  | some token => simp [rest_of_some h, isOperator_iff]

/-- The operator between two operands, if it is the next token. -/
theorem peekBinary_post :
    (peek i s).Post
      (fun next s' => s' = s ∧
        match next.bind binaryOperator? with
        | some symbol => symbol ∈ binaryOperators ∧
            i.rest s.pos = .operator symbol :: i.rest (s.pos + 1)
        | none => ∀ symbol us, i.rest s.pos = .operator symbol :: us → symbol ∉ binaryOperators)
      (fun _ => False) False := by
  refine ⟨rfl, ?_⟩
  cases h : i.tokens[s.pos]? with
  | none => simp [rest_of_none h]
  | some token =>
      rw [rest_of_some h]
      cases hc : token.content with
      | operator symbol =>
          by_cases hmem : symbol ∈ binaryOperators <;>
            simp [binaryOperator?, hc, hmem]
      | comment _ => simp [binaryOperator?, hc]
      | identifier _ => simp [binaryOperator?, hc]
      | literal _ => simp [binaryOperator?, hc]

end Parser

end Scriptlet
