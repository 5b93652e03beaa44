/-
# Reading without going back

The same language read once more, by readers that decide at every token from
that token alone and never return to an earlier one.  There is no cursor, no
list of alternatives and nothing to remember: a reader takes tokens off the
front and leaves the rest, or it stops in front of the first token that does
not fit.  The grammar is factored to the left for this: behind a name, the next
token tells an assignment, a call and the name by itself apart.

The parser of the language tries alternatives in order and goes back; what it
has in common with these readers is the subject of `Furthest`.  Here stands what
makes them worth comparing with: `Reader.Local`, that a reader looks at no token
behind the first one that it leaves.
-/
import Scriptlet.Syntax.Grammar

namespace Scriptlet

namespace Forward

open Scriptlet.Parser (textOf binaryOperator? binaryOperators statementSpans)

/-! ## Readers -/

/-- How reading off the front of the tokens ends, with the tokens that are left. -/
inductive Verdict (α : Type) where
  | ok (value : α) (rest : List Token)
  /-- The first token of the rest does not fit, or one is missing. -/
  | stop (cause : Cause) (rest : List Token)
  /-- An expression would begin here, and it would be nested too deeply. -/
  | deep (rest : List Token)

/-- A reader takes tokens off the front. -/
def Reader (α : Type) : Type := List Token → Verdict α

/-- Runs one reader and then the one that its value chooses. -/
protected def Reader.bind {α β : Type} (q : Reader α) (f : α → Reader β) : Reader β := fun ts =>
  match q ts with
  | .ok a rest => f a rest
  | .stop cause rest => .stop cause rest
  | .deep rest => .deep rest

instance : Monad Reader where
  pure a := fun ts => .ok a ts
  bind := Reader.bind

/-- Stops here because something else was expected. -/
def refuse {α : Type} (what : String) : Reader α := fun ts =>
  .stop (.expected what (ts.head?.map Token.lexeme)) ts

def peek : Reader (Option Token) := fun ts => .ok ts.head? ts

def nextIs (symbol : String) : Reader Bool := fun ts =>
  .ok (ts.head?.any (·.isOperator symbol)) ts

def atEnd : Reader Bool := fun ts => .ok ts.head?.isNone ts

/-- The empty span at the next token, or at `finish` when there is none. -/
def placeOf (finish : Position) (next : Option Token) : Span :=
  .point ((next.map fun t => t.span.start).getD finish)

/-- The empty span here. -/
def here (finish : Position) : Reader Span := fun ts => .ok (placeOf finish ts.head?) ts

/-- Takes the next token, which has to fit. -/
def take (fits : Token → Bool) (what : String) : Reader Token
  | [] => refuse what []
  | t :: rest => if fits t then .ok t rest else refuse what (t :: rest)

/-- Takes the next token if it is of some use. -/
def takeIf {β : Type} (use : Token → Option β) : Reader (Option β)
  | [] => .ok none []
  | t :: rest =>
    match use t with
    | some b => .ok (some b) rest
    | none => .ok none (t :: rest)

/-- Takes a token of the given kind. -/
def ofKind (kind : TokenKind) : Reader Token := take (fun t => t.kind = kind) kind.label

/-- Takes the given operator. -/
def operator (symbol : String) : Reader Token :=
  take (·.isOperator symbol) (Text.quoted symbol)

/-- Takes the given operator if it is next. -/
def accept (symbol : String) : Reader (Option Token) :=
  takeIf fun t => if t.isOperator symbol then some t else none

/-- The value of a reader, or none where it stops at its very first token. -/
def optional {α : Type} (q : Reader α) : Reader (Option α) := fun ts =>
  match q ts with
  | .ok a rest => .ok (some a) rest
  | .stop cause rest => if rest.length = ts.length then .ok none ts else .stop cause rest
  | .deep rest => .deep rest

/-! ## Rules around an inner expression -/

def rowUpTo {α : Type} (item : Reader α) (closer : String) : Nat → Reader (List α)
  | 0 => pure []
  | bound + 1 => do
    if ← nextIs closer then return []
    let first ← item
    match ← accept "," with
    | none => return [first]
    | some _ =>
      let rest ← rowUpTo item closer bound
      return first :: rest

/-- Items with commas between them and perhaps one behind the last, up to `closer`. -/
def row {α : Type} (item : Reader α) (closer : String) : Reader (List α) := fun ts =>
  rowUpTo item closer (ts.length + 1) ts

def statement (expr : Reader Node) : Reader (Node × Option Span) := do
  let node ← expr
  if node.isComment then
    let separator ← accept ";"
    return (node, separator.map Token.span)
  else
    let separator ← operator ";"
    return (node, some separator.span)

/-- At most `bound` statements, up to the first that does not begin. -/
def statementsUpTo (expr : Reader Node) : Nat → Reader (List (Node × Option Span))
  | 0 => pure []
  | bound + 1 => do
    if ← atEnd then return []
    match ← optional (statement expr) with
    | none => return []
    | some first =>
      let rest ← statementsUpTo expr bound
      return first :: rest

/-- Statements up to the first that does not begin. -/
def statements (expr : Reader Node) : Reader (List (Node × Option Span)) := fun ts =>
  statementsUpTo expr ts.length ts

/-- The span of statements that were found, or of the place where there are none. -/
def spanOfStatements (start : Span) (found : List (Node × Option Span)) : Span :=
  match found.flatMap statementSpans with
  | [] => start
  | first :: rest => Span.mergeAll first rest

/-- Statements with the span around them; `finish` is where the source ends. -/
def items (finish : Position) (expr : Reader Node) : Reader (List Node × Span) := do
  let start ← here finish
  let found ← statements expr
  return (found.map Prod.fst, spanOfStatements start found)

def program (finish : Position) (expr : Reader Node) : Reader Node := do
  let (found, span) ← items finish expr
  return .statements found span

def comment : Reader Node := do
  let token ← ofKind .comment
  return .comment (textOf token) token.span

def literal : Reader Node := do
  let token ← ofKind .literal
  match token.content with
  | .literal value => return .literal value token.span
  | _ => refuse TokenKind.literal.label

/-- What follows `name(`. -/
def arguments (expr : Reader Node) (name : Token) : Reader Node := do
  let args ← row expr ")"
  let closer ← operator ")"
  return .call (textOf name) args (name.span.merge closer.span)

/-- What follows a name: the arguments of a call, or nothing that belongs to it. -/
def afterName (expr : Reader Node) (name : Token) : Reader Node := do
  match ← accept "(" with
  | some _ => arguments expr name
  | none => return .identifier (textOf name) name.span

def block (finish : Position) (expr : Reader Node) : Reader Node := do
  let opener ← operator "\x7b"
  let (found, inner) ← items finish expr
  let closer ← operator "\x7d"
  return .block found inner (opener.span.merge closer.span)

def listLiteral (expr : Reader Node) : Reader Node := do
  let opener ← operator "["
  let found ← row expr "]"
  let closer ← operator "]"
  return .list found (opener.span.merge closer.span)

def function (expr : Reader Node) : Reader Node := do
  let opener ← operator "("
  let params ← row (ofKind .identifier) ")"
  let _ ← operator ")"
  let _ ← operator "=>"
  let body ← expr
  return .function (params.map textOf) body (opener.span.merge body.span)

/-- What follows a first operand: an operator and the rest, or nothing. -/
def afterOperand (expr : Reader Node) (left : Node) : Reader Node := do
  match ← takeIf binaryOperator? with
  | some symbol =>
    let right ← expr
    return .call symbol [left, right] (left.span.merge right.span)
  | none => return left

/-- What follows a name at the beginning of an expression. -/
def afterFirstName (expr : Reader Node) (name : Token) : Reader Node := do
  match ← accept "=" with
  | some _ =>
    let value ← expr
    return .assignment (textOf name) value (name.span.merge value.span)
  | none =>
    let left ← afterName expr name
    afterOperand expr left

/-- What a token may begin. -/
inductive Opening where
  | comment
  | name
  | literal
  | paren
  | brace
  | bracket
  | nothing
  deriving DecidableEq

/-- What the content of a token may begin. -/
def Opening.ofContent : Content → Opening
  | .comment _ => .comment
  | .identifier _ => .name
  | .literal _ => .literal
  | .operator symbol =>
    if symbol = "(" then .paren
    else if symbol = "\x7b" then .brace
    else if symbol = "[" then .bracket
    else .nothing

/-- What the next token may begin. -/
def Opening.ofToken? (t : Option Token) : Opening :=
  (t.map fun t => Opening.ofContent t.content).getD .nothing

def term (finish : Position) (expr : Reader Node) : Reader Node := do
  match Opening.ofToken? (← peek) with
  | .name =>
    let name ← ofKind .identifier
    afterName expr name
  | .literal => literal
  | .brace => block finish expr
  | .bracket => listLiteral expr
  | .comment | .paren | .nothing => refuse "term"

def layer (finish : Position) (expr : Reader Node) : Reader Node := do
  match Opening.ofToken? (← peek) with
  | .comment => comment
  | .name =>
    let name ← ofKind .identifier
    afterFirstName expr name
  | .paren => function expr
  | .literal | .brace | .bracket =>
    let left ← term finish expr
    afterOperand expr left
  | .nothing => refuse "expression"

def exprUpTo (finish : Position) : Nat → Reader Node
  | 0 => fun ts => .deep ts
  | depth + 1 => layer finish (exprUpTo finish depth)

theorem content_of_opening (c : Content) :
    match Opening.ofContent c with
    | .comment => c.kind = .comment
    | .name => c.kind = .identifier
    | .literal => c.kind = .literal
    | .paren => c = .operator "("
    | .brace => c = .operator "\x7b"
    | .bracket => c = .operator "["
    | .nothing => True := by
  cases c with
  | comment text => rfl
  | identifier name => rfl
  | literal value => rfl
  | operator symbol =>
      by_cases hparen : symbol = "("
      · rw [hparen]; rfl
      · by_cases hbrace : symbol = "\x7b"
        · rw [hbrace]; rfl
        · by_cases hbracket : symbol = "["
          · rw [hbracket]; rfl
          · simp only [Opening.ofContent, hparen, hbrace, hbracket, if_false]

theorem operator_of_binary {t : Token} {symbol : String} (h : binaryOperator? t = some symbol) :
    t.content = .operator symbol ∧ symbol ∈ binaryOperators := by
  unfold binaryOperator? at h
  split at h
  · next other hcontent =>
      split at h
      · next hmem =>
          cases h
          exact ⟨hcontent, hmem⟩
      · cases h
  · cases h

theorem term_apply (finish : Position) (expr : Reader Node) (ts : List Token) :
    term finish expr ts =
      (match Opening.ofToken? ts.head? with
        | .name => ofKind .identifier >>= afterName expr
        | .literal => literal
        | .brace => block finish expr
        | .bracket => listLiteral expr
        | .comment | .paren | .nothing => refuse "term" : Reader Node) ts :=
  rfl

theorem layer_apply (finish : Position) (expr : Reader Node) (ts : List Token) :
    layer finish expr ts =
      (match Opening.ofToken? ts.head? with
        | .comment => comment
        | .name => ofKind .identifier >>= afterFirstName expr
        | .paren => function expr
        | .literal | .brace | .bracket => term finish expr >>= afterOperand expr
        | .nothing => refuse "expression" : Reader Node) ts :=
  rfl

/-! ## No look behind the first token that is left -/

/-- Whatever the reader leaves, only its first token was looked at: with any other
rest that begins alike, the reader ends alike. -/
structure Reader.Local {α : Type} (q : Reader α) : Prop where
  ok {ts rest : List Token} {a : α} : q ts = .ok a rest →
    ∃ us, ts = us ++ rest ∧ ∀ rest', rest'.head? = rest.head? → q (us ++ rest') = .ok a rest'
  stop {ts rest : List Token} {cause : Cause} : q ts = .stop cause rest →
    ∃ us, ts = us ++ rest ∧
      ∀ rest', rest'.head? = rest.head? → q (us ++ rest') = .stop cause rest'

section Combinators

variable {α β : Type} {q : Reader α} {f g : α → Reader β} {ts rest : List Token}

theorem bind_of_ok {a : α} (h : q ts = .ok a rest) : (q >>= f) ts = f a rest := by
  show Reader.bind q f ts = _
  simp only [Reader.bind, h]

theorem bind_of_stop {cause : Cause} (h : q ts = .stop cause rest) :
    (q >>= f) ts = .stop cause rest := by
  show Reader.bind q f ts = _
  simp only [Reader.bind, h]

theorem bind_of_deep (h : q ts = .deep rest) : (q >>= f) ts = .deep rest := by
  show Reader.bind q f ts = _
  simp only [Reader.bind, h]

theorem bind_congr (h : ∀ a rest, q ts = .ok a rest → f a rest = g a rest) :
    (q >>= f) ts = (q >>= g) ts := by
  cases hq : q ts with
  | ok a rest => rw [bind_of_ok hq, bind_of_ok hq, h a rest hq]
  | stop cause rest => rw [bind_of_stop hq, bind_of_stop hq]
  | deep rest => rw [bind_of_deep hq, bind_of_deep hq]

theorem bind_congr_left {q' : Reader α} (h : q ts = q' ts) : (q >>= f) ts = (q' >>= f) ts := by
  show Reader.bind q f ts = Reader.bind q' f ts
  simp only [Reader.bind, h]

theorem take_of_fits {fits : Token → Bool} {what : String} {t : Token} (h : fits t = true) :
    take fits what (t :: rest) = .ok t rest := by
  simp only [take, h, if_true]

theorem take_of_not {fits : Token → Bool} {what : String} {t : Token} (h : ¬ fits t = true) :
    take fits what (t :: rest) = refuse what (t :: rest) := by
  simp only [take, h, if_false, Bool.false_eq_true]

theorem takeIf_of_some {use : Token → Option β} {t : Token} {b : β} (h : use t = some b) :
    takeIf use (t :: rest) = .ok (some b) rest := by
  simp only [takeIf, h]

theorem takeIf_of_none {use : Token → Option β} {t : Token} (h : use t = none) :
    takeIf use (t :: rest) = .ok none (t :: rest) := by
  simp only [takeIf, h]

theorem ofKind_of {kind : TokenKind} {t : Token} (h : t.kind = kind) :
    ofKind kind (t :: rest) = .ok t rest :=
  take_of_fits (decide_eq_true h)

theorem operator_of {symbol : String} {t : Token} (h : t.isOperator symbol = true) :
    operator symbol (t :: rest) = .ok t rest :=
  take_of_fits h

theorem operator_of_content {symbol : String} {t : Token} (h : t.content = .operator symbol) :
    operator symbol (t :: rest) = .ok t rest :=
  operator_of (by simp only [Token.isOperator, h, beq_self_eq_true])

theorem accept_of {symbol : String} {t : Token} (h : t.isOperator symbol = true) :
    accept symbol (t :: rest) = .ok (some t) rest :=
  takeIf_of_some (if_pos h)

theorem accept_of_not {symbol : String}
    (h : ∀ t, ts.head? = some t → ¬ t.isOperator symbol = true) :
    accept symbol ts = .ok none ts := by
  cases ts with
  | nil => rfl
  | cons t rest => exact takeIf_of_none (if_neg (h t rfl))

namespace Reader.Local

/-- A reader that takes nothing, and looks at no more than the next token. -/
theorem look (f : Option Token → α) : Local (fun ts => .ok (f ts.head?) ts) where
  ok := by
    rintro ts rest a h
    cases h
    exact ⟨[], rfl, fun rest' hhead => by simp only [List.nil_append, hhead]⟩
  stop := nofun

theorem pure (a : α) : Local (Pure.pure a : Reader α) := look fun _ => a

theorem peek : Local Forward.peek := look id

theorem nextIs (symbol : String) : Local (Forward.nextIs symbol) :=
  look (Option.any (·.isOperator symbol))

theorem atEnd : Local Forward.atEnd := look Option.isNone

theorem here (finish : Position) : Local (Forward.here finish) :=
  look (placeOf finish)

theorem refuse (what : String) : Local (Forward.refuse what : Reader α) where
  ok := nofun
  stop := by
    rintro ts rest cause h
    cases h
    exact ⟨[], rfl, fun rest' hhead => by simp only [List.nil_append, Forward.refuse, hhead]⟩

theorem take (fits : Token → Bool) (what : String) : Local (Forward.take fits what) where
  ok := by
    rintro (_ | ⟨t, ts⟩) rest a h
    · cases h
    · by_cases hfits : fits t = true
      · rw [take_of_fits hfits] at h
        cases h
        exact ⟨[t], rfl, fun rest' _ => take_of_fits hfits⟩
      · rw [take_of_not hfits] at h
        cases h
  stop := by
    rintro (_ | ⟨t, ts⟩) rest cause h
    · cases h
      refine ⟨[], rfl, ?_⟩
      rintro (_ | ⟨t', ts'⟩) hhead
      · rfl
      · cases hhead
    · by_cases hfits : fits t = true
      · rw [take_of_fits hfits] at h
        cases h
      · rw [take_of_not hfits] at h
        cases h
        refine ⟨[], rfl, ?_⟩
        rintro (_ | ⟨t', ts'⟩) hhead
        · cases hhead
        · cases hhead
          exact take_of_not hfits

theorem takeIf (use : Token → Option β) : Local (Forward.takeIf use) where
  ok := by
    rintro (_ | ⟨t, ts⟩) rest a h
    · cases h
      refine ⟨[], rfl, ?_⟩
      rintro (_ | ⟨t', ts'⟩) hhead
      · rfl
      · cases hhead
    · cases huse : use t with
      | some b =>
          rw [takeIf_of_some huse] at h
          cases h
          exact ⟨[t], rfl, fun rest' _ => takeIf_of_some huse⟩
      | none =>
          rw [takeIf_of_none huse] at h
          cases h
          refine ⟨[], rfl, ?_⟩
          rintro (_ | ⟨t', ts'⟩) hhead
          · cases hhead
          · cases hhead
            exact takeIf_of_none huse
  stop := by
    rintro (_ | ⟨t, ts⟩) rest cause h
    · cases h
    · cases huse : use t with
      | some b => rw [takeIf_of_some huse] at h; cases h
      | none => rw [takeIf_of_none huse] at h; cases h

/-- What the second reader looks at is all that the first one may have looked at. -/
theorem bind (hq : Local q) (hf : ∀ a, Local (f a)) : Local (q >>= f) where
  ok := by
    intro ts rest b h
    cases hr : q ts with
    | ok a mid =>
        rw [bind_of_ok hr] at h
        obtain ⟨us, rfl, hfirst⟩ := hq.ok hr
        obtain ⟨vs, rfl, hsecond⟩ := (hf a).ok h
        refine ⟨us ++ vs, (List.append_assoc _ _ _).symm, ?_⟩
        intro rest' hhead
        have hmid : (vs ++ rest').head? = (vs ++ rest).head? := by
          simp only [List.head?_append, hhead]
        rw [List.append_assoc, bind_of_ok (hfirst _ hmid), hsecond _ hhead]
    | stop cause mid => rw [bind_of_stop hr] at h; cases h
    | deep mid => rw [bind_of_deep hr] at h; cases h
  stop := by
    intro ts rest cause h
    cases hr : q ts with
    | ok a mid =>
        rw [bind_of_ok hr] at h
        obtain ⟨us, rfl, hfirst⟩ := hq.ok hr
        obtain ⟨vs, rfl, hsecond⟩ := (hf a).stop h
        refine ⟨us ++ vs, (List.append_assoc _ _ _).symm, ?_⟩
        intro rest' hhead
        have hmid : (vs ++ rest').head? = (vs ++ rest).head? := by
          simp only [List.head?_append, hhead]
        rw [List.append_assoc, bind_of_ok (hfirst _ hmid), hsecond _ hhead]
    | stop other mid =>
        rw [bind_of_stop hr] at h
        cases h
        obtain ⟨us, hts, hfirst⟩ := hq.stop hr
        exact ⟨us, hts, fun rest' hhead => bind_of_stop (hfirst _ hhead)⟩
    | deep mid => rw [bind_of_deep hr] at h; cases h

theorem optional (hq : Local q) : Local (Forward.optional q) where
  ok := by
    intro ts rest a h
    unfold Forward.optional at h
    cases hr : q ts with
    | ok a mid =>
        rw [hr] at h
        cases h
        obtain ⟨us, hts, hfirst⟩ := hq.ok hr
        exact ⟨us, hts, fun rest' hhead => by simp only [Forward.optional, hfirst _ hhead]⟩
    | stop cause mid =>
        simp only [hr] at h
        split at h
        · next hlength =>
            cases h
            obtain ⟨us, rfl, hfirst⟩ := hq.stop hr
            have hus : us = [] := by
              rw [List.length_append] at hlength
              exact List.length_eq_zero_iff.1 (by omega)
            subst hus
            refine ⟨[], rfl, fun rest' hhead => ?_⟩
            have hstop : q rest' = .stop cause rest' := hfirst rest' hhead
            simp only [List.nil_append, Forward.optional, hstop, if_true]
        · cases h
    | deep mid => rw [hr] at h; cases h
  stop := by
    intro ts rest cause h
    unfold Forward.optional at h
    cases hr : q ts with
    | ok a mid => rw [hr] at h; cases h
    | stop other mid =>
        simp only [hr] at h
        split at h
        · cases h
        · next hlength =>
            cases h
            obtain ⟨us, rfl, hfirst⟩ := hq.stop hr
            refine ⟨us, rfl, fun rest' hhead => ?_⟩
            have hlength' : ¬ rest'.length = (us ++ rest').length := by
              rw [List.length_append] at hlength ⊢
              omega
            simp only [Forward.optional, hfirst _ hhead, hlength', if_false]
    | deep mid => rw [hr] at h; cases h

/-- A bound that is taken from the length of the input does not matter, provided
that no larger one makes a difference. -/
theorem ofBound {q : Nat → Reader α} {bound : List Token → Nat} (hq : ∀ n, Local (q n))
    (hbound : ∀ n ts, bound ts ≤ n → q n ts = q (bound ts) ts) :
    Local (fun ts => q (bound ts) ts) where
  ok := by
    intro ts rest a h
    obtain ⟨us, rfl, -⟩ := (hq _).ok h
    refine ⟨us, rfl, fun rest' hhead => ?_⟩
    let n := max (bound (us ++ rest)) (bound (us ++ rest'))
    rw [← hbound n _ (Nat.le_max_left ..)] at h
    obtain ⟨vs, hvs, hrest⟩ := (hq n).ok h
    obtain rfl := List.append_cancel_right hvs
    rw [← hbound n _ (Nat.le_max_right ..)]
    exact hrest _ hhead
  stop := by
    intro ts rest cause h
    obtain ⟨us, rfl, -⟩ := (hq _).stop h
    refine ⟨us, rfl, fun rest' hhead => ?_⟩
    let n := max (bound (us ++ rest)) (bound (us ++ rest'))
    rw [← hbound n _ (Nat.le_max_left ..)] at h
    obtain ⟨vs, hvs, hrest⟩ := (hq n).stop h
    obtain rfl := List.append_cancel_right hvs
    rw [← hbound n _ (Nat.le_max_right ..)]
    exact hrest _ hhead

theorem length_le (hq : Local q) {a : α} (h : q ts = .ok a rest) : rest.length ≤ ts.length := by
  obtain ⟨us, rfl, -⟩ := hq.ok h
  rw [List.length_append]
  omega

theorem length_le_of_stop (hq : Local q) {cause : Cause} (h : q ts = .stop cause rest) :
    rest.length ≤ ts.length := by
  obtain ⟨us, rfl, -⟩ := hq.stop h
  rw [List.length_append]
  omega

end Reader.Local

/-! ## Bounds that are never felt -/

theorem length_of_accept {symbol : String} {t : Token} (h : accept symbol ts = .ok (some t) rest) :
    rest.length < ts.length := by
  cases ts with
  | nil => cases h
  | cons t' ts =>
      by_cases hop : t'.isOperator symbol = true
      · rw [accept_of hop] at h
        cases h
        exact Nat.lt_succ_self _
      · rw [accept, takeIf_of_none (if_neg hop)] at h
        cases h

/-- Every comma is a token, so there are not more items than tokens, and one. -/
theorem rowUpTo_bound {item : Reader α} (hitem : item.Local) (closer : String) :
    ∀ n m ts, ts.length < n → ts.length < m →
      rowUpTo item closer n ts = rowUpTo item closer m ts
  | 0, _, _, h, _ => absurd h (Nat.not_lt_zero _)
  | _ + 1, 0, _, _, h => absurd h (Nat.not_lt_zero _)
  | n + 1, m + 1, ts, hn, hm => by
      unfold rowUpTo
      refine bind_congr fun closed ts₁ h₁ => ?_
      cases h₁
      cases ts.head?.any (·.isOperator closer) with
      | true => rfl
      | false =>
          refine bind_congr fun first ts₂ h₂ => bind_congr fun found ts₃ h₃ => ?_
          have hle := hitem.length_le h₂
          cases found with
          | none => rfl
          | some t =>
              have hlt := length_of_accept h₃
              exact bind_congr_left
                (rowUpTo_bound hitem closer n m ts₃ (by omega) (by omega))

theorem Reader.Local.row {item : Reader α} (hitem : item.Local) (closer : String) :
    (Forward.row item closer).Local := by
  have hrow : ∀ n, (rowUpTo item closer n).Local := by
    intro n
    induction n with
    | zero => exact .pure []
    | succ n ih =>
        refine .bind (.nextIs closer) fun closed => ?_
        cases closed with
        | true => exact .pure []
        | false =>
            refine .bind hitem fun first => .bind (.takeIf _) fun found => ?_
            cases found with
            | none => exact .pure [first]
            | some _ => exact .bind ih fun rest => .pure _
  exact .ofBound hrow fun n ts h =>
    rowUpTo_bound hitem closer _ _ ts h (Nat.lt_succ_self _)

end Combinators

/-- Every value that the reader gives has the property. -/
def Reader.Yields {α : Type} (P : α → Prop) (q : Reader α) : Prop :=
  ∀ ts a rest, q ts = .ok a rest → P a

theorem Reader.Yields.pure {α : Type} {P : α → Prop} {a : α} (h : P a) :
    Reader.Yields P (Pure.pure a : Reader α) := by
  intro ts b rest hb
  cases hb
  exact h

theorem Reader.Yields.bind {α β : Type} {P : β → Prop} {q : Reader α} {f : α → Reader β}
    (h : ∀ a, (f a).Yields P) : (q >>= f).Yields P := by
  intro ts b rest hb
  cases hq : q ts with
  | ok a mid => rw [bind_of_ok hq] at hb; exact h a mid b rest hb
  | stop cause mid => rw [bind_of_stop hq] at hb; cases hb
  | deep mid => rw [bind_of_deep hq] at hb; cases hb

/-- A reader that is local and takes at least one token. -/
structure Reader.Advances {α : Type} (q : Reader α) : Prop extends q.Local where
  length_lt {ts rest : List Token} {a : α} : q ts = .ok a rest → rest.length < ts.length

section Advances

variable {α β : Type} {q : Reader α} {f : α → Reader β}

theorem Reader.Advances.take (fits : Token → Bool) (what : String) :
    (Forward.take fits what).Advances where
  toLocal := .take fits what
  length_lt := by
    rintro (_ | ⟨t, ts⟩) rest a h
    · cases h
    · by_cases hfits : fits t = true
      · rw [take_of_fits hfits] at h
        cases h
        exact Nat.lt_succ_self _
      · rw [take_of_not hfits] at h
        cases h

theorem Reader.Advances.refuse (what : String) : (Forward.refuse what : Reader α).Advances where
  toLocal := .refuse what
  length_lt := nofun

/-- It is enough that the first of two readers takes a token. -/
theorem Reader.Advances.bind (hq : q.Advances) (hf : ∀ a, (f a).Local) :
    (q >>= f).Advances where
  toLocal := .bind hq.toLocal hf
  length_lt := by
    intro ts rest b h
    cases hr : q ts with
    | ok a mid =>
        rw [bind_of_ok hr] at h
        exact Nat.lt_of_le_of_lt ((hf a).length_le h) (hq.length_lt hr)
    | stop cause mid => rw [bind_of_stop hr] at h; cases h
    | deep mid => rw [bind_of_deep hr] at h; cases h

theorem Reader.Advances.after (hq : q.Local) (hf : ∀ a, (f a).Advances) :
    (q >>= f).Advances where
  toLocal := .bind hq fun a => (hf a).toLocal
  length_lt := by
    intro ts rest b h
    cases hr : q ts with
    | ok a mid =>
        rw [bind_of_ok hr] at h
        exact Nat.lt_of_lt_of_le ((hf a).length_lt h) (hq.length_le hr)
    | stop cause mid => rw [bind_of_stop hr] at h; cases h
    | deep mid => rw [bind_of_deep hr] at h; cases h

theorem length_of_optional (h : q.Advances) {ts rest : List Token} {a : α}
    (hok : optional q ts = .ok (some a) rest) : rest.length < ts.length := by
  unfold optional at hok
  cases hr : q ts with
  | ok b mid =>
      rw [hr] at hok
      cases hok
      exact h.length_lt hr
  | stop cause mid =>
      simp only [hr] at hok
      split at hok <;> cases hok
  | deep mid => rw [hr] at hok; cases hok

end Advances

/-! ## The rules -/

section Rules

variable {expr : Reader Node} (finish : Position)

theorem advances_statement (h : expr.Advances) : (statement expr).Advances := by
  refine .bind h fun node => ?_
  cases node.isComment with
  | true => exact .bind (.takeIf _) fun _ => .pure _
  | false => exact .bind (.take _ _) fun _ => .pure _

/-- Every statement takes a token, so there are not more of them than tokens. -/
theorem statementsUpTo_bound (h : expr.Advances) :
    ∀ n m ts, ts.length ≤ n → ts.length ≤ m →
      statementsUpTo expr n ts = statementsUpTo expr m ts
  | 0, 0, _, _, _ => rfl
  | 0, m + 1, ts, hn, _ => by
      cases ts with
      | nil => rfl
      | cons t ts => cases hn
  | n + 1, 0, ts, _, hm => by
      cases ts with
      | nil => rfl
      | cons t ts => cases hm
  | n + 1, m + 1, ts, hn, hm => by
      unfold statementsUpTo
      refine bind_congr fun done ts₁ h₁ => ?_
      cases h₁
      cases ts.head?.isNone with
      | true => rfl
      | false =>
          refine bind_congr fun found ts₂ h₂ => ?_
          cases found with
          | none => rfl
          | some first =>
              have hlt := length_of_optional (advances_statement h) h₂
              exact bind_congr_left (statementsUpTo_bound h n m ts₂ (by omega) (by omega))

theorem local_statements (h : expr.Advances) : (statements expr).Local := by
  have hupTo : ∀ n, (statementsUpTo expr n).Local := by
    intro n
    induction n with
    | zero => exact .pure []
    | succ n ih =>
        refine .bind .atEnd fun done => ?_
        cases done with
        | true => exact .pure []
        | false =>
            refine .bind (advances_statement h).toLocal.optional fun found => ?_
            cases found with
            | none => exact .pure []
            | some first => exact .bind ih fun rest => .pure _
  exact .ofBound hupTo fun n ts hle => statementsUpTo_bound h _ _ ts hle (Nat.le_refl _)

theorem local_items (h : expr.Advances) : (items finish expr).Local :=
  .bind (.here finish) fun _ => .bind (local_statements h) fun _ => .pure _

theorem local_program (h : expr.Advances) : (program finish expr).Local :=
  .bind (local_items finish h) fun _ => .pure _

theorem advances_comment : comment.Advances := .bind (.take _ _) fun _ => .pure _

theorem literal_of {t : Token} (ts : List Token) (h : t.kind = .literal) :
    ∃ value, t.content = .literal value ∧
      literal (t :: ts) = .ok (.literal value t.span) ts := by
  cases hcontent : t.content with
  | literal value =>
      refine ⟨value, rfl, ?_⟩
      unfold literal
      rw [bind_of_ok (ofKind_of h), hcontent]
      rfl
  | comment _ => rw [Token.kind, hcontent] at h; cases h
  | identifier _ => rw [Token.kind, hcontent] at h; cases h
  | operator _ => rw [Token.kind, hcontent] at h; cases h

theorem advances_literal : literal.Advances := by
  refine .bind (.take _ _) fun token => ?_
  cases token.content with
  | literal value => exact .pure _
  | comment _ => exact .refuse _
  | identifier _ => exact .refuse _
  | operator _ => exact .refuse _

theorem local_arguments (h : expr.Local) (name : Token) : (arguments expr name).Local :=
  .bind (h.row _) fun _ => .bind (.take _ _) fun _ => .pure _

theorem local_afterName (h : expr.Local) (name : Token) : (afterName expr name).Local := by
  refine .bind (.takeIf _) fun found => ?_
  cases found with
  | some _ => exact local_arguments h name
  | none => exact .pure _

theorem advances_block (h : expr.Advances) : (block finish expr).Advances :=
  .bind (.take _ _) fun _ => .bind (local_items finish h) fun _ =>
    .bind (.take _ _) fun _ => .pure _

theorem advances_listLiteral (h : expr.Local) : (listLiteral expr).Advances :=
  .bind (.take _ _) fun _ => .bind (h.row _) fun _ => .bind (.take _ _) fun _ => .pure _

theorem advances_function (h : expr.Local) : (function expr).Advances :=
  .bind (.take _ _) fun _ => .bind ((Reader.Local.take _ _).row _) fun _ =>
    .bind (.take _ _) fun _ => .bind (.take _ _) fun _ => .bind h fun _ => .pure _

theorem local_afterOperand (h : expr.Local) (left : Node) : (afterOperand expr left).Local := by
  refine .bind (.takeIf _) fun found => ?_
  cases found with
  | some symbol => exact .bind h fun _ => .pure _
  | none => exact .pure _

theorem local_afterFirstName (h : expr.Local) (name : Token) :
    (afterFirstName expr name).Local := by
  refine .bind (.takeIf _) fun found => ?_
  cases found with
  | some _ => exact .bind h fun _ => .pure _
  | none => exact .bind (local_afterName h name) fun _ => local_afterOperand h _

theorem length_lt_of_stop {α β : Type} {q : Reader α} {f : α → Reader β} {a : α} {t : Token}
    {ts rest : List Token} {cause : Cause} (hq : q (t :: ts) = .ok a ts) (hf : (f a).Local)
    (hstop : (q >>= f) (t :: ts) = .stop cause rest) : rest.length < (t :: ts).length := by
  rw [bind_of_ok hq] at hstop
  exact Nat.lt_succ_of_le (hf.length_le_of_stop hstop)

theorem length_lt_of_term_stop {ts rest : List Token} {cause : Cause} (h : expr.Advances)
    (hopen : Opening.ofToken? ts.head? ∈ [Opening.name, .literal, .brace, .bracket])
    (hstop : term finish expr ts = .stop cause rest) : rest.length < ts.length := by
  cases ts with
  | nil => exact absurd hopen (by decide)
  | cons t ts =>
      have hcontent := content_of_opening t.content
      rw [term_apply] at hstop
      cases ho : Opening.ofToken? (t :: ts).head? with
      | comment => rw [ho] at hopen; exact absurd hopen (by decide)
      | paren => rw [ho] at hopen; exact absurd hopen (by decide)
      | nothing => rw [ho] at hopen; exact absurd hopen (by decide)
      | name =>
          rw [show Opening.ofContent t.content = .name from ho] at hcontent
          rw [ho] at hstop
          exact length_lt_of_stop (ofKind_of hcontent) (local_afterName h.toLocal t) hstop
      | literal =>
          rw [show Opening.ofContent t.content = .literal from ho] at hcontent
          obtain ⟨value, -, hread⟩ := literal_of ts hcontent
          rw [ho] at hstop
          exact absurd (hread.symm.trans hstop) nofun
      | brace =>
          rw [show Opening.ofContent t.content = .brace from ho] at hcontent
          rw [ho] at hstop
          exact length_lt_of_stop (operator_of_content hcontent)
            (.bind (local_items finish h) fun _ => .bind (.take _ _) fun _ => .pure _) hstop
      | bracket =>
          rw [show Opening.ofContent t.content = .bracket from ho] at hcontent
          rw [ho] at hstop
          exact length_lt_of_stop (operator_of_content hcontent)
            (.bind (h.toLocal.row _) fun _ => .bind (.take _ _) fun _ => .pure _) hstop

theorem yields_term : (term finish expr).Yields fun node => node.isComment = false := by
  refine .bind fun next => ?_
  cases Opening.ofToken? next with
  | name =>
      refine .bind fun name => .bind fun found => ?_
      cases found with
      | some _ => exact .bind fun _ => .bind fun _ => .pure rfl
      | none => exact .pure rfl
  | literal =>
      refine .bind fun token => ?_
      cases token.content with
      | literal value => exact .pure rfl
      | comment _ => exact nofun
      | identifier _ => exact nofun
      | operator _ => exact nofun
  | brace => exact .bind fun _ => .bind fun _ => .bind fun _ => .pure rfl
  | bracket => exact .bind fun _ => .bind fun _ => .bind fun _ => .pure rfl
  | comment => exact nofun
  | paren => exact nofun
  | nothing => exact nofun

theorem advances_term (h : expr.Advances) : (term finish expr).Advances := by
  refine .after .peek fun next => ?_
  cases Opening.ofToken? next with
  | name => exact .bind (.take _ _) fun _ => local_afterName h.toLocal _
  | literal => exact advances_literal
  | brace => exact advances_block finish h
  | bracket => exact advances_listLiteral h.toLocal
  | comment => exact .refuse _
  | paren => exact .refuse _
  | nothing => exact .refuse _

theorem advances_layer (h : expr.Advances) : (layer finish expr).Advances := by
  have hoperation : (term finish expr >>= afterOperand expr).Advances :=
    .bind (advances_term finish h) fun _ => local_afterOperand h.toLocal _
  refine .after .peek fun next => ?_
  cases Opening.ofToken? next with
  | comment => exact advances_comment
  | name => exact .bind (.take _ _) fun _ => local_afterFirstName h.toLocal _
  | paren => exact advances_function h.toLocal
  | literal => exact hoperation
  | brace => exact hoperation
  | bracket => exact hoperation
  | nothing => exact .refuse _

theorem advances_exprUpTo : ∀ depth, (exprUpTo finish depth).Advances
  | 0 => { ok := nofun, stop := nofun, length_lt := nofun }
  | depth + 1 => advances_layer finish (advances_exprUpTo depth)

end Rules

end Forward

end Scriptlet
