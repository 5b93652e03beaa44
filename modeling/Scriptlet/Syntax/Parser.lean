/-
# Parsing with a cursor

A parser reads tokens at a cursor.  It succeeds with a value, fails with a
`Failure` that another alternative may get over, or is cut off because the
input is nested too deeply, which nothing gets over.  Along the way it keeps two things.

* The failure that got furthest, the latest of several.  It explains a whole parse that
  fails, since the alternative that got furthest is most likely the one that was meant.
* A memory of the terms read so far, so that two alternatives that begin with the same term
  read it once.  Without it, reading an expression would take time exponential in how
  deep it is nested.

A failed parser leaves the cursor where it stopped; `attempt` puts it back.  Whether there is
a memory, and how deep expressions may be nested, is a matter of the `Input`, so that
parsers with and without can be compared.

Loops take a bound on their rounds, the number of tokens left, so that they are recursions on
a number.  It is never felt: every round that goes on takes a token.
-/
import Std.Data.HashMap
import Scriptlet.Syntax.Node
import Scriptlet.Diagnostic

namespace Scriptlet

/-- A failure to read something at the token with the given index. -/
structure Failure where
  cause : Cause
  span : Span
  index : Nat
  deriving Inhabited

/-- What a parser reads, and how. -/
structure Parser.Input where
  source : Source
  tokens : Array Token
  /-- The position behind the last character. -/
  finish : Position := source.endPosition
  /-- How many expressions may be nested in one another. -/
  nesting : Nat := 500
  /-- Whether terms are remembered. -/
  remember : Bool := true

/-- A term that was read or failed at some token, and where that left the cursor. -/
abbrev Parser.Memory := Std.HashMap Nat (Except Failure Node × Nat)

/-- What changes while parsing. -/
structure Parser.State where
  /-- The index of the next token. -/
  pos : Nat := 0
  /-- The failure with the largest index, the latest of several. -/
  furthest : Option Failure := none
  memory : Parser.Memory := {}
  deriving Inhabited

/-- How a parser ends. -/
inductive Parser.Result (α : Type) where
  | ok (value : α) (state : Parser.State)
  | fail (failure : Failure) (state : Parser.State)
  | tooDeep (state : Parser.State)

/-- A reader of tokens. -/
def Parser (α : Type) : Type := Parser.Input → Parser.State → Parser.Result α

namespace Parser

/-- The state that a parser leaves behind. -/
def Result.state {α : Type} : Result α → State
  | ok _ s | fail _ s | tooDeep s => s

/-- Succeeds without reading. -/
protected def pure {α : Type} (a : α) : Parser α := fun _ s => .ok a s

/-- Runs one parser and then the one that its value chooses. -/
protected def bind {α β : Type} (p : Parser α) (f : α → Parser β) : Parser β := fun i s =>
  match p i s with
  | .ok a s' => f a i s'
  | .fail e s' => .fail e s'
  | .tooDeep s' => .tooDeep s'

instance : Monad Parser where
  pure := Parser.pure
  bind := Parser.bind

/-! ## The cursor -/

/-- The empty span at token `pos`. -/
def Input.hereSpan (i : Input) (pos : Nat) : Span :=
  match i.tokens[pos]? with
  | some token => Span.point token.span.start
  | none => Span.point i.finish

/-- The span of token `pos`, or the end of the source. -/
def Input.cursorSpan (i : Input) (pos : Nat) : Span :=
  match i.tokens[pos]? with
  | some token => token.span
  | none => Span.point i.finish

def peek : Parser (Option Token) := fun i s => .ok i.tokens[s.pos]? s

/-- The empty span at the cursor. -/
def here : Parser Span := fun i s => .ok (i.hereSpan s.pos) s

/-- The span of the next token. -/
def cursorSpan : Parser Span := fun i s => .ok (i.cursorSpan s.pos) s

def atEnd : Parser Bool := fun i s => .ok (i.tokens.size ≤ s.pos) s

/-- How many tokens are not read yet. -/
def tokensLeft : Parser Nat := fun i s => .ok (i.tokens.size - s.pos) s

/-- Moves past the next token. -/
def skip : Parser Unit := fun _ s => .ok () { s with pos := s.pos + 1 }

/-- Moves the cursor. -/
def seek (pos : Nat) : Parser Unit := fun _ s => .ok () { s with pos := pos }

/-- The later of two failures by index; at the same index the new one. -/
def later (old : Option Failure) (new : Failure) : Option Failure :=
  match old with
  | some f => if f.index ≤ new.index then some new else some f
  | none => some new

def fail {α : Type} (cause : Cause) : Parser α := fun i s =>
  let failure : Failure := ⟨cause, i.cursorSpan s.pos, s.pos⟩
  .fail failure { s with furthest := later s.furthest failure }

/-- Fails because the next token is not what was expected. -/
def failExpecting {α : Type} (what : String) : Parser α := do
  let next ← peek
  fail (.expected what (next.map Token.lexeme))

/-! ## Alternatives -/

/-- A result with the cursor put back to `pos` if it is a failure. -/
@[noinline]
def Result.backTo {α : Type} (pos : Nat) : Result α → Result α
  | .fail e s => .fail e { s with pos := pos }
  | r => r

/-- Runs a parser and puts the cursor back if it fails. -/
def attempt {α : Type} (p : Parser α) : Parser α := fun i s => (p i s).backTo s.pos

/-- The value of a parser, or none, with the cursor put back, if it fails. -/
def optional {α : Type} (p : Parser α) : Parser (Option α) := fun i s =>
  match attempt p i s with
  | .ok a s' => .ok (some a) s'
  | .fail _ s' => .ok none s'
  | .tooDeep s' => .tooDeep s'

/-- The first alternative that succeeds, or else `otherwise`. -/
def firstOf {α : Type} (otherwise : Parser α) : List (Parser α) → Parser α
  | [] => otherwise
  | p :: rest => fun i s =>
    match attempt p i s with
    | .fail _ s' => firstOf otherwise rest i s'
    | r => r

/-! ## Single tokens -/

/-- Reads a token of the given kind. -/
def expect (kind : TokenKind) : Parser Token := fun i s =>
  match i.tokens[s.pos]? with
  | some token =>
    if token.kind = kind then .ok token { s with pos := s.pos + 1 }
    else failExpecting kind.label i s
  | none => failExpecting kind.label i s

/-- Reads the given operator. -/
def expectOperator (symbol : String) : Parser Token := fun i s =>
  match i.tokens[s.pos]? with
  | some token =>
    if token.isOperator symbol then .ok token { s with pos := s.pos + 1 }
    else failExpecting (Text.quoted symbol) i s
  | none => failExpecting (Text.quoted symbol) i s

/-- Reads the given operator if it is next. -/
def acceptOperator (symbol : String) : Parser (Option Token) := fun i s =>
  match i.tokens[s.pos]? with
  | some token =>
    if token.isOperator symbol then .ok (some token) { s with pos := s.pos + 1 }
    else .ok none s
  | none => .ok none s

def atOperator (symbol : String) : Parser Bool := fun i s =>
  .ok (i.tokens[s.pos]?.any (·.isOperator symbol)) s

/-! ## Lists -/

def separatedUpTo {α : Type} (item : Parser α) (closer : String) : Nat → Parser (List α)
  | 0 => Parser.pure []
  | bound + 1 => do
    if ← atOperator closer then return []
    let first ← attempt item
    match ← acceptOperator "," with
    | none => return [first]
    | some _ =>
      let rest ← separatedUpTo item closer bound
      return first :: rest

/-- Items with commas between them and perhaps one behind the last, up to but
without `closer`.  Every comma is a token, so there are not more items than
tokens left, and one. -/
def separated {α : Type} (item : Parser α) (closer : String) : Parser (List α) := do
  let left ← tokensLeft
  separatedUpTo item closer (left + 1)

end Parser

end Scriptlet
