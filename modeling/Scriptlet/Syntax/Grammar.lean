/-
# The grammar

The rules of the language, in the order in which they are tried.  Every rule
that contains an expression takes the parser for that expression as an
argument, so that the whole grammar is one function `layer` from the parser of
inner expressions to the parser of outer ones, and `expressionUpTo` iterates it
as often as expressions may be nested.

    expression     comment, assignment, function, binary operation or term, in this order
    term           call, block, list, literal or name, in this order
    operation      term, operator, expression
    statement      expression and `;`, which may be missing behind a comment

The right side of an operator is a whole expression, so chains group to the right, and no
operator binds more closely than another.

A whole input is read by `wholeProgram` or `wholeExpression`, and is refused if tokens are
left over.  The report is on the failure that got furthest if that lies behind the cursor, and
on the first token left over otherwise: a program never fails by itself, it stops in front of
the statement that it cannot finish, and what was wrong with that is the furthest failure.
-/
import Scriptlet.Syntax.Parser

namespace Scriptlet

namespace Parser

/-- The operators that stand between two operands. -/
def binaryOperators : List String := ["+", "-", "*", "/", "<", "<=", ">", ">=", "==", "!="]

/-- The operator of a token, if it stands between two operands. -/
def binaryOperator? (token : Token) : Option String :=
  match token.content with
  | .operator symbol => if symbol ∈ binaryOperators then some symbol else none
  | _ => none

/-- The text that a comment, a name or an operator means. -/
def textOf (token : Token) : String :=
  match token.content with
  | .comment text | .identifier text | .operator text => text
  | .literal _ => token.lexeme

/-! ## Leaves -/

def comment : Parser Node := do
  let token ← expect .comment
  return .comment (textOf token) token.span

/-- A name standing for its value. -/
def identifier : Parser Node := do
  let token ← expect .identifier
  return .identifier (textOf token) token.span

def literal : Parser Node := do
  let token ← expect .literal
  match token.content with
  | .literal value => return .literal value token.span
  | _ => failExpecting TokenKind.literal.label

/-! ## Rules around an inner expression -/

/-- `name = expression`. -/
def assignment (expression : Parser Node) : Parser Node := do
  let name ← expect .identifier
  let _ ← expectOperator "="
  let value ← expression
  return .assignment (textOf name) value (name.span.merge value.span)

def function (expression : Parser Node) : Parser Node := do
  let opener ← expectOperator "("
  let params ← separated (expect .identifier) ")"
  let _ ← expectOperator ")"
  let _ ← expectOperator "=>"
  let body ← expression
  return .function (params.map textOf) body (opener.span.merge body.span)

/-- `name(expression, …)`. -/
def call (expression : Parser Node) : Parser Node := do
  let name ← expect .identifier
  let _ ← expectOperator "("
  let args ← separated expression ")"
  let closer ← expectOperator ")"
  return .call (textOf name) args (name.span.merge closer.span)

def listLiteral (expression : Parser Node) : Parser Node := do
  let opener ← expectOperator "["
  let items ← separated expression "]"
  let closer ← expectOperator "]"
  return .list items (opener.span.merge closer.span)

def statement (expression : Parser Node) : Parser (Node × Option Span) := do
  let node ← expression
  if node.isComment then
    let separator ← acceptOperator ";"
    return (node, separator.map Token.span)
  else
    let separator ← expectOperator ";"
    return (node, some separator.span)

/-- At most `bound` statements, up to the first that cannot be finished. -/
def statementsUpTo (expression : Parser Node) : Nat → Parser (List (Node × Option Span))
  | 0 => Parser.pure []
  | bound + 1 => do
    if ← atEnd then return []
    match ← optional (statement expression) with
    | none => return []
    | some first =>
      let rest ← statementsUpTo expression bound
      return first :: rest

/-- The spans of a statement and of the `;` behind it. -/
def statementSpans : Node × Option Span → List Span
  | (node, none) => [node.span]
  | (node, some separator) => [node.span, separator]

/-- Statements up to the first that cannot be finished; this never fails.  Each
statement takes a token, so there are not more of them than tokens left. -/
def statementItems (expression : Parser Node) : Parser (List Node × Span) := do
  let start ← here
  let found ← statementsUpTo expression (← tokensLeft)
  let span :=
    match found.flatMap statementSpans with
    | [] => start
    | first :: rest => Span.mergeAll first rest
  return (found.map Prod.fst, span)

def statementList (expression : Parser Node) : Parser Node := do
  let (items, span) ← statementItems expression
  return .statements items span

def block (expression : Parser Node) : Parser Node := do
  let opener ← expectOperator "\x7b"
  let (items, inner) ← statementItems expression
  let closer ← expectOperator "\x7d"
  return .block items inner (opener.span.merge closer.span)

/-! ## Terms and expressions -/

/-- A term, read afresh. -/
def freshTerm (expression : Parser Node) : Parser Node :=
  firstOf (failExpecting "term")
    [call expression, block expression, listLiteral expression, literal, identifier]

/-- A remembered term is taken as it was read, with the cursor where it was left. -/
def fromMemory (entry : Except Failure Node × Nat) (s : State) : Result Node :=
  match entry with
  | (.ok node, stop) => .ok node { s with pos := stop }
  | (.error failure, stop) => .fail failure { s with pos := stop }

/-- Remembers how reading a term at `start` ended. -/
@[noinline]
def toMemory (start : Nat) : Result Node → Result Node
  | .ok node s => .ok node { s with memory := s.memory.insert start (.ok node, s.pos) }
  | .fail failure s =>
    .fail failure { s with memory := s.memory.insert start (.error failure, s.pos) }
  | .tooDeep s => .tooDeep s

/-- A term, from memory if it was read before. -/
def term (expression : Parser Node) : Parser Node := fun i s =>
  if i.remember then
    match s.memory[s.pos]? with
    | some entry => fromMemory entry s
    | none => toMemory s.pos (freshTerm expression i s)
  else freshTerm expression i s

/-- `term operator expression`. -/
def binaryOperation (expression : Parser Node) : Parser Node := do
  let left ← term expression
  match (← peek).bind binaryOperator? with
  | none => failExpecting "operator"
  | some symbol =>
    skip
    let right ← expression
    return .call symbol [left, right] (left.span.merge right.span)

def layer (expression : Parser Node) : Parser Node :=
  firstOf (failExpecting "expression")
    [comment, assignment expression, function expression, binaryOperation expression,
     term expression]

def expressionUpTo : Nat → Parser Node
  | 0 => fun _ s => .tooDeep s
  | depth + 1 => layer (expressionUpTo depth)

/-- An expression, nested as deeply as the input allows. -/
def expression : Parser Node := fun i s => expressionUpTo i.nesting i s

/-! ## Rules by name -/

/-- The rules of the grammar. -/
inductive Production where
  | comment
  | assignment
  | function
  | binaryOperation
  | term
  | call
  | block
  | listLiteral
  | literal
  | identifier
  | expression
  | statementList
  deriving DecidableEq, Repr, Inhabited

def Production.parser : Production → Parser Node
  | comment => Parser.comment
  | assignment => Parser.assignment Parser.expression
  | function => Parser.function Parser.expression
  | binaryOperation => Parser.binaryOperation Parser.expression
  | term => Parser.term Parser.expression
  | call => Parser.call Parser.expression
  | block => Parser.block Parser.expression
  | listLiteral => Parser.listLiteral Parser.expression
  | literal => Parser.literal
  | identifier => Parser.identifier
  | expression => Parser.expression
  | statementList => Parser.statementList Parser.expression

/-! ## Whole inputs -/

/-- A diagnostic at a span of the input. -/
def Input.refuse (i : Input) (cause : Cause) (span : Span) : Diagnostic :=
  ⟨.parsing, cause, some (.ofSpan i.source span)⟩

/-- The diagnostic of a failure. -/
def Input.explain (i : Input) (failure : Failure) : Diagnostic :=
  i.refuse failure.cause failure.span

/-- The diagnostic of an input that is nested too deeply. -/
def Input.explainDepth (i : Input) (s : State) : Diagnostic :=
  i.refuse .nestedTooDeeply (i.cursorSpan s.pos)

/-- The diagnostic for tokens left over: the furthest failure if it lies behind
the cursor, or else the token itself. -/
def Input.explainRest (i : Input) (s : State) (token : Token) : Diagnostic :=
  let leftover := i.refuse (.unexpectedToken token.lexeme) token.span
  match s.furthest with
  | some failure => if s.pos < failure.index then i.explain failure else leftover
  | none => leftover

/-- The node, provided that all tokens are read. -/
def Input.complete (i : Input) (node : Node) (s : State) : Except Diagnostic Node :=
  match i.tokens[s.pos]? with
  | some token => .error (i.explainRest s token)
  | none => .ok node

/-- Reads the rest of the input as a program. -/
def wholeProgram (i : Input) (s : State) : Except Diagnostic Node × State :=
  match statementList expression i s with
  | .ok node s' => (i.complete node s', s')
  | .fail failure s' => (.error (i.explain failure), s')
  | .tooDeep s' => (.error (i.explainDepth s'), s')

/-- Reads the rest of the input as one expression. -/
def wholeExpression (i : Input) (s : State) : Except Diagnostic Node × State :=
  match expression i s with
  | .ok node s' => (i.complete node s', s')
  | .fail failure s' => (.error (i.explain (s'.furthest.getD failure)), s')
  | .tooDeep s' => (.error (i.explainDepth s'), s')

/-- The input made of the tokens of a source. -/
def Input.ofTokens (source : Source) (tokens : List Token) : Input :=
  { source := source, tokens := tokens.toArray }

end Parser

/-- Reads tokens as a program. -/
def parseProgram (source : Source) (tokens : List Token) : Except Diagnostic Node :=
  (Parser.wholeProgram (.ofTokens source tokens) {}).1

/-- Reads tokens as exactly one expression. -/
def parseExpression (source : Source) (tokens : List Token) : Except Diagnostic Node :=
  (Parser.wholeExpression (.ofTokens source tokens) {}).1

end Scriptlet
