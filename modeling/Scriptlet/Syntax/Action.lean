/-
# Parsers driven by hand

A parser may be driven one action at a time: a rule called at the cursor, the
cursor moved, a single token asked for.  `Drive.act` performs one action, and
the answer shows what came of it.

Driven by hand, the cursor may also be set before the first token.  It then
counts from the end, and reading goes on at the first token behind the last:
the tokens stand twice in a row, and the cursor counts from where they begin
for the second time.  Further back than that there is nothing to read.
-/
import Scriptlet.Syntax.Grammar

namespace Scriptlet.Parser

/-- One thing to do with a parser. -/
inductive Action where
  /-- A rule called directly; a failure leaves the cursor where it stopped. -/
  | rule (production : Production)
  /-- A rule with the cursor put back on failure. -/
  | attempt (production : Production)
  /-- Items of a rule with commas between them, up to the closing operator. -/
  | separated (production : Production) (closer : String)
  /-- Moves the cursor; a negative position counts from the end. -/
  | seek (pos : Int)
  /-- A token of a kind given by its label, which need not name any kind. -/
  | expect (label : String)
  | expectOperator (symbol : String)
  | acceptOperator (symbol : String)
  | atOperator (symbol : String)
  | peek
  | here
  | cursorSpan
  | wholeProgram
  | wholeExpression
  deriving Repr

/-- What came of an action. -/
inductive Answer where
  | nothing
  | flag (value : Bool)
  | token (value : Token)
  | node (value : Node)
  | span (value : Span)
  | items (values : List Node)
  | failure (value : Failure)
  | refused (diagnostic : Diagnostic)
  | tooDeep

def kindOfLabel? (label : String) : Option TokenKind :=
  [TokenKind.comment, .identifier, .literal, .operator].find? (·.label == label)

/-- Shows how a parser ended, and the state it left. -/
def answer {α : Type} (show? : α → Answer) : Result α → Answer × State
  | .ok value s => (show? value, s)
  | .fail failure s => (.failure failure, s)
  | .tooDeep s => (.tooDeep, s)

/-- Shows how a whole parse ended. -/
def answerWhole : Except Diagnostic Node × State → Answer × State
  | (.ok node, s) => (.node node, s)
  | (.error diagnostic, s) => (.refused diagnostic, s)

def Answer.ofToken? : Option Token → Answer
  | some t => .token t
  | none => .nothing

/-- Performs one action other than moving the cursor. -/
def Action.read (i : Input) (s : State) : Action → Answer × State
  | .rule production => answer .node (production.parser i s)
  | .attempt production => answer .node (Parser.attempt production.parser i s)
  | .separated production closer => answer .items (Parser.separated production.parser closer i s)
  | .seek _ => (.nothing, s)
  | .expect label =>
    match kindOfLabel? label with
    | some kind => answer .token (Parser.expect kind i s)
    | none => answer .token (failExpecting label i s)
  | .expectOperator symbol => answer .token (Parser.expectOperator symbol i s)
  | .acceptOperator symbol => answer .ofToken? (Parser.acceptOperator symbol i s)
  | .atOperator symbol => answer .flag (Parser.atOperator symbol i s)
  | .peek => answer .ofToken? (Parser.peek i s)
  | .here => answer .span (Parser.here i s)
  | .cursorSpan => answer .span (Parser.cursorSpan i s)
  | .wholeProgram => answerWhole (Parser.wholeProgram i s)
  | .wholeExpression => answerWhole (Parser.wholeExpression i s)

/-! ## Cursors that count from either end -/

/-- A parser driven by hand: tokens that stand twice in a row, of which `origin`
come before the place that the cursor counts from. -/
structure Drive where
  input : Input
  origin : Nat
  state : State
  /-- Where the cursor was set, if that lies before all that can be read. -/
  lost : Option Int := none

namespace Drive

/-- Begins with the first token. -/
def start (source : Source) (tokens : List Token) : Drive where
  input := .ofTokens source (tokens ++ tokens)
  origin := tokens.length
  state := { pos := tokens.length }

/-- An index of the input, counted from the origin. -/
def relative (d : Drive) (index : Nat) : Int := (index : Int) - d.origin

/-- The cursor. -/
def pos (d : Drive) : Int := d.lost.getD (d.relative d.state.pos)

/-- Sets the cursor. -/
def seek (d : Drive) (pos : Int) : Drive :=
  let index := pos + d.origin
  if index < 0 then { d with lost := some pos }
  else { d with lost := none, state := { d.state with pos := index.toNat } }

/-- Performs one action; none when the cursor stands where nothing can be read. -/
def act (d : Drive) : Action → Option (Answer × Drive)
  | .seek pos => some (.nothing, d.seek pos)
  | action =>
    match d.lost with
    | some _ => none
    | none =>
      let (answer, state) := action.read d.input d.state
      some (answer, { d with state := state })

/-- Performs actions in order; each answer comes with the parser behind it. -/
def actAll (d : Drive) : List Action → Option (List (Answer × Drive))
  | [] => some []
  | action :: rest => do
    let (answer, next) ← d.act action
    let more ← next.actAll rest
    return (answer, next) :: more

end Drive

end Scriptlet.Parser
