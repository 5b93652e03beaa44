/-
# Tokens

A token is a lexeme with its meaning and the span it covers.  The meaning of a
comment, a name or an operator is a text; the meaning of a literal is a value.
-/
import Scriptlet.Source.Basic

namespace Scriptlet

/-- The value that a literal writes. -/
inductive Literal where
  | boolean (value : Bool)
  | integer (value : Nat)
  | float (value : Float)
  | text (value : String)
  deriving Inhabited

/-- The largest integer that every float format keeps exactly. -/
def safeIntegerMax : Nat := 9007199254740991

/-- The kinds of token that the grammar tells apart. -/
inductive TokenKind where
  | comment
  | identifier
  | literal
  | operator
  deriving DecidableEq, Repr, Inhabited

/-- The word that messages and dumps use for a kind. -/
def TokenKind.label : TokenKind → String
  | .comment => "comment"
  | .identifier => "identifier"
  | .literal => "literal"
  | .operator => "operator"

inductive Content where
  | comment (text : String)
  | identifier (name : String)
  | literal (value : Literal)
  | operator (symbol : String)
  deriving Inhabited

def Content.kind : Content → TokenKind
  | .comment _ => .comment
  | .identifier _ => .identifier
  | .literal _ => .literal
  | .operator _ => .operator

/-- A lexeme with its meaning and its place. -/
structure Token where
  content : Content
  lexeme : String
  span : Span
  deriving Inhabited

namespace Token

def kind (t : Token) : TokenKind := t.content.kind

/-- Whether the token is the given operator. -/
def isOperator (t : Token) (symbol : String) : Bool :=
  match t.content with
  | .operator s => s == symbol
  | _ => false

/-- How a token is named in a listing. -/
def summary (t : Token) (quoted : String → String) : String :=
  "<Token " ++ t.kind.label ++ " " ++ quoted t.lexeme ++ " at " ++
    toString t.span.start.line ++ ":" ++ toString t.span.start.column ++ ">"

end Token

end Scriptlet
