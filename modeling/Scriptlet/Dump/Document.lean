/-
# Documents

Tokens, locations and trees can be dumped for a reader or for another program.
A dump is first a plain `Document` of texts, numbers, sequences and mappings;
how it is written down is a matter of the format.

    token    kind, value, text and place
    node     kind, then the fields of that kind of node, then place

A place is the lines and columns of both ends in one text.  Offsets are left out, and so is
the source: a dump is of one source.

An integer beyond the safe range and a float that is not finite have no faithful
number in every format, so they are dumped as texts.
-/
import Scriptlet.Syntax.Node
import Scriptlet.Numeric.Decimal

namespace Scriptlet

/-- A plain tree of data. -/
inductive Document where
  | text (value : String)
  | integer (value : Int)
  | float (value : Float)
  | flag (value : Bool)
  | seq (items : List Document)
  | map (fields : List (String × Document))
  deriving Inhabited

namespace Document

/-- A literal's value. -/
def ofLiteral : Literal → Document
  | .boolean b => .flag b
  | .integer n => if safeIntegerMax < n then .text (toString n) else .integer n
  | .float x => if x.isFinite then .float x else .text (Decimal.text x)
  | .text s => .text s

def ofContent : Content → Document
  | .comment s | .identifier s | .operator s => .text s
  | .literal l => ofLiteral l

/-- Line and column of both ends of a span. -/
def ofSpan (s : Span) : Document := .text s.summary

def ofSource (source : Source) : Document := .text source.name

def ofToken (t : Token) : Document :=
  .map [("kind", .text t.kind.label), ("value", ofContent t.content), ("text", .text t.lexeme),
    ("loc", ofSpan t.span)]

def ofTokens (tokens : List Token) : Document := .seq (tokens.map ofToken)

/-- A node's fields between its kind and its span. -/
def node (label : String) (fields : List (String × Document)) (span : Span) : Document :=
  .map (("type", .text label) :: fields ++ [("loc", ofSpan span)])

mutual

/-- A node with everything below it. -/
def ofNode : Node → Document
  | .comment s span => node "Comment" [("text", .text s)] span
  | .literal l span => node "Literal" [("value", ofLiteral l)] span
  | .identifier name span => node "Identifier" [("name", .text name)] span
  | .assignment name value span =>
    node "Assignment" [("name", .text name), ("value", ofNode value)] span
  | .function params body span =>
    node "Function" [("params", .seq (params.map .text)), ("body", ofNode body)] span
  | .call callee args span =>
    node "Call" [("callee", .text callee), ("args", .seq (ofNodes args))] span
  | .statements items span => node "StatementList" [("statements", .seq (ofNodes items))] span
  | .block items inner span =>
    node "Block" [("body", node "StatementList" [("statements", .seq (ofNodes items))] inner)] span
  | .list items span => node "ListNode" [("items", .seq (ofNodes items))] span

def ofNodes : List Node → List Document
  | [] => []
  | n :: rest => ofNode n :: ofNodes rest

end

end Document

end Scriptlet
