/-
# Syntax trees

A program is a tree of nodes, each with the span it was read from.  A binary
operation is a call whose callee is the operator.  A block is a list of
statements between braces; the statements have a span of their own.
-/
import Scriptlet.Token.Basic

namespace Scriptlet

inductive Node where
  | comment (text : String) (span : Span)
  | literal (value : Literal) (span : Span)
  | identifier (name : String) (span : Span)
  | assignment (name : String) (value : Node) (span : Span)
  | function (params : List String) (body : Node) (span : Span)
  | call (callee : String) (args : List Node) (span : Span)
  | statements (items : List Node) (span : Span)
  | block (items : List Node) (inner : Span) (span : Span)
  | list (items : List Node) (span : Span)
  deriving Inhabited

namespace Node

/-- The span that the node was read from. -/
def span : Node → Span
  | comment _ s | literal _ s | identifier _ s | assignment _ _ s | function _ _ s
  | call _ _ s | statements _ s | block _ _ s | list _ s => s

/-- The word that dumps use for the kind of node. -/
def label : Node → String
  | comment .. => "Comment"
  | literal .. => "Literal"
  | identifier .. => "Identifier"
  | assignment .. => "Assignment"
  | function .. => "Function"
  | call .. => "Call"
  | statements .. => "StatementList"
  | block .. => "Block"
  | list .. => "ListNode"

/-- Whether the node is a comment, which needs no `;` behind it. -/
def isComment : Node → Bool
  | comment .. => true
  | _ => false

/-- The nodes directly below a node, in source order. -/
def children : Node → List Node
  | comment .. | literal .. | identifier .. => []
  | assignment _ value _ => [value]
  | function _ body _ => [body]
  | call _ args _ => args
  | statements items _ => items
  | block items inner _ => [statements items inner]
  | list items _ => items

mutual

/-- The node and everything below it, each node before what is below it. -/
def walk : Node → List Node
  | comment text s => [comment text s]
  | literal value s => [literal value s]
  | identifier name s => [identifier name s]
  | assignment name value s => assignment name value s :: walk value
  | function params body s => function params body s :: walk body
  | call callee args s => call callee args s :: walkAll args
  | statements items s => statements items s :: walkAll items
  | block items inner s => block items inner s :: statements items inner :: walkAll items
  | list items s => list items s :: walkAll items

/-- The walks of several nodes, one behind the other. -/
def walkAll : List Node → List Node
  | [] => []
  | node :: rest => walk node ++ walkAll rest

end

end Node

end Scriptlet
