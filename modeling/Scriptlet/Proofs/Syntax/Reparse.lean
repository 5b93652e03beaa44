/-
# The text of a node is read as the node

Every node of a program has a span, and the span has a text.  That text alone, as a
source of its own, has tokens, and they are read as a tree of the same shape as the
node: statements as a program, everything else as one expression (`node_text_rereads`).

## How

Three facts meet here.

* A node stands on tokens in a row that derive its shape, and its span is around them
  (`Coverage`).
* The text of a span around tokens has the same tokens when it stands alone (`Recut`).
* Tokens are read by what they derive, with nothing in front of them or behind them to
  choose another rule (`Acceptance`).

## Shapes, not trees

The tree that comes out is not the node.  Its places are those of the new source, which
begins where the node did; so it is the shape that is the same (`ReadAs`).

The limit on nesting is treated as in `Acceptance`: with its own limit the parser reads the
tree unless it meets the limit, and with one above the number of tokens it always does.
-/
import Scriptlet.Proofs.Token.Recut
import Scriptlet.Proofs.Syntax.Coverage
import Scriptlet.Proofs.Syntax.Diagnosis

namespace Scriptlet

open Grammar
open Scriptlet.Parser
open Forward (Phrase ProgramTaken Verdict)

/-- The tokens are read as a tree of shape `p`, unless the limit on nesting is met;
a limit above their number is not. -/
def ReadAs (parse : Source → List Token → Except Diagnostic Node)
    (within : Nat → Source → List Token → Except Diagnostic Node) (p : Shape)
    (source : Source) (tokens : List Token) : Prop :=
  (¬ Exhausted (parse source tokens) → Yields (parse source tokens) p) ∧
    ∀ nesting, tokens.length < nesting → Yields (within nesting source tokens) p

/-- The tokens are read as a tree of the shape of the node, by the rule that reads such
a node by itself. -/
def RereadAs : Node → Source → List Token → Prop
  | .statements items span => ReadAs parseProgram programWithin (Node.statements items span).shape
  | node => ReadAs parseExpression expressionWithin node.shape

/-- The text of every node, in whatever source it stands alone, is read as the node. -/
def Reparses (source : Source) (program : Node) : Prop :=
  ∀ node ∈ program.walk, ∀ fresh : Source,
    fresh.text = (Location.ofSpan source node.span).text →
      ∃ tokens, tokenize fresh = .ok tokens ∧ RereadAs node fresh tokens

section Reading

variable {nesting : Nat} {source : Source} {tokens : List Token} {program : Node} {p : Shape}

theorem readAs_program (h : Whole (tokens.map Token.content) p) :
    ReadAs parseProgram programWithin p source tokens := by
  refine ⟨fun hdeep => ?_, fun nesting hnesting => ?_⟩
  · rcases programWithin_answer 500 source tokens with ⟨hno, -⟩ | hiff
    · exact absurd hno hdeep
    · exact (hiff p).2 h
  · exact (yields_programWithin_iff source tokens hnesting p).2 h

theorem readAs_expression (h : Expr (tokens.map Token.content) p) :
    ReadAs parseExpression expressionWithin p source tokens := by
  refine ⟨fun hdeep => ?_, fun nesting hnesting => ?_⟩
  · rcases expressionWithin_answer 500 source tokens with ⟨hno, -⟩ | hiff
    · exact absurd hno hdeep
    · exact (hiff p).2 h
  · exact (yields_expressionWithin_iff source tokens hnesting p).2 h

/-- A node is read again from tokens that derive its shape. -/
theorem rereadAs_of_phrase {node : Node}
    (h : Phrase node (tokens.map Token.content) node.shape) : RereadAs node source tokens := by
  cases node with
  | statements items span => exact readAs_program h
  | _ => exact readAs_expression h

/-- A tree is the answer only where nothing is left over. -/
theorem answer_eq_ok {i : Input} {v : Verdict Node} (h : i.answer v = .ok program) :
    v = .ok program [] := by
  match v with
  | .ok node [] => cases h; rfl
  | .ok node (t :: rest) => cases h
  | .stop cause rest => cases h
  | .deep rest => cases h

theorem programTaken_of_programWithin (h : programWithin nesting source tokens = .ok program) :
    ProgramTaken tokens program := by
  have hanswer :=
    (wholeProgram_eq { Input.ofTokens source tokens with nesting := nesting }).symm.trans h
  have hread : Forward.program source.endPosition
      (Forward.exprUpTo source.endPosition nesting) tokens = .ok program [] :=
    answer_eq_ok hanswer
  have hexpr := Forward.takes_exprUpTo source.endPosition nesting
  have htook := Forward.takes_program source.endPosition hexpr tokens
  rw [hread] at htook
  obtain ⟨us, rfl, htaken⟩ := htook
  rw [List.append_nil]
  exact htaken

theorem reparses_of_programWithin (htokens : tokenize source = .ok tokens)
    (hprogram : programWithin nesting source tokens = .ok program) :
    Reparses source program := by
  obtain ⟨xs, hcut, -, hxs⟩ := tokenize_eq_ok_iff.1 htokens
  have hordered := (ordered_of_cut hcut hxs).1
  intro node hnode fresh hfresh
  obtain ⟨us, hpart, hstands⟩ :=
    (programTaken_of_programWithin hprogram).below hordered node hnode
  obtain ⟨vs, hvs, hcontents⟩ := tokenize_part htokens hpart hstands.span hfresh
  exact ⟨vs, hvs, rereadAs_of_phrase (hcontents ▸ hstands.derives)⟩

end Reading

/-- **The text of a node is read as the node.**  Where a text has tokens and they are
read as a program, by the parser or with another limit on nesting, the text of every
node of the program has tokens too, and they are read as a tree of the shape of the
node, statements as a program and everything else as one expression. -/
theorem node_text_rereads (source : Source) (tokens : List Token) (program : Node)
    (htokens : tokenize source = .ok tokens) :
    (parseProgram source tokens = .ok program → Reparses source program) ∧
      ∀ nesting, programWithin nesting source tokens = .ok program → Reparses source program :=
  ⟨fun hprogram => reparses_of_programWithin htokens hprogram,
    fun _ hprogram => reparses_of_programWithin htokens hprogram⟩

/-- A text that begins with a blank: a function with nothing in its body, and a comment. -/
def emptyBody : Source := { text := " f = (a) => \x7b\x7d; # end" }

def emptyBodyPieces : List Piece :=
  [⟨.whitespace, [' ']⟩, ⟨.identifier, ['f']⟩, ⟨.whitespace, [' ']⟩, ⟨.operator, ['=']⟩,
   ⟨.whitespace, [' ']⟩, ⟨.operator, ['(']⟩, ⟨.identifier, ['a']⟩, ⟨.operator, [')']⟩,
   ⟨.whitespace, [' ']⟩, ⟨.operator, ['=', '>']⟩, ⟨.whitespace, [' ']⟩, ⟨.operator, ['\x7b']⟩,
   ⟨.operator, ['\x7d']⟩, ⟨.operator, [';']⟩, ⟨.whitespace, [' ']⟩,
   ⟨.comment, ['#', ' ', 'e', 'n', 'd']⟩]

def emptyBodyTokens : List Token :=
  [⟨.identifier "f", "f", inFirstLine 1 1⟩, ⟨.operator "=", "=", inFirstLine 3 1⟩,
   ⟨.operator "(", "(", inFirstLine 5 1⟩, ⟨.identifier "a", "a", inFirstLine 6 1⟩,
   ⟨.operator ")", ")", inFirstLine 7 1⟩, ⟨.operator "=>", "=>", inFirstLine 9 2⟩,
   ⟨.operator "\x7b", "\x7b", inFirstLine 12 1⟩, ⟨.operator "\x7d", "\x7d", inFirstLine 13 1⟩,
   ⟨.operator ";", ";", inFirstLine 14 1⟩, ⟨.comment " end", "# end", inFirstLine 16 5⟩]

def emptyBodyTree : Node :=
  .statements
    [.assignment "f"
      (.function ["a"] (.block [] (inFirstLine 13 0) (inFirstLine 12 2)) (inFirstLine 5 9))
      (inFirstLine 1 13),
     .comment " end" (inFirstLine 16 5)]
    (inFirstLine 1 20)

theorem emptyBody_rereads :
    tokenize emptyBody = .ok emptyBodyTokens ∧
      parseProgram emptyBody emptyBodyTokens = .ok emptyBodyTree ∧
      Reparses emptyBody emptyBodyTree := by
  have htokens : tokenize emptyBody = .ok emptyBodyTokens :=
    tokenize_eq_ok_iff.2 ⟨emptyBodyPieces, by decide +kernel, by decide +kernel, rfl⟩
  have hprogram : parseProgram emptyBody emptyBodyTokens = .ok emptyBodyTree :=
    (wholeProgram_eq (.ofTokens emptyBody emptyBodyTokens)).trans rfl
  exact ⟨htokens, hprogram, (node_text_rereads _ _ _ htokens).1 hprogram⟩

end Scriptlet
