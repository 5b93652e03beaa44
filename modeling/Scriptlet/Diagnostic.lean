/-
# Diagnostics

What goes wrong in a script is reported as a `Diagnostic`: the stage that
found it, the cause, and the place.  All wording is in `Cause.message`, and all
diagnostics are laid out alike by `Diagnostic.format`:

    ParseError: Unexpected token ')'
    line 3: print(x));
                    ^

Tabs before the place are kept in the caret line, so the carets stand under
the characters they mean however wide a tab is shown.
-/
import Scriptlet.Source.Basic
import Scriptlet.Text.Quoted

namespace Scriptlet

/-- The stage that reports an error. -/
inductive Stage where
  | general
  | scanning
  | parsing
  | evaluation
  deriving DecidableEq, Repr, Inhabited

/-- The word that opens the stage's reports. -/
def Stage.label : Stage → String
  | .general => "Error"
  | .scanning => "LexError"
  | .parsing => "ParseError"
  | .evaluation => "EvalError"

/-- Why a script is refused or stopped. -/
inductive Cause where
  /-- A quote that nothing closes. -/
  | unterminatedString
  /-- A character that begins no lexeme. -/
  | unexpectedCharacter (c : Char)
  /-- Another token was needed; `found` is the one that stands there. -/
  | expected (what : String) (found : Option String)
  /-- A token that no statement takes. -/
  | unexpectedToken (text : String)
  /-- The nesting limit of the parser is reached. -/
  | nestedTooDeeply
  /-- The name called is not bound to something that can be called. -/
  | notCallable (callee type : String)
  /-- A library or host function refused its arguments. -/
  | callFailed (callee category reason : String)
  /-- The nesting limit of the evaluator is reached. -/
  | recursionTooDeep
  /-- `include` was not given one text. -/
  | includeArguments
  /-- The included file could not be read or run. -/
  | includeFailed (path detail : String)
  /-- Words chosen by the host. -/
  | stated (text : String)
  deriving DecidableEq, Repr, Inhabited

namespace Cause

/-- A token as a message names it. -/
def describe : Option String → String
  | none => "end of input"
  | some text => Text.quoted text

/-- The words for a cause. -/
def message : Cause → String
  | unterminatedString => "Unterminated string literal"
  | unexpectedCharacter c => "Unexpected character " ++ Text.quoted (String.singleton c)
  | expected what found => "Expected " ++ what ++ ", found " ++ describe found
  | unexpectedToken text => "Unexpected token " ++ Text.quoted text
  | nestedTooDeeply => "Input nested too deeply"
  | notCallable callee type => "'" ++ callee ++ "' is not callable (" ++ type ++ ")"
  | callFailed callee category reason =>
    "'" ++ callee ++ "' failed: " ++ category ++ ": " ++ reason
  | recursionTooDeep => "Maximum recursion depth exceeded"
  | includeArguments => "include expects exactly one path string"
  | includeFailed path detail => "Failed to include '" ++ path ++ "': " ++ detail
  | stated text => text

end Cause

/-- An error with the place it is reported at. -/
structure Diagnostic where
  stage : Stage
  cause : Cause
  location : Option Location := none
  deriving Inhabited

namespace Diagnostic

/-- The words of the diagnostic. -/
def message (d : Diagnostic) : String := d.cause.message

/-- The characters that stand under `lead` in the caret line. -/
def padding (lead : List Char) : List Char :=
  lead.map fun c => if c == '\t' then '\t' else ' '

/-- The part of a location's first line that comes before the location. -/
def lead (loc : Location) (line : List Char) : List Char := line.take (loc.column - 1).toNat

/-- How many carets mark a location in its first line, of which `lead` comes before it. -/
def caretCount (loc : Location) (line lead : List Char) : Nat :=
  let width : Int :=
    if loc.endLine = loc.line then loc.endColumn - loc.column
    else (line.length : Int) - lead.length
  if width < 1 then 1 else width.toNat

/-- The source line of a location and the caret line under it. -/
def excerpt (loc : Location) : String :=
  let line := (loc.source.line loc.line).toList
  let label := ("line " ++ toString loc.line ++ ": ").toList
  let lead := lead loc line
  let carets := List.replicate (caretCount loc line lead) '^'
  String.ofList
    (label ++ line ++ '\n' :: (List.replicate label.length ' ' ++ padding lead ++ carets))

/-- Why a caret line cannot be written. -/
inductive TooWide where
  /-- There are more carets than can be counted. -/
  | uncountable
  /-- There are more carets than can be held. -/
  | unholdable
  deriving DecidableEq, Repr, Inhabited

/-- Whether the caret line of a location is too wide.  No location of a token or
a node is; an embedding program may ask for one that is. -/
def tooWide? (loc : Location) : Option TooWide :=
  let line := (loc.source.line loc.line).toList
  let count := caretCount loc line (lead loc line)
  if 9223372036854775807 < count then some .uncountable
  else if 4294967296 < count then some .unholdable
  else none

/-- The header, and below it the source line with carets where the place is known. -/
def format (d : Diagnostic) : String :=
  let header := d.stage.label ++ ": " ++ d.message
  match d.location with
  | none => header
  | some loc => header ++ "\n" ++ excerpt loc

end Diagnostic

end Scriptlet
