/-
# Scanning

A text is cut into lexemes from left to right, each the longest that some rule
allows, until the text ends or no rule applies.  `segment` does the cutting and
never fails: what it could not cut is left in `unread`.  `tokenize` gives the
lexemes that are not separators their meaning and reports what was left.

Positions are counted along, lexeme by lexeme; nothing is looked up in a table of lines.

An integer of more than `digitLimit` digits has no meaning; the report of it is
not a diagnostic of the script but an ordinary fault (`TooManyDigits`).  It comes before
any report of what was left, which lies behind it.
-/
import Scriptlet.Token.Rule
import Scriptlet.Diagnostic
import Scriptlet.Numeric.Decimal

namespace Scriptlet

/-- A piece of the text, cut by one rule. -/
structure Lexeme where
  rule : Rule
  chars : List Char
  span : Span

/-- A text cut into lexemes, up to where no rule applied. -/
structure Segmentation where
  lexemes : List Lexeme
  /-- Where the cutting stopped. -/
  stop : Position
  /-- The text behind that position. -/
  unread : List Char

/-- Cuts a text that begins at `start`. -/
def segment (text : List Char) (start : Position) : Segmentation :=
  match text with
  | [] => ⟨[], start, []⟩
  | c :: rest =>
    match _h : Rule.winner (c :: rest) with
    | none => ⟨[], start, c :: rest⟩
    | some (rule, n) =>
      let chars := (c :: rest).take n
      let stop := start.advance chars
      let tail := segment ((c :: rest).drop n) stop
      { tail with lexemes := ⟨rule, chars, ⟨start, stop⟩⟩ :: tail.lexemes }
termination_by text.length
decreasing_by
  have := Rule.winner_pos _h
  simp [List.length_drop]
  omega

/-- The most digits that an integer may be written with. -/
def digitLimit : Nat := 4300

/-- An integer written with more than `digitLimit` digits. -/
structure TooManyDigits where
  count : Nat
  deriving DecidableEq, Repr, Inhabited

/-- Why a text has no tokens. -/
inductive ScanError where
  | refused (diagnostic : Diagnostic)
  | tooManyDigits (fault : TooManyDigits)
  deriving Inhabited

namespace Lexeme

/-- The character that a backslash and `c` stand for. -/
def unescapeChar (c : Char) : Char :=
  if c == 'n' then '\n'
  else if c == 't' then '\t'
  else if c == 'r' then '\r'
  else if c == '0' then Char.ofNat 0
  else c

/-- The inside of a string with its escapes replaced. -/
def unescape : List Char → List Char
  | '\\' :: c :: rest => unescapeChar c :: unescape rest
  | c :: rest => c :: unescape rest
  | [] => []

/-- The text between the two quotes. -/
def inside (chars : List Char) : List Char := (chars.drop 1).dropLast

/-- The digits of a number, without the underscores between them. -/
def digits (chars : List Char) : List Char := chars.filter (· != '_')

/-- The value of a decimal with a point. -/
def floatValue (chars : List Char) : Float :=
  let plain := digits chars
  Decimal.ofDigits false (plain.takeWhile (· != '.')) ((plain.dropWhile (· != '.')).drop 1) 0

/-- The meaning of a lexeme; separators have none. -/
def content (lexeme : Lexeme) : Except TooManyDigits (Option Content) :=
  let chars := lexeme.chars
  match lexeme.rule with
  | .boolean => .ok (some (.literal (.boolean (chars == "true".toList))))
  | .float => .ok (some (.literal (.float (floatValue chars))))
  | .integer =>
    let plain := digits chars
    if digitLimit < plain.length then .error ⟨plain.length⟩
    else .ok (some (.literal (.integer (Decimal.digitsValue plain))))
  | .string => .ok (some (.literal (.text (String.ofList (unescape (inside chars))))))
  | .comment => .ok (some (.comment (String.ofList (chars.drop 1))))
  | .identifier => .ok (some (.identifier (String.ofList chars)))
  | .operator => .ok (some (.operator (String.ofList chars)))
  | .newline | .whitespace => .ok none

/-- The token of a lexeme, if it is not a separator. -/
def token? (lexeme : Lexeme) : Except TooManyDigits (Option Token) :=
  lexeme.content.map fun content? =>
    content?.map fun content => ⟨content, String.ofList lexeme.chars, lexeme.span⟩

end Lexeme

/-- The tokens of a list of lexemes, up to the first that has no meaning. -/
def tokensOf : List Lexeme → Except TooManyDigits (List Token)
  | [] => .ok []
  | lexeme :: rest =>
    match lexeme.token? with
    | .error fault => .error fault
    | .ok none => tokensOf rest
    | .ok (some token) =>
      match tokensOf rest with
      | .error fault => .error fault
      | .ok tokens => .ok (token :: tokens)

/-- The report that no lexeme begins with `c`, which stands at `p`. -/
def strayCharacter (source : Source) (p : Position) (c : Char) : Diagnostic where
  stage := .scanning
  cause := if c == '"' || c == '\'' then .unterminatedString else .unexpectedCharacter c
  location := some (.ofSpan source ⟨p, ⟨p.offset + 1, p.line, p.column + 1⟩⟩)

def tokenize (source : Source) : Except ScanError (List Token) :=
  let cut := segment source.text.toList .origin
  match tokensOf cut.lexemes, cut.unread with
  | .error fault, _ => .error (.tooManyDigits fault)
  | .ok tokens, [] => .ok tokens
  | .ok _, c :: _ => .error (.refused (strayCharacter source cut.stop c))

end Scriptlet
