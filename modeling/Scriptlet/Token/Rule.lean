/-
# Lexical rules

A rule says how many characters at the front of a text form one lexeme of its
kind.  Nine rules compete at every position: the one that reaches furthest
wins, and of several that reach equally far the one declared first.

    boolean       `true`, `false`
    float         digits with a point among them, on the left, on the right or in between
    integer       digits
    string        from a quote to the next one of its kind that is not escaped
    comment       from `#` to the end of the line
    identifier    a name; it may hold digits and `$`
    operator      one of the operators and brackets
    newline       one line end, a pair of them counting once
    whitespace    blanks within a line

Digits may have underscores between them and behind them.  A float or an integer has no
sign: that is an operator.  Nothing is a lexeme of no characters, so a rule that reaches
nowhere does not apply.

How far a rule reaches is computed without looking at what other rules do, and without trying
one length after the other.  What the rules stand for as sets of texts is a `Pattern`, and
that both agree is a theorem about them.
-/
import Scriptlet.Token.Basic

namespace Scriptlet

/-- The kinds of lexeme. -/
inductive Rule where
  | boolean
  | float
  | integer
  | string
  | comment
  | identifier
  | operator
  | newline
  | whitespace
  deriving DecidableEq, Repr, Inhabited

namespace Rule

/-- Every rule, in the order that breaks ties. -/
def all : List Rule :=
  [boolean, float, integer, string, comment, identifier, operator, newline, whitespace]

/-- Lexemes of these rules separate tokens and are not tokens themselves. -/
def isSkipped : Rule → Bool
  | newline | whitespace => true
  | _ => false

/-- The operators; one that extends another comes before it. -/
def operators : List String :=
  ["=>", "==", "!=", "<=", ">=",
   "=", "<", ">", "+", "-", "*", "/",
   "(", ")", "\x7b", "\x7d", "[", "]", ",", ";"]

/-- The length of `word` if the text begins with it. -/
def wordLength (text : List Char) (word : String) : Option Nat :=
  if word.toList.isPrefixOf text then some word.length else none

/-- The length of the first of the words that the text begins with. -/
def firstWordLength (words : List String) (text : List Char) : Nat :=
  (words.findSome? (wordLength text)).getD 0

/-- A digit, or the underscore that may stand between digits. -/
def isDigitOrUnderscore (c : Char) : Bool := Text.isAsciiDigit c || c == '_'

/-- How many of the first characters satisfy `p`. -/
def runLength (p : Char → Bool) (text : List Char) : Nat := (text.takeWhile p).length

/-- The length of a digit with the digits and underscores behind it. -/
def integerLength : List Char → Nat
  | [] => 0
  | c :: rest => if Text.isAsciiDigit c then 1 + runLength isDigitOrUnderscore rest else 0

/-- The length of a decimal with a point: digits on the left or on the right of it. -/
def floatLength (text : List Char) : Nat :=
  match text with
  | '.' :: rest =>
    match integerLength rest with
    | 0 => 0
    | n + 1 => n + 2
  | _ =>
    match integerLength text with
    | 0 => 0
    | n + 1 =>
      match text.drop (n + 1) with
      | '.' :: rest => n + 2 + runLength isDigitOrUnderscore rest
      | _ => 0

/-- The length up to and with the quote that ends a string, none when nothing
ends it.  A backslash takes the next character with it, whatever that is. -/
def closingLength (quote : Char) : List Char → Option Nat
  | [] => none
  | ['\\'] => none
  | '\\' :: _ :: rest => (closingLength quote rest).map (· + 2)
  | c :: rest => if c == quote then some 1 else (closingLength quote rest).map (· + 1)

/-- The length of a string between two quotes of one kind. -/
def stringLength : List Char → Nat
  | '"' :: rest => ((closingLength '"' rest).map (· + 1)).getD 0
  | '\'' :: rest => ((closingLength '\'' rest).map (· + 1)).getD 0
  | _ => 0

/-- The length of a comment, which lasts up to the end of its line. -/
def commentLength : List Char → Nat
  | '#' :: rest => 1 + runLength (fun c => !Text.isLineEnd c) rest
  | _ => 0

/-- A character that a name may begin with. -/
def isNameStart (c : Char) : Bool :=
  c == '$' || (Text.isWordChar c && !Text.isDecimalDigit c)

/-- A character that a name may go on with. -/
def isNamePart (c : Char) : Bool := c == '$' || Text.isWordChar c

def identifierLength : List Char → Nat
  | [] => 0
  | c :: rest => if isNameStart c then 1 + runLength isNamePart rest else 0

/-- The length of one line end. -/
def newlineLength : List Char → Nat
  | '\r' :: '\n' :: _ => 2
  | c :: _ => if Text.isLineEnd c then 1 else 0
  | [] => 0

/-- White space within a line. -/
def isInlineBlank (c : Char) : Bool := Text.isBlank c && !Text.isLineEnd c

/-- How many characters at the front of the text the rule takes; zero when it
does not apply. -/
def reach : Rule → List Char → Nat
  | boolean => firstWordLength ["true", "false"]
  | float => floatLength
  | integer => integerLength
  | string => stringLength
  | comment => commentLength
  | identifier => identifierLength
  | operator => firstWordLength operators
  | newline => newlineLength
  | whitespace => runLength isInlineBlank

/-- `best`, or `rule` with its reach if that is further. -/
def further (text : List Char) (best : Option (Rule × Nat)) (rule : Rule) : Option (Rule × Nat) :=
  let n := rule.reach text
  match best with
  | some (_, m) => if m < n then some (rule, n) else best
  | none => if 0 < n then some (rule, n) else none

/-- The rule that reaches furthest, with its reach; none when no rule applies. -/
def winner (text : List Char) : Option (Rule × Nat) := all.foldl (further text) none

theorem further_pos {text : List Char} {best : Option (Rule × Nat)} {rule r : Rule} {n : Nat}
    (hbest : ∀ r n, best = some (r, n) → 0 < n) (h : further text best rule = some (r, n)) :
    0 < n := by
  unfold further at h
  grind

theorem winner_pos {text : List Char} {r : Rule} {n : Nat} (h : winner text = some (r, n)) :
    0 < n := by
  have fold : ∀ (rules : List Rule) (best : Option (Rule × Nat)),
      (∀ r n, best = some (r, n) → 0 < n) →
      ∀ r n, rules.foldl (further text) best = some (r, n) → 0 < n := by
    intro rules
    induction rules with
    | nil => intro best hbest r n h; exact hbest r n h
    | cons rule rules ih =>
      intro best hbest r n h
      exact ih _ (fun _ _ h' => further_pos hbest h') r n h
  exact fold all none (by simp) r n h

end Rule

end Scriptlet
