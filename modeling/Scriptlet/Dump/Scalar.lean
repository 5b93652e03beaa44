/-
# Texts in YAML

A text is written plain where a reader would take it back as the same text,
between single quotes where it would not, and between double quotes where it
holds characters that only an escape can write.  Long texts are folded: a space
that stands beyond the eightieth column becomes a new line.

Everything here works on one text that begins in a given column and whose later
lines are indented by a given width.
-/
import Scriptlet.Text.Pattern
import Scriptlet.Text.Quoted

namespace Scriptlet.Document.Yaml

open Text (Pattern)

/-! ## What a plain text would be read as -/

/-- Words read as a truth value. -/
def flagPattern : Pattern :=
  .words ["yes", "Yes", "YES", "no", "No", "NO", "true", "True", "TRUE", "false", "False", "FALSE",
    "on", "On", "ON", "off", "Off", "OFF"]

/-- Words read as no value, as the default value or as a merge. -/
def markPattern : Pattern := .words ["", "~", "null", "Null", "NULL", "=", "<<"]

def sign : Pattern := .opt (.oneOf "-+")

def digit : Pattern := .range '0' '9'

/-- Digits with underscores between them. -/
def digitsTail : Pattern := .star (.any [digit, .oneOf "_"])

/-- Groups of sixty, as in times and angles. -/
def sixties : Pattern := .plus (.row [.oneOf ":", .opt (.range '0' '5'), digit])

/-- Texts read as an integer. -/
def integerPattern : Pattern :=
  .any
    [.row [sign, .word "0b", .plus (.oneOf "01_")],
     .row [sign, .word "0", .plus (.oneOf "01234567_")],
     .row [sign, .any [.word "0", .seq (.range '1' '9') digitsTail]],
     .row [sign, .word "0x", .plus (.oneOf "0123456789abcdefABCDEF_")],
     .row [sign, .range '1' '9', digitsTail, sixties]]

/-- An optional exponent, always signed. -/
def exponent : Pattern := .opt (.row [.oneOf "eE", .oneOf "-+", .plus digit])

/-- Texts read as a float. -/
def floatPattern : Pattern :=
  .any
    [.row [sign, digit, digitsTail, .oneOf ".", digitsTail, exponent],
     .row [.oneOf ".", digit, digitsTail, exponent],
     .row [sign, digit, digitsTail, sixties, .oneOf ".", digitsTail],
     .row [sign, .oneOf ".", .words ["inf", "Inf", "INF"]],
     .row [.oneOf ".", .words ["nan", "NaN", "NAN"]]]

/-- One or two digits. -/
def shortNumber : Pattern := .row [.opt digit, digit]

/-- A year of four digits. -/
def year : Pattern := .row [digit, digit, digit, digit]

/-- Texts read as a day, or as a day and a time. -/
def timePattern : Pattern :=
  let blanks := Pattern.oneOf " \t"
  let zone := Pattern.row [.oneOf "-+", shortNumber, .opt (.row [.oneOf ":", digit, digit])]
  .any
    [.row [year, .oneOf "-", digit, digit, .oneOf "-", digit, digit],
     .row [year, .oneOf "-", shortNumber, .oneOf "-", shortNumber,
       .any [.oneOf "Tt", .plus blanks],
       shortNumber, .oneOf ":", digit, digit, .oneOf ":", digit, digit,
       .opt (.row [.oneOf ".", .star digit]),
       .opt (.row [.star blanks, .any [.oneOf "Z", zone]])]]

/-- Whether a plain text would be read as something else than a text. -/
def readsOtherwise (s : List Char) : Bool :=
  (Pattern.any [flagPattern, markPattern, integerPattern, floatPattern, timePattern]).accepts s

/-! ## Which style a text needs -/

/-- How a text is written. -/
inductive Style where
  | plain
  | single
  | double
  deriving DecidableEq, Repr

/-- A character that breaks a line. -/
def isBreak (c : Char) : Bool :=
  c == '\n' || c == '\u0085' || c == '\u2028' || c == '\u2029'

/-- A character that only an escape can write. -/
def isSpecial (c : Char) : Bool :=
  let n := c.toNat
  !(n == 0x0A || (0x20 ≤ n && n ≤ 0x7E) || n == 0x85 || (0xA0 ≤ n && n ≤ 0xD7FF) ||
    (0xE000 ≤ n && n ≤ 0xFFFD && n != 0xFEFF) || (0x10000 ≤ n && n ≤ 0x10FFFE))

/-- A character that ends a word. -/
def isGap (c : Char) : Bool :=
  c == Char.ofNat 0 || c == ' ' || c == '\t' || c == '\r' || isBreak c

/-- A space next to a line break, on either side of it. -/
def spaceMeetsBreak : List Char → Bool
  | a :: b :: rest =>
    (a == ' ' && isBreak b) || (isBreak a && b == ' ') || spaceMeetsBreak (b :: rest)
  | _ => false

/-- Nothing, or a character that ends a word. -/
def endsWord : List Char → Bool
  | [] => true
  | c :: _ => isGap c

/-- A first character that would be taken for structure. -/
def startsStructure : List Char → Bool
  | [] => false
  | c :: rest =>
    "#,[]\x7b\x7d&*!|>'\"%@\x60".toList.contains c ||
      ((c == '?' || c == ':' || c == '-') && endsWord rest)

/-- A `:` before a gap, or a `#` behind one. -/
def holdsStructure : List Char → Bool
  | [] => false
  | c :: rest =>
    (c == ':' && endsWord rest) || (isGap c && rest.head? == some '#') || holdsStructure rest

/-- Whether a text can stand without quotes. -/
def isPlain (s : List Char) : Bool :=
  !(s.isEmpty || s.any isBreak || s.head? == some ' ' || s.getLast? == some ' ' ||
    "---".toList.isPrefixOf s || "...".toList.isPrefixOf s || startsStructure s ||
    holdsStructure s || readsOtherwise s)

/-- The plainest style that a text can be written in. -/
def styleOf (s : List Char) : Style :=
  if s.any isSpecial || spaceMeetsBreak s then .double
  else if isPlain s then .plain
  else .single

/-! ## Writing and folding -/

/-- The column beyond which texts are folded. -/
def width : Nat := 80

/-- What is written so far on the way through a text, and the column it reaches. -/
structure Pen where
  column : Nat
  /-- The indentation of later lines. -/
  indent : Nat
  /-- Written characters, the latest first. -/
  written : List Char := []

/-- Writes characters of the current line. -/
def Pen.put (pen : Pen) (chars : List Char) : Pen :=
  { pen with column := pen.column + chars.length, written := chars.reverse ++ pen.written }

/-- Begins a new line. -/
def Pen.fold (pen : Pen) : Pen :=
  { pen with
    column := pen.indent
    written := List.replicate pen.indent ' ' ++ '\n' :: pen.written }

/-- The classes of character that folding treats alike. -/
inductive RunKind where
  | spaces
  | breaks
  | other
  deriving DecidableEq

/-- The class of a character. -/
def RunKind.of (c : Char) : RunKind :=
  if c == ' ' then .spaces else if isBreak c then .breaks else .other

/-- A text cut where the class of its characters changes. -/
def runs : List Char → List (List Char)
  | [] => []
  | c :: rest =>
    match runs rest with
    | (d :: run) :: more =>
      if RunKind.of c = RunKind.of d then (c :: d :: run) :: more else [c] :: (d :: run) :: more
    | other => [c] :: other

/-- Writes a plain text run by run: a lone space beyond the width becomes a new line. -/
def Pen.plainRun (pen : Pen) (run : List Char) : Pen :=
  if run == [' '] && width < pen.column then pen.fold else pen.put run

/-- The line breaks of a run inside single quotes, with the one more that keeps
a first `\n` from being read as a space. -/
def breakLines (run : List Char) : List Char :=
  (if run.head? == some '\n' then ['\n'] else []) ++ run

/-- Writes one run inside single quotes; `inside` says that it is neither the
first nor the last. -/
def Pen.singleRun (pen : Pen) (inside : Bool) (run : List Char) : Pen :=
  match run with
  | [] => pen
  | c :: _ =>
    match RunKind.of c with
    | .spaces => if inside && run == [' '] && width < pen.column then pen.fold else pen.put run
    | .breaks =>
      { pen with
        column := pen.indent
        written := List.replicate pen.indent ' ' ++ (breakLines run).reverse ++ pen.written }
    | .other => pen.put (run.flatMap fun c => if c == '\'' then ['\'', '\''] else [c])

/-- Writes runs inside single quotes. -/
def Pen.singleRuns (pen : Pen) (first : Bool) : List (List Char) → Pen
  | [] => pen
  | run :: rest => (pen.singleRun (!first && !rest.isEmpty) run).singleRuns false rest

/-- Characters that double quotes hold as they are. -/
def isUnescaped (c : Char) : Bool :=
  let n := c.toNat
  ((0x20 ≤ n && n ≤ 0x7E) || (0xA0 ≤ n && n ≤ 0xD7FF) || (0xE000 ≤ n && n ≤ 0xFFFD)) &&
    !(c == '"' || c == '\\' || n == 0x2028 || n == 0x2029 || n == 0xFEFF)

/-- The letter that stands for a character behind a backslash. -/
def escapeLetter? (c : Char) : Option Char :=
  [(0x00, '0'), (0x07, 'a'), (0x08, 'b'), (0x09, 't'), (0x0A, 'n'), (0x0B, 'v'), (0x0C, 'f'),
   (0x0D, 'r'), (0x1B, 'e'), (0x22, '"'), (0x5C, '\\'), (0x85, 'N'), (0x2028, 'L'),
   (0x2029, 'P')].lookup c.toNat

def escape (c : Char) : List Char :=
  let upper (width : Nat) : List Char := (Text.hexDigits width c.toNat).map Char.toUpper
  match escapeLetter? c with
  | some letter => ['\\', letter]
  | none =>
    if c.toNat ≤ 0xFF then '\\' :: 'x' :: upper 2
    else if c.toNat ≤ 0xFFFF then '\\' :: 'u' :: upper 4
    else '\\' :: 'U' :: upper 8

/-- Writes the inside of double quotes.  `pending` are the characters met but not
written yet, the latest first; `inside` says that the next character is not the
first.  Where the line is full it is broken before a space or behind an escape,
and a backslash keeps the break from being read. -/
def Pen.double (pen : Pen) (pending : List Char) (inside : Bool) : List Char → Pen
  | [] => pen.put pending.reverse
  | c :: rest =>
    let mayFold := inside && !rest.isEmpty
    if isUnescaped c then
      if mayFold && (c == ' ' || pending.isEmpty) && width < pen.column + pending.length then
        let folded := (pen.put (pending.reverse ++ ['\\'])).fold
        let folded := if c == ' ' then folded.put ['\\'] else folded
        folded.double [c] true rest
      else pen.double (c :: pending) true rest
    else
      let escaped := (pen.put pending.reverse).put (escape c)
      -- The column counts as one less here: the escaped character is already behind.
      if mayFold && width + 1 < escaped.column then
        let folded := (escaped.put ['\\']).fold
        let folded := if rest.head? == some ' ' then folded.put ['\\'] else folded
        folded.double [] true rest
      else escaped.double [] true rest

/-- A text in the given style, beginning at `column`, later lines indented by `indent`. -/
def writeText (style : Style) (column indent : Nat) (s : List Char) : List Char :=
  match style with
  | .plain => ((runs s).foldl Pen.plainRun ⟨column, indent, []⟩).written.reverse
  | .single =>
    ((Pen.put ⟨column, indent, []⟩ ['\'']).singleRuns true (runs s)).written.reverse ++ ['\'']
  | .double => ((Pen.put ⟨column, indent, []⟩ ['"']).double [] false s).written.reverse ++ ['"']

end Scriptlet.Document.Yaml
