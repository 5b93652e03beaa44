/-
# Source texts and places in them

A `Source` is a script's text with the name it is reported under.  A
`Position` counts characters, lines and columns; a `Span` is what lies between
two positions.  Offsets count from zero, lines and columns from one.

A `Location` says the same of a given source.  Scanner and parser make their
locations from spans (`Location.ofSpan`), but an embedding program may put any
numbers into one, negative ones too, so nothing is promised about them.

Spans merge to the smallest span around both: the earlier of the two starts and
the later of the two ends.  Locations merge only within one source, and which
source is meant is told by its `id`, since two sources may well hold the same
text under the same name.
-/
import Scriptlet.Text.Lines
import Scriptlet.Text.Slice
import Scriptlet.File.Path

namespace Scriptlet

/-- A script's text, the name it is reported under, and its file if it has one. -/
structure Source where
  /-- Tells apart sources that are equal in everything else. -/
  id : Nat := 0
  text : String
  name : String := "<script>"
  path : Option String := none
  deriving Inhabited

/-- A point between two characters of a text. -/
structure Position where
  offset : Nat
  line : Nat
  column : Nat
  deriving DecidableEq, Repr, Inhabited

/-- The characters between two positions. -/
structure Span where
  start : Position
  stop : Position
  deriving DecidableEq, Repr, Inhabited

/-- A stretch of one source: where it begins, how long it is, and the lines and
columns of its two ends. -/
structure Location where
  source : Source
  offset : Int
  length : Int
  line : Int
  column : Int
  endLine : Int
  endColumn : Int
  deriving Inhabited

namespace Position

/-- The beginning of every text. -/
def origin : Position := ⟨0, 1, 1⟩

/-- The position behind `lexeme` when it begins at `p`. -/
def advance (p : Position) (lexeme : List Char) : Position :=
  let offset := p.offset + lexeme.length
  match Text.lines lexeme with
  | [] => ⟨offset, p.line, p.column⟩
  | [only] => ⟨offset, p.line, p.column + only.length⟩
  | _ :: more => ⟨offset, p.line + more.length, (more.getLastD []).length + 1⟩

end Position

namespace Span

/-- The empty span at a position. -/
def point (p : Position) : Span := ⟨p, p⟩

/-- How many characters the span holds. -/
def length (s : Span) : Nat := s.stop.offset - s.start.offset

/-- The characters of the span, of all the characters of a text; what lies
beyond the end of the text is missing. -/
def cut (s : Span) (chars : Array Char) : String :=
  String.ofList (chars.extract s.start.offset s.stop.offset).toList

/-- The smallest span around both. -/
def merge (a b : Span) : Span where
  start := if a.start.offset ≤ b.start.offset then a.start else b.start
  stop := if b.stop.offset ≤ a.stop.offset then a.stop else b.stop

/-- The smallest span around all of them. -/
def mergeAll (first : Span) (rest : List Span) : Span := rest.foldl merge first

/-- Line and column of both ends, as dumps show them. -/
def summary (s : Span) : String :=
  toString s.start.line ++ ":" ++ toString s.start.column ++ "-" ++
    toString s.stop.line ++ ":" ++ toString s.stop.column

end Span

namespace Source

def lines (source : Source) : List String :=
  (Text.lines source.text.toList).map String.ofList

/-- Line `n`, counted from one, or the empty text where there is no such line. -/
def line (source : Source) (n : Int) : String :=
  if n < 1 then "" else source.lines.getD (n.toNat - 1) ""

/-- The position behind the last character, by the line table. -/
def endPosition (source : Source) : Position :=
  let table := source.lines
  ⟨source.text.length, table.length, (table.getLastD "").length + 1⟩

/-- The directory of the source's file. -/
def directory (place : File.Place) (source : Source) : Option String :=
  source.path.map fun path => File.Path.parent (File.Path.absolute place path)

/-- How a source is named in a listing. -/
def summary (source : Source) : String := "<Source " ++ source.name ++ ">"

end Source

namespace Location

def ofSpan (source : Source) (span : Span) : Location where
  source := source
  offset := span.start.offset
  length := span.length
  line := span.start.line
  column := span.start.column
  endLine := span.stop.line
  endColumn := span.stop.column

/-- The offset behind the last character. -/
def stop (loc : Location) : Int := loc.offset + loc.length

/-- The characters of the location. -/
def text (loc : Location) : String :=
  String.ofList (Text.between loc.source.text.toList loc.offset loc.stop)

/-- The empty location behind the last character of a source. -/
def atEnd (source : Source) : Location := ofSpan source (Span.point source.endPosition)

/-- The smallest location around both, for two locations of one source. -/
def merge (a b : Location) : Option Location :=
  if a.source.id = b.source.id then
    let first := if a.offset ≤ b.offset then a else b
    let last := if b.stop ≤ a.stop then a else b
    some
      { source := a.source
        offset := first.offset
        length := last.stop - first.offset
        line := first.line
        column := first.column
        endLine := last.endLine
        endColumn := last.endColumn }
  else none

/-- The smallest location around all of them. -/
def mergeAll (first : Location) (rest : List Location) : Option Location :=
  rest.foldlM merge first

def same (a b : Location) : Bool :=
  a.source.id == b.source.id && a.offset == b.offset && a.length == b.length &&
    a.line == b.line && a.column == b.column && a.endLine == b.endLine &&
    a.endColumn == b.endColumn

/-- How a location is named in a listing. -/
def summary (loc : Location) : String :=
  "<Location " ++ loc.source.name ++ ":" ++ toString loc.line ++ ":" ++ toString loc.column ++
    "+" ++ toString loc.length ++ ">"

end Location

end Scriptlet
