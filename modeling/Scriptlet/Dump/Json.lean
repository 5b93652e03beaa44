/-
# Documents as JSON

One item to a line, two spaces deeper at each level.  Only the quote, the
backslash and the control characters below the space are escaped.
-/
import Scriptlet.Dump.Document
import Scriptlet.Text.Quoted

namespace Scriptlet.Document.Json

/-- One character inside a quoted text. -/
def escapeChar (c : Char) : List Char :=
  if c == '"' || c == '\\' then ['\\', c]
  else if c == '\n' then ['\\', 'n']
  else if c == '\r' then ['\\', 'r']
  else if c == '\t' then ['\\', 't']
  else if c == '\x08' then ['\\', 'b']
  else if c == '\x0c' then ['\\', 'f']
  else if c.toNat < 0x20 then '\\' :: 'u' :: Text.hexDigits 4 c.toNat
  else [c]

/-- A text between quotes. -/
def quote (s : String) : String :=
  "\"" ++ String.ofList (s.toList.flatMap escapeChar) ++ "\""

/-- A new line, `depth` levels deep. -/
def newline (depth : Nat) : String := "\n" ++ String.ofList (List.replicate (2 * depth) ' ')

/-- Items on lines of their own between two brackets. -/
def enclose (opening closing : String) (depth : Nat) (items : List String) : String :=
  if items.isEmpty then opening ++ closing
  else
    opening ++ newline (depth + 1) ++ (("," ++ newline (depth + 1)).intercalate items) ++
      newline depth ++ closing

mutual

/-- A document `depth` levels deep. -/
def write (depth : Nat) : Document → String
  | .text s => quote s
  | .integer n => toString n
  | .float x => Decimal.text x
  | .flag b => if b then "true" else "false"
  | .seq items => enclose "[" "]" depth (writeItems (depth + 1) items)
  | .map fields => enclose "\x7b" "\x7d" depth (writeFields (depth + 1) fields)

def writeItems (depth : Nat) : List Document → List String
  | [] => []
  | d :: rest => write depth d :: writeItems depth rest

def writeFields (depth : Nat) : List (String × Document) → List String
  | [] => []
  | (key, d) :: rest => (quote key ++ ": " ++ write depth d) :: writeFields depth rest

end

end Scriptlet.Document.Json
