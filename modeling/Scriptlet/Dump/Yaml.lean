/-
# Documents as YAML

Block style: each field of a mapping on a line of its own, a mapping below a key
two columns deeper, a sequence below a key with its dashes in the column of the
key.  An empty sequence is written `[]`.
-/
import Scriptlet.Dump.Document
import Scriptlet.Dump.Scalar

namespace Scriptlet.Document.Yaml

/-- The text of a scalar, beginning at `column`, later lines indented by `indent`. -/
def writeScalar (column indent : Nat) : Document → String
  | .text s =>
    let chars := s.toList
    String.ofList (writeText (styleOf chars) column indent chars)
  | .integer n => toString n
  | .float x => Decimal.render .pointed x
  | .flag b => if b then "true" else "false"
  | .seq _ => "[]"
  | .map _ => "\x7b\x7d"

def spaces (count : Nat) : String := String.ofList (List.replicate count ' ')

/-- A document that takes lines of its own below its key. -/
def isBlock : Document → Bool
  | .map fields => !fields.isEmpty
  | .seq items => !items.isEmpty
  | _ => false

/-- Where the value of a key in `column` stands: what leads to it, the column
where it begins and the indentation of its later lines. -/
def valuePlace (column : Nat) (key : String) (d : Document) : String × Nat × Nat :=
  if isBlock d then
    let indent :=
      match d with
      | .seq _ => column
      | _ => column + 2
    ("\n" ++ spaces indent, indent, indent)
  else (" ", column + key.length + 2, column + 2)

/-- Entries that each end their line, one below the other in `column`; the line of
the first is begun already. -/
def stack (column : Nat) (entries : List String) : String :=
  (spaces column).intercalate entries

mutual

/-- A document whose first line begins at `column`, later lines indented by
`indent`. -/
def writeAt (column indent : Nat) : Document → String
  | .map (field :: rest) => stack indent (writeFields indent (field :: rest))
  | .seq (item :: rest) => stack indent (writeItems indent (item :: rest))
  | d => writeScalar column indent d ++ "\n"

/-- The fields of a mapping, each with its key in `column`. -/
def writeFields (column : Nat) : List (String × Document) → List String
  | [] => []
  | (key, d) :: rest =>
    let place := valuePlace column key d
    (key ++ ":" ++ place.1 ++ writeAt place.2.1 place.2.2 d) :: writeFields column rest

/-- The items of a sequence, each with its dash in `column`. -/
def writeItems (column : Nat) : List Document → List String
  | [] => []
  | d :: rest => ("- " ++ writeAt (column + 2) (column + 2) d) :: writeItems column rest

end

/-- Whether a document is a text without quotes, a number or a truth value. -/
def isBare : Document → Bool
  | .text s => styleOf s.toList = .plain
  | .integer _ | .float _ | .flag _ => true
  | .seq _ | .map _ => false

/-- A whole document; one that is nothing but a bare scalar is marked as ended. -/
def write (d : Document) : String :=
  if isBare d then writeScalar 0 0 d ++ "\n...\n" else writeAt 0 0 d

end Scriptlet.Document.Yaml
