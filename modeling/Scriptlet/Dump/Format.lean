/-
# Formats of dumps
-/
import Scriptlet.Dump.Json
import Scriptlet.Dump.Yaml
import Scriptlet.Text.SmallLetters

namespace Scriptlet

/-- The formats that a document can be written in. -/
inductive DumpFormat where
  | json
  | yaml
  deriving DecidableEq, Repr, Inhabited

/-- The name of a format, in small letters, that is none. -/
structure UnknownFormat where
  name : String
  deriving DecidableEq, Repr

def UnknownFormat.message (u : UnknownFormat) : String := "Unsupported format: " ++ u.name

/-- The format with the given name, in letters of any size. -/
def DumpFormat.ofName (name : String) : Except UnknownFormat DumpFormat :=
  match Text.inSmallLetters name with
  | "json" => .ok .json
  | "yaml" | "yml" => .ok .yaml
  | other => .error ⟨other⟩

/-- A document in the given format. -/
def Document.write (format : DumpFormat) (d : Document) : String :=
  match format with
  | .json => Json.write 0 d
  | .yaml => Yaml.write d

end Scriptlet
