/-
# Sources from files

What lies outside of scripts is a `World`: the files, where paths start, and how
far the platform goes.  Evaluation carries it along as part of its state,
because the functions of a host may change it while a script runs: a program
that embeds scripts may let them change the working directory, for one.

How far the platform goes is three numbers (`Limits`): how many tasks may be inside one
another, how deep values are compared and printed, and how much memory there is.  They
differ from one platform to the next, so laws are about all of them; what they are in a new
world is only what is usual.

Reading a source resolves its path against a base directory, finds the file and
decodes it.  The source remembers both the path as it was written, for reports,
and the full path, for the includes inside it.
-/
import Scriptlet.Source.Basic
import Scriptlet.File.Tree

namespace Scriptlet

/-- How far the platform goes. -/
structure Limits where
  /-- How many tasks may be inside one another. -/
  tasks : Nat := 2000
  /-- The depth to which values are compared and printed. -/
  depth : Nat := 500
  /-- The number of bytes beyond which no memory is left.  A character takes one
  byte and an item of a list eight. -/
  memory : Nat := 4294967296

/-- What lies outside of scripts: where paths start, the files, and the limits. -/
structure World where
  place : File.Place := {}
  files : File.Tree := .empty
  limits : Limits := {}

instance : Inhabited World := ⟨{}⟩

/-- Reads the file that a script means by `path`, relative paths taken from
`base?`.  The source is reported under the path as the script wrote it. -/
def Source.read (world : World) (encoding : File.Encoding) (path : String)
    (base? : Option String) : Except File.Fault Source :=
  match File.Path.resolve world.place path base? with
  | .error fault => .error fault
  | .ok full =>
    match world.files.textAt world.place encoding full with
    | .error fault => .error fault
    | .ok text => .ok { text := text, name := path, path := some full }

/-- Reads a file in the encoding with the given name.  The name is looked up
only once the file is known to be there. -/
def Source.readNamed (world : World) (encoding : String) (path : String)
    (base? : Option String) : Except File.Fault Source := do
  let full ← File.Path.resolve world.place path base?
  if encoding.toList.contains (Char.ofNat 0) then throw .nullInEncoding
  let bytes ← world.files.bytesAt world.place full
  let found ← File.Encoding.ofName encoding
  return { text := ← found.decode bytes, name := path, path := some full }

end Scriptlet
