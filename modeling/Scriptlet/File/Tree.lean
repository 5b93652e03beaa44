/-
# A tree of files

The files that scripts can reach, as a value.  A path is followed component by
component: `..` leads back to where the walk came from, a missing component and
a file in the place of a directory are different faults.
-/
import Scriptlet.File.Encoding
import Scriptlet.File.Path

namespace Scriptlet.File

/-- A file, or a directory of named entries. -/
inductive Tree where
  | file (bytes : ByteArray)
  | dir (entries : List (String × Tree))
  deriving Inhabited

namespace Tree

def empty : Tree := .dir []

/-- The entry of a directory with the given name. -/
def entry? (name : String) : Tree → Option Tree
  | .file _ => none
  | .dir entries => entries.lookup name

/-- Entries with one of them put in or replaced. -/
def putEntry (name : String) (t : Tree) : List (String × Tree) → List (String × Tree)
  | [] => [(name, t)]
  | (n, u) :: rest => if n == name then (n, t) :: rest else (n, u) :: putEntry name t rest

/-- The tree with `t` at the given place; directories on the way are made. -/
def insert : Tree → List String → Tree → Tree
  | _, [], t => t
  | tree, name :: rest, t =>
    let below := (tree.entry? name).getD empty
    let entries :=
      match tree with
      | .dir entries => entries
      | .file _ => []
    .dir (putEntry name (insert below rest t) entries)

/-- The longest name that a directory can hold, in bytes. -/
def nameLimit : Nat := 255

/-- The longest path that can be asked for, in bytes. -/
def pathLimit : Nat := 4095

/-- Follows components from `here`, with the directories above it, the nearest
first; `path` is what faults name. -/
def follow (path : String) (here : Tree) (above : List Tree) : List String → Except Fault Tree
  | [] => .ok here
  | name :: rest =>
    match here with
    | .file _ => .error (.notADirectory path)
    | .dir entries =>
      if name == "" || name == "." then follow path here above rest
      else if name == ".." then
        match above with
        | [] => follow path here [] rest
        | parent :: more => follow path parent more rest
      else if nameLimit < name.utf8ByteSize then .error (.nameTooLong path)
      else
        match entries.lookup name with
        | none => .error (.notFound path)
        | some next => follow path next (here :: above) rest

/-- What stands at a path, seen from the working directory. -/
def at? (root : Tree) (place : Place) (path : String) : Except Fault Tree :=
  if path.toList.contains (Char.ofNat 0) then .error .embeddedNull
  else if path == "" then .error (.notFound path)
  else if pathLimit < path.utf8ByteSize then .error (.nameTooLong path)
  else follow path root [] (Path.components (Path.join place.workingDir path))

/-- The bytes of the file at a path. -/
def bytesAt (root : Tree) (place : Place) (path : String) : Except Fault ByteArray :=
  match root.at? place path with
  | .error fault => .error fault
  | .ok (.dir _) => .error (.isADirectory path)
  | .ok (.file bytes) => .ok bytes

/-- The text of the file at a path. -/
def textAt (root : Tree) (place : Place) (encoding : Encoding) (path : String) :
    Except Fault String :=
  match root.bytesAt place path with
  | .error fault => .error fault
  | .ok bytes => encoding.decode bytes

end Tree

end Scriptlet.File
