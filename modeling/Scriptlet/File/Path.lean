/-
# Paths

Paths are texts with `/` between their components.  Resolving a path is a
matter of text alone: no file is looked at.  A path that begins with `~` has
the home directory put in place of the `~` and is otherwise left as it is;
any other path is made absolute against a base directory and normalised.
-/
import Scriptlet.File.Fault
import Scriptlet.Text.Lines

namespace Scriptlet.File

/-- Where relative paths start and where `~` leads. -/
structure Place where
  /-- The working directory, absolute and normalised. -/
  workingDir : String := "/"
  /-- The home directory. -/
  home : String := "/"
  /-- The home directories of users, by their names. -/
  homes : List (String × String) := []

namespace Path

/-- The components of a path, empty ones included. -/
def components (path : String) : List String :=
  (Text.splitAtChar '/' path.toList).map String.ofList

/-- Components put back together with `/` between them. -/
def ofComponents (parts : List String) : String := "/".intercalate parts

/-- A path that begins at the root. -/
def isAbsolute (path : String) : Bool := path.toList.head? == some '/'

/-- The slashes a normalised path begins with: exactly two are kept, three or
more count as one. -/
def leadingSlashes (path : String) : Nat :=
  match path.toList with
  | '/' :: '/' :: '/' :: _ => 1
  | '/' :: '/' :: _ => 2
  | '/' :: _ => 1
  | _ => 0

/-- One component read while normalising; `kept` holds the earlier ones, the
latest first.  A `..` takes back the latest component where there is one to
take back, vanishes at the root, and stays in a relative path. -/
def normalizeStep (rooted : Bool) (kept : List String) (part : String) : List String :=
  if part == "" || part == "." then kept
  else if part != ".." then part :: kept
  else
    match kept with
    | [] => if rooted then [] else [part]
    | last :: rest => if last == ".." then part :: kept else rest

/-- The path without empty, `.` and resolvable `..` components. -/
def normalize (path : String) : String :=
  let slashes := leadingSlashes path
  let kept := (components path).foldl (normalizeStep (slashes != 0)) []
  let text := String.ofList (List.replicate slashes '/') ++ ofComponents kept.reverse
  if text == "" then "." else text

/-- `path` as seen from `base`; an absolute path stands for itself. -/
def join (base path : String) : String :=
  if isAbsolute path then path
  else if base == "" || base.toList.getLast? == some '/' then base ++ path
  else base ++ "/" ++ path

/-- The absolute, normalised form of a path seen from the working directory. -/
def absolute (place : Place) (path : String) : String :=
  normalize (join place.workingDir path)

/-- A text without the slashes at its end. -/
def dropFinalSlashes (chars : List Char) : List Char :=
  (chars.reverse.dropWhile (· == '/')).reverse

/-- Everything before the last slash, without slashes at its end unless there
is nothing else. -/
def parent (path : String) : String :=
  let upTo := (path.toList.reverse.dropWhile (· != '/')).reverse
  let trimmed := dropFinalSlashes upTo
  String.ofList (if trimmed.isEmpty then upTo else trimmed)

/-- The path with a home directory for its first component, of which `rest` is
what follows. -/
def fromHome (home : String) (rest : List Char) : String :=
  let whole := String.ofList (dropFinalSlashes home.toList ++ rest)
  if whole == "" then "/" else whole

/-- The path with the home directory for a leading `~` component and that of
the user for a leading `~name`; the name of a user who is not known stays. -/
def expandHome (place : Place) (path : String) : Except Fault String :=
  match path.toList with
  | '~' :: rest =>
    let name := rest.takeWhile (· != '/')
    let below := rest.drop name.length
    if name.isEmpty then .ok (fromHome place.home below)
    else if name.contains (Char.ofNat 0) then .error .embeddedNull
    else
      match place.homes.lookup (String.ofList name) with
      | some home => .ok (fromHome home below)
      | none => .ok path
  | _ => .ok path

/-- The path of the file that a script means by `path`, relative paths taken
from `base?` or else from the working directory. -/
def resolve (place : Place) (path : String) (base? : Option String) : Except Fault String :=
  if path.toList.head? == some '~' then expandHome place path
  else if isAbsolute path then .ok (normalize path)
  else
    let base :=
      match base? with
      | none => place.workingDir
      | some base => if base == "" then place.workingDir else base
    .ok (normalize (join base path))

end Path

end Scriptlet.File
