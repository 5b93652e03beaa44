/-
# Frames

A frame binds names to values, in the order in which the names were first
bound.  Frames are never chained.  A call works on a copy of a frame and
commits the copy when it completes: `commit` writes every binding of the copy
back, and takes none away.
-/
import Scriptlet.Value.Basic
import Scriptlet.Value.Entries

namespace Scriptlet

/-- Bindings of names to values. -/
structure Frame where
  bindings : List (String × Value) := []
  deriving Inhabited

namespace Frame

/-- The value of a name. -/
def get? (frame : Frame) (name : String) : Option Value :=
  Entries.get? (· == ·) name frame.bindings

/-- Binds a name. -/
def insert (frame : Frame) (name : String) (value : Value) : Frame :=
  ⟨Entries.put (· == ·) name value frame.bindings⟩

/-- Unbinds a name. -/
def erase (frame : Frame) (name : String) : Frame :=
  ⟨Entries.erase (· == ·) name frame.bindings⟩

def names (frame : Frame) : List String := frame.bindings.map Prod.fst

/-- Each name is bound once. -/
def Distinct (frame : Frame) : Prop := frame.names.Nodup

/-- The frame with the given bindings, made in order. -/
def ofBindings (bindings : List (String × Value)) : Frame :=
  ⟨Entries.putAll (· == ·) [] bindings⟩

/-- Whether two rows of bindings bind the same names in the same order. -/
def sameNames : List (String × Value) → List (String × Value) → Bool
  | [], [] => true
  | (a, _) :: rest, (b, _) :: more => a == b && sameNames rest more
  | _, _ => false

/-- Writes every binding of `working` back.  Where both bind the same names in
the same order, nothing of the old bindings is left. -/
def commit (frame working : Frame) : Frame :=
  if sameNames frame.bindings working.bindings then working
  else ⟨Entries.putAll (· == ·) frame.bindings working.bindings⟩

/-- Whether a name is bound. -/
def contains (frame : Frame) (name : String) : Bool := (frame.get? name).isSome

/-- How many names are bound. -/
def size (frame : Frame) : Nat := frame.bindings.length

/-- Binds parameters to arguments; a parameter without one is bound to nothing,
an argument without a parameter is dropped. -/
def bindParams (frame : Frame) : List String → List Value → Frame
  | [], _ => frame
  | param :: params, [] => (frame.insert param .nothing).bindParams params []
  | param :: params, arg :: args => (frame.insert param arg).bindParams params args

end Frame

end Scriptlet
