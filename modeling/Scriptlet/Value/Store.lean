/-
# The store

Everything that evaluation changes:

    lists, objects, frames    what values refer to; a reference stays good for ever
    captured                  the frames that closures were made in, whose bindings are kept
    recorders                 what each runner heard, and where its includes start
    hosted                    what the host keeps for itself, under names of its own
    fresh                     the next mark
    requested                 the files that scripts asked for
    world                     the world outside, as far as scripts see it

Scripts themselves leave the world as it is; functions of the host need not.

`Run` is a computation on the store that may stop with a fault; what it did to
the store before it stopped stays done.

References that are not there read as empty and write nothing, so that operations on the
store are total.  No evaluation comes to one: whatever makes a reference makes what it
refers to.
-/
import Std.Data.HashSet
import Scriptlet.Source.Read
import Scriptlet.Value.Fault
import Scriptlet.Value.Frame
import Scriptlet.Value.Object

namespace Scriptlet

/-- Something that happened while a script ran: a message under some topics. -/
structure Effect where
  topics : List String
  message : String
  deriving DecidableEq, Repr, Inhabited

/-- A printed line. -/
def Effect.stdout (message : String) : Effect := ⟨["stdout"], message⟩

/-- A reported error. -/
def Effect.stderr (message : String) : Effect := ⟨["stderr"], message⟩

/-- A dump made while debugging. -/
def Effect.debug (message : String) : Effect := ⟨["debug"], message⟩

/-- What one runner hears from its functions, and where its includes start. -/
structure Recorder where
  effects : Array Effect := #[]
  sourceDir : Option String := none
  deriving Inhabited

/-- The state of evaluation. -/
structure Store where
  lists : Array (Array Value) := #[]
  objects : Array Object := #[]
  frames : Array Frame := #[]
  /-- The frames that closures were made in. -/
  captured : Std.HashSet FrameRef := {}
  recorders : Array Recorder := #[]
  /-- What the host keeps for itself, under names of its own. -/
  hosted : Frame := {}
  /-- The next mark that was not given out yet. -/
  fresh : Nat := 0
  /-- The files that scripts asked for, the latest first. -/
  requested : List String := []
  world : World := {}
  deriving Inhabited

namespace Store

def list (s : Store) (ref : ListRef) : Array Value := s.lists.getD ref #[]

def object (s : Store) (ref : ObjectRef) : Object := s.objects.getD ref {}

def frame (s : Store) (ref : FrameRef) : Frame := s.frames.getD ref {}

/-- What a runner heard. -/
def recorder (s : Store) (ref : RecorderRef) : Recorder := s.recorders.getD ref {}

/-- Replaces the bindings of a frame. -/
def setFrame (s : Store) (ref : FrameRef) (frame : Frame) : Store :=
  { s with frames := s.frames.setIfInBounds ref frame }

/-- Changes the bindings of a frame. -/
def modifyFrame (s : Store) (ref : FrameRef) (f : Frame → Frame) : Store :=
  { s with frames := s.frames.modify ref f }

/-- Notes that a closure was made in a frame. -/
def capture (s : Store) (ref : FrameRef) : Store :=
  { s with captured := s.captured.insert ref }

/-- Gives up the bindings of a frame, unless a closure was made in it. -/
def release (s : Store) (ref : FrameRef) : Store :=
  if s.captured.contains ref then s else s.setFrame ref {}

/-- Replaces what a runner heard. -/
def setRecorder (s : Store) (ref : RecorderRef) (recorder : Recorder) : Store :=
  { s with recorders := s.recorders.setIfInBounds ref recorder }

/-- Changes the items of a list. -/
def modifyList (s : Store) (ref : ListRef) (f : Array Value → Array Value) : Store :=
  { s with lists := s.lists.modify ref f }

/-- Changes the contents of an object. -/
def modifyObject (s : Store) (ref : ObjectRef) (f : Object → Object) : Store :=
  { s with objects := s.objects.modify ref f }

/-- Lets a runner hear one thing more. -/
def record (s : Store) (ref : RecorderRef) (effect : Effect) : Store :=
  { s with recorders := s.recorders.modify ref fun heard =>
      { heard with effects := heard.effects.push effect } }

end Store

/-- A computation on the store that may stop with a fault. -/
abbrev Run := EStateM Fault Store

namespace Run

/-- Stops with a mishap. -/
def raise {α : Type} (mishap : Mishap) : Run α := throw (.raised mishap)

/-- Stops with a diagnostic at a place. -/
def report {α : Type} (cause : Cause) (location : Location) : Run α :=
  throw (.script ⟨.evaluation, cause, some location⟩)

/-- Goes on from a fault, with the store as the fault left it. -/
def onFault {α : Type} (m : Run α) (handler : Fault → Run α) : Run α := fun s =>
  match m s with
  | .ok a s' => .ok a s'
  | .error fault s' => handler fault s'

/-- What comes of a computation, as a value: a fault does not stop anything. -/
def settle {α : Type} (m : Run α) : Run (Except Fault α) := fun s =>
  match m s with
  | .ok a s' => .ok (.ok a) s'
  | .error fault s' => .ok (.error fault) s'

/-- Comes to a given end. -/
def ofOutcome {α : Type} : Except Fault α → Run α
  | .ok a => return a
  | .error fault => throw fault

/-- Changes the store, and returns it as it was. -/
def exchange (f : Store → Store) : Run Store := fun s => .ok s (f s)

def world : Run World := fun s => .ok s.world s

/-- The text of the file at a path, or why there is none. -/
def textAt (path : String) : Run (Except File.Fault String) := fun s =>
  .ok (s.world.files.textAt s.world.place .utf8 path) s

/-- A mark that was not given out before. -/
def freshMark : Run Nat := fun s => .ok s.fresh { s with fresh := s.fresh + 1 }

def newList (items : Array Value) : Run Value := fun s =>
  .ok (.list s.lists.size) { s with lists := s.lists.push items }

def newObject (object : Object) : Run Value := fun s =>
  .ok (.object s.objects.size) { s with objects := s.objects.push object }

def newFrame (frame : Frame) : Run FrameRef := fun s =>
  .ok s.frames.size { s with frames := s.frames.push frame }

def newRecorder : Run RecorderRef := fun s =>
  .ok s.recorders.size { s with recorders := s.recorders.push {} }

/-- A float as a value; one that is not a number gets a mark of its own. -/
def newFloat (x : Float) : Run Value :=
  if x.isNaN then return .notANumber (← freshMark) else return .float x

def newTuple (items : List Value) : Run Value := do
  return .tuple (← freshMark) items

def frame (ref : FrameRef) : Run Frame := fun s => .ok (s.frame ref) s

/-- The value of a name in a frame; a name that is not bound has none. -/
def lookup (ref : FrameRef) (name : String) : Run Value := fun s =>
  .ok (((s.frame ref).get? name).getD .nothing) s

def bindName (ref : FrameRef) (name : String) (value : Value) : Run Unit := fun s =>
  .ok () (s.modifyFrame ref (·.insert name value))

end Run

end Scriptlet
