/-
# Histories of a frame

What an embedding program can do with a frame, as data: set and look up names,
commit bindings, work on a copy, work in a transaction.  A transaction works on
a copy too, and commits it when its steps finish; an `abort` among them leaves
the frame as it was.
-/
import Scriptlet.Value.Print

namespace Scriptlet

inductive FrameStep where
  /-- Binds a key, which has to be a text. -/
  | set (key value : Value)
  | get (name : String)
  /-- Looks up a name that has to be bound. -/
  | item (name : String)
  | erase (name : String)
  | contains (name : String)
  | size
  | names
  | summary
  | commit (bindings : List (String × Value))
  /-- Steps on a copy, which is then dropped. -/
  | copy (steps : List FrameStep)
  /-- Steps on a copy, which is then committed. -/
  | transaction (steps : List FrameStep)
  | abort

/-- What came of a step. -/
inductive FrameAnswer where
  | done
  | value (v : Value)
  | flag (b : Bool)
  | count (n : Nat)
  | names (ns : List String)
  | text (s : String)
  | unbound (name : String)
  | refused (mishap : Mishap)
  | aborted

/-- A step's answer, the frame behind it, and the reports of the steps inside it. -/
inductive FrameReport where
  | mk (answer : FrameAnswer) (frame : Frame) (inner : Option (List FrameReport))

namespace FrameStep

/-- The value of a name, or that it has none. -/
def itemAnswer (frame : Frame) (name : String) : FrameAnswer :=
  match frame.get? name with
  | some v => .value v
  | none => .unbound name

/-- A report of a step without steps inside it. -/
def plain (answer : FrameAnswer) (frame : Frame) : FrameReport := .mk answer frame none

mutual

/-- Takes a step; none when it is an `abort`. -/
def run (frame : Frame) : FrameStep → Option (FrameReport × Frame)
  | .set (.text name) value =>
    let next := frame.insert name value
    some (plain .done next, next)
  | .set key _ => some (plain (.refused (.badFrameKey key.classWord)) frame, frame)
  | .get name => some (plain (.value ((frame.get? name).getD .nothing)) frame, frame)
  | .item name => some (plain (itemAnswer frame name) frame, frame)
  | .erase name =>
    if frame.contains name then
      let next := frame.erase name
      some (plain .done next, next)
    else some (plain (.unbound name) frame, frame)
  | .contains name => some (plain (.flag (frame.contains name)) frame, frame)
  | .size => some (plain (.count frame.size) frame, frame)
  | .names => some (plain (.names frame.names) frame, frame)
  | .summary => some (plain (.text frame.summary) frame, frame)
  | .commit bindings =>
    let next := frame.commit (.ofBindings bindings)
    some (plain .done next, next)
  | .copy steps =>
    match runAll frame steps with
    | none => some (plain .aborted frame, frame)
    | some (reports, _) => some (.mk .done frame (some reports), frame)
  | .transaction steps =>
    match runAll frame steps with
    | none => some (plain .aborted frame, frame)
    | some (reports, working) =>
      let next := frame.commit working
      some (.mk .done next (some reports), next)
  | .abort => none

/-- Takes steps in order; none when one of them is an `abort`. -/
def runAll (frame : Frame) : List FrameStep → Option (List FrameReport × Frame)
  | [] => some ([], frame)
  | step :: rest =>
    match run frame step with
    | none => none
    | some (report, next) =>
      match runAll next rest with
      | none => none
      | some (reports, last) => some (report :: reports, last)

end

end FrameStep

end Scriptlet
