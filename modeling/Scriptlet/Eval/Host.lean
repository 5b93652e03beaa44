/-
# The host

The program that embeds scripts binds functions of its own beside the library,
and may give an object whose methods are bound too.  What these functions do is
not known here: it is a parameter of the evaluator, a `Host`.

A function of the host is given arguments and then acts step by step, and
`Conduct` says how: it ends with a value or a fault, it changes the store, or it
calls a value and goes on from what came of the call.  Each step may depend on
all that was seen before, the whole store included.  So a function may keep an
argument and call it later, catch a fault, state an error of the script in any
words and at any place, look at what was printed, write into lists, objects and
frames, and change the world outside; running a script of its own is to make a
frame and a closure and to call it.

One thing no function can do, since nothing in the language of the host can
either: unmake what exists.  An `Edit` is a change of the store that takes no
frame away and leaves every frame with each name bound once.

What a host does not do is said where it matters, as a hypothesis about its
conduct: that it leaves the frames alone, say, or that it looks at no locations.
-/
import Scriptlet.Eval.Library

namespace Scriptlet

/-- A change of the store that unmakes nothing. -/
structure Edit where
  make : Store → Store
  /-- No frame is taken away. -/
  grows (s : Store) : s.frames.size ≤ (make s).frames.size
  /-- In no frame is a name bound twice. -/
  distinct (s : Store) : (∀ ref, (s.frame ref).Distinct) → ∀ ref, ((make s).frame ref).Distinct

namespace Edit

/-- A change of a store that leaves the frames as they are. -/
def sparing (make : Store → Store) (h : ∀ s, (make s).frames = s.frames) : Edit where
  make := make
  grows s := Nat.le_of_eq (congrArg Array.size (h s)).symm
  distinct s hs ref := by
    have hframe : (make s).frame ref = s.frame ref := congrArg (·.getD ref {}) (h s)
    exact hframe ▸ hs ref

/-- No change. -/
def none : Edit := sparing id fun _ => rfl

end Edit

/-- What a function does, step by step. -/
inductive Conduct where
  /-- Ends with a value or a fault. -/
  | finish (outcome : Except Fault Value)
  /-- Changes the store, and goes on with what the store was before in view. -/
  | act (edit : Edit) (next : Store → Conduct)
  /-- Calls a value, and goes on from what came of it. -/
  | call (f : Value) (args : List Value) (next : Except Fault Value → Conduct)

namespace Conduct

instance : Inhabited Conduct := ⟨finish (.ok .nothing)⟩

def look (next : Store → Conduct) : Conduct := act .none next

/-- Goes on from a value; a fault ends everything. -/
def orStop (next : Value → Conduct) : Except Fault Value → Conduct
  | .ok v => next v
  | .error fault => finish (.error fault)

/-- Does what a conduct says, given a way to call. -/
def run (call : Value → List Value → Run Value) : Conduct → Run Value
  | finish outcome => Run.ofOutcome outcome
  | act edit next => do
    let before ← Run.exchange edit.make
    (next before).run call
  | .call f args next => do
    let outcome ← (call f args).settle
    (next outcome).run call

end Conduct

/-- The embedding program: what each of its functions does with arguments. -/
structure Host where
  conduct : HostFunction → List Value → Conduct

namespace Host

/-- A host without functions of its own: they do nothing. -/
def none : Host := ⟨fun _ _ => default⟩

instance : Inhabited Host := ⟨none⟩

/-- Calls a function of the host. -/
def apply (host : Host) (call : Value → List Value → Run Value) (f : HostFunction)
    (args : List Value) : Run Value :=
  (host.conduct f args).run call

/-- Something that the object of a host has under a name. -/
structure Member where
  name : String
  value : Value
  /-- Whether it is marked as one that scripts may call. -/
  marked : Bool

/-- The bindings of an object of the host: its members that are marked and can be called. -/
def bindings (members : List Member) : List (String × Value) :=
  (members.filter fun m => m.value.callable?.isSome && m.marked).map fun m => (m.name, m.value)

end Host

end Scriptlet
