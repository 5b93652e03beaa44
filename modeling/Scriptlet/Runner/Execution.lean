/-
# The outcome of a run

An outcome holds a list of effects, and a list can be held in two ways.  The list of
a runner is live: whoever holds it sees it grow as scripts print, and sees it empty
when the next script begins.  A copy of it is a list of its own, on which nothing
that happens later shows.  What an outcome is given is a copy.
-/
import Scriptlet.Value.Store

namespace Scriptlet

/-- Whether a script ran to its end. -/
inductive Status where
  | success
  | error
  deriving DecidableEq, Repr, Inhabited

/-- A list of effects as something holds it. -/
inductive EffectList where
  | own (effects : List Effect)
  /-- The list that what a runner hears is written to. -/
  | live (recorder : RecorderRef)
  deriving Inhabited

namespace EffectList

/-- What is on a list by now. -/
def read (s : Store) : EffectList → List Effect
  | own effects => effects
  | live recorder => (s.recorder recorder).effects.toList

/-- A list of its own with what is on a list by now. -/
def copy (s : Store) (list : EffectList) : EffectList := own (list.read s)

end EffectList

/-- What came of running a script. -/
structure Execution where
  status : Status
  value : Value := .nothing
  error : Option Diagnostic := none
  errorMessage : Option String := none
  effects : EffectList := .own []
  deriving Inhabited

namespace Execution

/-- The report of the error; empty when there was none. -/
def formatError (e : Execution) : String :=
  match e.status, e.error, e.errorMessage with
  | .success, _, _ => ""
  | .error, some d, _ => d.format
  | .error, none, some message => if message == "" then "Unknown error" else message
  | .error, none, none => "Unknown error"

/-- The lines that were printed. -/
def output (s : Store) (e : Execution) : List String :=
  ((e.effects.read s).filter fun effect => effect.topics == ["stdout"]).map (·.message)

end Execution

end Scriptlet
