/-
# Signatures

The parameters of the functions of the library.  A call with too many or too
few arguments is refused before the function does anything; the refusal counts
the object that a method belongs to.  A function of the host looks after its
arguments itself, with a signature or without.
-/
import Scriptlet.Value.Store

namespace Scriptlet

/-- The parameters of a function, the last `optional` of which may be left out. -/
structure Signature where
  /-- The name that refusals use. -/
  title : String
  params : List String
  optional : Nat := 0
  /-- Whether the arguments are counted together with an object. -/
  bound : Bool := false

namespace Signature

/-- How many arguments are needed. -/
def least (sig : Signature) : Nat := sig.params.length - sig.optional

/-- The mishap of calling with `given` arguments, if there is one. -/
def mismatch? (sig : Signature) (given : Nat) : Option Mishap :=
  let extra := if sig.bound then 1 else 0
  if sig.params.length < given then
    some (.tooManyArguments sig.title (sig.least + extra) (sig.params.length + extra)
      (given + extra))
  else if given < sig.least then
    some (.missingArguments sig.title ((sig.params.take sig.least).drop given))
  else none

/-- Refuses a wrong number of arguments. -/
def check (sig : Signature) (args : List Value) : Run Unit :=
  match sig.mismatch? args.length with
  | some mishap => Run.raise mishap
  | none => return

end Signature

/-- The signature of a library function; none for one that takes any number of arguments. -/
def LibraryFunction.signature? (f : LibraryFunction) : Option Signature :=
  let method (params : List String) (optional : Nat) : Option Signature :=
    some ⟨"StdLib._" ++ f.name, params, optional, true⟩
  match f with
  | print | range => none
  | add | sub | mul | div | eq | neq | gt | gte | lt | lte => method ["a", "b"] 0
  | .if => method ["cond", "then_fn", "else_fn"] 1
  | each => method ["items", "fn"] 0
  | push => method ["items", "value"] 0
  | pop => method ["items"] 0
  | get => method ["container", "key"] 0
  | set => method ["container", "key", "value"] 0
  | len => method ["collection"] 0
  | object => method [] 0
  | keys => method ["obj"] 0

end Scriptlet
