/-
# Values

What scripts compute with.  Lists, objects and frames live in a store and are
values only by reference, so that two names can share one of them.  Everything
else is a value by itself.

Two kinds of number stand by themselves.  An integer literal beyond the safe range is marked
as large, which shows where it is printed and nowhere in what it computes.  A result that is
not a number has a mark of its own, since containers find it again only by that.  Tuples, rows
that do not change, begin with the host: no script makes one out of anything else.

A function is one of three things: a closure made by a script, a function of the
library, which reports to the runner that it belongs to, or a function of the
host, be it a method of the host's object or any other.  The first two are known
through and through.  Of a function of the host a value has only what shows: a
mark, a name and a word for its type.
-/
import Scriptlet.Syntax.Node

namespace Scriptlet

abbrev ListRef := Nat

abbrev ObjectRef := Nat

abbrev FrameRef := Nat

/-- Which recorder of the store: who hears what is printed. -/
abbrev RecorderRef := Nat

/-- A function made by a script: its parameters and body, the source that they
come from, the frame that it was made in and the runner that evaluates it. -/
structure Closure where
  /-- Tells closures apart that are equal in everything else. -/
  id : Nat
  params : List String
  body : Node
  source : Source
  frame : FrameRef
  recorder : RecorderRef
  deriving Inhabited

inductive LibraryFunction where
  | print
  | add
  | sub
  | mul
  | div
  | eq
  | neq
  | gt
  | gte
  | lt
  | lte
  | if
  | each
  | push
  | pop
  | get
  | set
  | range
  | len
  | object
  | keys
  deriving DecidableEq, Hashable, Repr, Inhabited

/-- A function of the embedding program, as far as values show it.  What it does
is not in the value: that is up to the `Host`. -/
structure HostFunction where
  /-- Tells functions apart that are shown alike. -/
  id : Nat
  name : String
  /-- The word that messages use for its type. -/
  type : String := "function"
  deriving DecidableEq, Hashable, Repr, Inhabited

/-- Something that can be called. -/
inductive Callable where
  | closure (c : Closure)
  | library (recorder : RecorderRef) (f : LibraryFunction)
  | host (f : HostFunction)
  deriving Inhabited

/-- The values of the language.  `big` marks an integer literal beyond the safe
range; it computes like any other integer.  A result that is not a number
carries the mark of the operation that made it, because containers find such a
value again only by that mark. -/
inductive Value where
  | nothing
  | bool (b : Bool)
  | int (n : Int)
  | big (n : Int)
  | float (x : Float)
  | notANumber (mark : Nat)
  | text (s : String)
  | list (ref : ListRef)
  | object (ref : ObjectRef)
  | function (f : Callable)
  | frame (ref : FrameRef)
  /-- A row of values that does not change; `id` tells rows apart that are equal. -/
  | tuple (id : Nat) (items : List Value)
  deriving Inhabited

def Callable.same : Callable → Callable → Bool
  | closure c, closure d => c.id == d.id
  | library r f, library s g => r == s && f == g
  | host f, host g => f == g
  | _, _ => false

/-- The name that a library function is bound to. -/
def LibraryFunction.name : LibraryFunction → String
  | print => "print"
  | add => "add"
  | sub => "sub"
  | mul => "mul"
  | div => "div"
  | eq => "eq"
  | neq => "neq"
  | gt => "gt"
  | gte => "gte"
  | lt => "lt"
  | lte => "lte"
  | .if => "if"
  | each => "each"
  | push => "push"
  | pop => "pop"
  | get => "get"
  | set => "set"
  | range => "range"
  | len => "len"
  | object => "object"
  | keys => "keys"

/-- The library functions in the order of their names. -/
def LibraryFunction.all : List LibraryFunction :=
  [add, div, each, eq, get, gt, gte, .if, keys, len, lt, lte, mul, neq, object, pop, print, push,
   range, set, sub]

/-- The operators that are bound to library functions. -/
def LibraryFunction.operators : List (String × LibraryFunction) :=
  [("+", add), ("-", sub), ("*", mul), ("/", div), ("<", lt), ("<=", lte), (">", gt), (">=", gte),
   ("==", eq), ("!=", neq)]

namespace Value

def ofLiteral : Literal → Value
  | .boolean b => .bool b
  | .integer n => if safeIntegerMax < n then .big n else .int n
  | .float x => .float x
  | .text s => .text s

def callable? : Value → Option Callable
  | function f => some f
  | _ => none

/-- The word that scripts use for the kind of a value. -/
def kindWord : Value → String
  | nothing => "none"
  | bool _ => "boolean"
  | int _ | big _ => "integer"
  | float _ | notANumber _ => "float"
  | text _ => "string"
  | list _ => "array"
  | object _ => "object"
  | function (.closure _) => "function"
  | function _ => "builtin"
  | frame _ => "Environment"
  | tuple .. => "tuple"

/-- The word that library messages use for the type of a value. -/
def typeWord : Value → String
  | nothing => "NoneType"
  | bool _ => "bool"
  | int _ => "int"
  | big _ => "BigInt"
  | float _ | notANumber _ => "float"
  | text _ => "str"
  | list _ => "list"
  | object _ => "dict"
  | function (.closure _) => "Closure"
  | function (.library ..) => "method"
  | function (.host f) => f.type
  | frame _ => "Environment"
  | tuple .. => "tuple"

/-- The word for the type where an attribute is missed: methods pass as functions. -/
def ownerWord : Value → String
  | function (.closure _) => "Closure"
  | function (.library ..) => "function"
  | function (.host f) => if f.type == "method" then "function" else f.type
  | v => v.typeWord

/-- The word for the type where a whole class is named. -/
def classWord : Value → String
  | big _ => "tinyfn.tinyfn_datatypes.BigInt"
  | function (.closure _) => "tinyfn.tinyfn_datatypes.Closure"
  | frame _ => "tinyfn.tinyfn_datatypes.Environment"
  | v => v.typeWord

end Value

end Scriptlet
