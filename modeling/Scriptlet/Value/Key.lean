/-
# Keys of objects

Which values count as one key of an object.  A `Key` is what is left of a value
once everything is gone that makes no difference: numbers of all kinds that are
equal have one key, a truth value has the key of 0 or 1, functions are told
apart by what they are, and rows item by item.  A result that is not a number
has the key of its mark.
-/
import Scriptlet.Numeric.Binary64
import Scriptlet.Value.Basic

namespace Scriptlet

/-- What tells keys of an object apart. -/
inductive Key where
  | nothing
  | integer (n : Int)
  /-- An odd number of parts, of which the given power of two makes one. -/
  | fraction (parts : Int) (power : Nat)
  | infinity (negative : Bool)
  | notANumber (mark : Nat)
  | text (s : String)
  | closure (id : Nat)
  | library (recorder : RecorderRef) (f : LibraryFunction)
  | host (f : HostFunction)
  /-- A list, an object or a frame, which no object has as a key. -/
  | container
  | emptyRow
  | row (first rest : Key)
  deriving DecidableEq, Hashable, Inhabited

namespace Key

/-- The key of `digits / 2 ^ power`, or of its negative. -/
def ofRatio (negative : Bool) (digits : Nat) : (power : Nat) → Key
  | 0 => .integer (if negative then -digits else digits)
  | power + 1 =>
    if digits % 2 = 0 then ofRatio negative (digits / 2) power
    else .fraction (if negative then -digits else digits) (power + 1)

def ofFloat (x : Float) : Key :=
  if x.isInf then .infinity (x < 0)
  else
    let e := Binary64.exact x
    if e.exponent < 0 then ofRatio e.negative e.digits e.exponent.natAbs
    else ofRatio e.negative (e.digits * Binary64.twoTo e.exponent.natAbs) 0

def ofCallable : Callable → Key
  | .closure c => .closure c.id
  | .library recorder f => .library recorder f
  | .host f => .host f

mutual

def ofValue : Value → Key
  | .nothing => .nothing
  | .bool b => .integer (if b then 1 else 0)
  | .int n | .big n => .integer n
  | .float x => ofFloat x
  | .notANumber mark => .notANumber mark
  | .text s => .text s
  | .function f => ofCallable f
  | .list _ | .object _ | .frame _ => .container
  | .tuple _ items => ofRow items

/-- The key of a row of values. -/
def ofRow : List Value → Key
  | [] => .emptyRow
  | v :: rest => .row (ofValue v) (ofRow rest)

end

end Key

end Scriptlet
