/-
# Numbers

Truth values, integers and floats compute with one another.  Two integers are
exact; as soon as a float takes part, the integer is rounded to a float first
for arithmetic, but compared exactly.
-/
import Scriptlet.Value.Basic
import Scriptlet.Value.Fault
import Scriptlet.Numeric.Binary64

namespace Scriptlet

inductive Number where
  | integer (n : Int)
  | float (x : Float)

namespace Value

/-- The integer behind a value; a truth value counts as 0 or 1. -/
def integer? : Value → Option Int
  | bool b => some (if b then 1 else 0)
  | int n | big n => some n
  | _ => none

def number? : Value → Option Number
  | float x => some (.float x)
  | notANumber _ => some (.float (0.0 / 0.0))
  | v => v.integer?.map .integer

end Value

namespace Number

/-- How two floats compare; what is not a number compares with nothing. -/
def compareFloats (x y : Float) : Option Ordering :=
  if x < y then some .lt else if x == y then some .eq else if y < x then some .gt else none

/-- How two numbers compare. -/
def compare? : Number → Number → Option Ordering
  | integer m, integer n => some (compare m n)
  | integer m, float y => if y.isNaN then none else some (Binary64.compareInt m y)
  | float x, integer n => if x.isNaN then none else some (Binary64.compareInt n x).swap
  | float x, float y => compareFloats x y

/-- Whether two numbers are equal. -/
def equal (a b : Number) : Bool := compare? a b == some .eq

/-- The float nearest to a number. -/
def toFloat : Number → Except Mishap Float
  | integer n =>
    match Binary64.ofInt? n with
    | some x => .ok x
    | none => .error .integerTooLarge
  | float x => .ok x

/-- An operation that is exact on integers and rounded as soon as a float takes part. -/
def combine (exact : Int → Int → Int) (rounded : Float → Float → Float) :
    Number → Number → Except Mishap Number
  | integer m, integer n => .ok (.integer (exact m n))
  | a, b => do return .float (rounded (← a.toFloat) (← b.toFloat))

/-- The quotient of two integers, rounded once. -/
def divideIntegers (m n : Int) : Except Mishap Float :=
  if n = 0 then .error .divisionByZero
  else if Binary64.magnitudeBits m.natAbs n.natAbs < Binary64.infinityBits then
    .ok (Binary64.ofRatio ((m < 0) != (n < 0)) m.natAbs n.natAbs)
  else .error .quotientTooLarge

/-- The quotient of two numbers, always a float. -/
def divide : Number → Number → Except Mishap Float
  | integer m, integer n => divideIntegers m n
  | a, b => do
    let x ← a.toFloat
    let y ← b.toFloat
    if y == 0 then throw .floatDivisionByZero
    return x / y

end Number

end Scriptlet
