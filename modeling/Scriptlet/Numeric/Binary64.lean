/-
# Binary floating point

The bridge between `Float` and exact arithmetic.  A finite float is an integer
times a power of two, read off its bits; a quotient of natural numbers becomes
the nearest float, a half going to the even neighbour.  Reading decimals,
dividing integers and comparing an integer with a float all go through here, so
each of them is rounded once or not at all.
-/
namespace Scriptlet.Binary64

def twoTo (k : Nat) : Nat := Nat.pow 2 k

/-- The least exponent: the unit of the subnormal numbers is `2 ^ leastExponent`. -/
def leastExponent : Int := -1074

def infinityBits : Nat := 0x7FF * twoTo 52

/-- `a / b` rounded to the nearest natural number, a half to the even one. -/
def divRound (a b : Nat) : Nat :=
  let q := a / b
  let r := a % b
  if b < 2 * r || (2 * r == b && q % 2 == 1) then q + 1 else q

/-- `num / den` in units of `2 ^ e`, as a quotient of natural numbers. -/
def inUnits (num den : Nat) (e : Int) : Nat × Nat :=
  if e < 0 then (num * twoTo e.natAbs, den) else (num, den * twoTo e.natAbs)

/-- The exponent of the last place of the float nearest to `num / den`: the one
that leaves 53 binary digits, or the least exponent if that is larger. -/
def unitExponent (num den : Nat) : Int :=
  let low : Int := (num.log2 : Int) - den.log2 - 53
  let (a, b) := inUnits num den low
  let e := if a / b < twoTo 53 then low else low + 1
  max e leastExponent

/-- The bits of the nonnegative float nearest to `num / den`; beyond the
largest float that is infinity. -/
def magnitudeBits (num den : Nat) : Nat :=
  if num = 0 then 0
  else
    let e := unitExponent num den
    let (a, b) := inUnits num den e
    min infinityBits ((e - leastExponent).toNat * twoTo 52 + divRound a b)

/-- The float nearest to `num / den`, or its negative. -/
def ofRatio (negative : Bool) (num den : Nat) : Float :=
  let bits := magnitudeBits num den
  Float.ofBits (UInt64.ofNat (if negative then bits + twoTo 63 else bits))

/-- The float nearest to an integer, if one is in range. -/
def ofInt? (n : Int) : Option Float :=
  if magnitudeBits n.natAbs 1 < infinityBits then some (ofRatio (n < 0) n.natAbs 1) else none

/-- A finite float as sign, integer and exponent of two. -/
structure Exact where
  negative : Bool
  digits : Nat
  exponent : Int
  deriving DecidableEq, Repr

/-- The parts of a float; for a number that is not finite they mean nothing. -/
def exact (x : Float) : Exact :=
  let bits := x.toBits.toNat
  let fraction := bits % twoTo 52
  let biased := bits / twoTo 52 % twoTo 11
  let negative : Bool := twoTo 63 ≤ bits
  if biased = 0 then Exact.mk negative fraction leastExponent
  else Exact.mk negative (fraction + twoTo 52) (Int.ofNat biased - 1 + leastExponent)

/-- How an integer compares with a float that is a number. -/
def compareInt (n : Int) (x : Float) : Ordering :=
  if x.isInf then
    if x < 0 then .gt else .lt
  else
    let e := exact x
    let signed : Int := if e.negative then -e.digits else e.digits
    if e.exponent < 0 then compare (n * Int.ofNat (twoTo e.exponent.natAbs)) signed
    else compare n (signed * Int.ofNat (twoTo e.exponent.natAbs))

end Scriptlet.Binary64
