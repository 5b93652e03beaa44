/-
# Decimal text of floats

A float is written with the fewest digits that read back as the same float; of
several such decimals the nearest is taken.  The digits are found in exact
arithmetic: for one, two, … seventeen places the two neighbours of the value on
that decimal grid are tried, and the first grid with a hit decides.

How the digits are laid out is one record, `Layout`; the record that scripts
see is `Layout.plain`.
-/
import Scriptlet.Numeric.Binary64

namespace Scriptlet.Decimal

open Binary64 (Exact twoTo)

def tenTo (k : Nat) : Nat := Nat.pow 10 k

/-- A positive decimal: `digits * 10 ^ exponent`. -/
structure Scaled where
  digits : Nat
  exponent : Int
  deriving DecidableEq, Repr

/-- The reals that round to one positive float, in units of `2 ^ exponent`. -/
structure Basin where
  low : Nat
  value : Nat
  high : Nat
  exponent : Int
  /-- Whether the two ends belong to it. -/
  closed : Bool

/-- The basin of `e`, four units to a step of its last place.  Below a power of
two the neighbouring float is only half as far away. -/
def Basin.of (e : Exact) : Basin :=
  let narrow := e.digits == twoTo 52 && e.exponent != Binary64.leastExponent
  { low := 4 * e.digits - (if narrow then 1 else 2)
    value := 4 * e.digits
    high := 4 * e.digits + 2
    exponent := e.exponent - 2
    closed := e.digits % 2 == 0 }

/-- `n * 2 ^ twos / 10 ^ tens` as a quotient of natural numbers. -/
def onGrid (n : Nat) (twos tens : Int) : Nat × Nat :=
  let up :=
    (if twos < 0 then 1 else twoTo twos.natAbs) * (if tens < 0 then tenTo tens.natAbs else 1)
  let down :=
    (if twos < 0 then twoTo twos.natAbs else 1) * (if tens < 0 then 1 else tenTo tens.natAbs)
  (n * up, down)

/-- Whether `d * 10 ^ tens` lies in the basin. -/
def Basin.holds (b : Basin) (d : Nat) (tens : Int) : Bool :=
  let (low, down) := onGrid b.low b.exponent tens
  let (high, _) := onGrid b.high b.exponent tens
  if b.closed then low ≤ d * down && d * down ≤ high else low < d * down && d * down < high

/-- The decimal with step `10 ^ tens` that the basin holds, the nearer of two;
of two equally near the even one. -/
def Basin.pick? (b : Basin) (tens : Int) : Option Nat :=
  let (num, den) := onGrid b.value b.exponent tens
  let d := num / den
  match b.holds d tens, b.holds (d + 1) tens with
  | true, true =>
    let r := num % den
    some (if 2 * r < den || (2 * r == den && d % 2 == 0) then d else d + 1)
  | true, false => some d
  | false, true => some (d + 1)
  | false, false => none

/-- The largest `k` with `10 ^ k` not above the value: close to `0.30103` times
its binary logarithm, and then at most a step or two away. -/
def magnitude (n : Nat) (twos : Int) : Int :=
  let estimate := ((n.log2 : Int) + twos) * 30103 / 100000
  let reaches (k : Int) : Bool :=
    let (num, den) := onGrid n twos k
    den ≤ num
  if reaches (estimate + 2) then estimate + 2
  else if reaches (estimate + 1) then estimate + 1
  else if reaches estimate then estimate
  else if reaches (estimate - 1) then estimate - 1
  else estimate - 2

/-- A decimal without zeros at its end. -/
def Scaled.trim (fuel : Nat) (s : Scaled) : Scaled :=
  match fuel with
  | 0 => s
  | fuel + 1 =>
    if s.digits % 10 == 0 && s.digits != 0 then
      Scaled.trim fuel ⟨s.digits / 10, s.exponent + 1⟩
    else s

/-- The decimal with the fewest digits that reads back as `e`, which is not zero. -/
def shortest (e : Exact) : Scaled :=
  let basin := Basin.of e
  let top := magnitude basin.value basin.exponent
  let hit := (List.range 17).findSome? fun (k : Nat) =>
    (basin.pick? (top - k)).map fun d => Scaled.mk d (top - k)
  (hit.getD ⟨e.digits, 0⟩).trim 20

/-- How a decimal is laid out. -/
structure Layout where
  /-- The least exponent written positionally. -/
  positionalFrom : Int
  /-- The least exponent above those that is written apart again. -/
  positionalBelow : Int
  /-- What follows a whole number written positionally. -/
  wholeSuffix : String
  /-- What stands between the digits and the exponent when there is no point. -/
  mantissaSuffix : String
  /-- The least number of digits of an exponent. -/
  exponentWidth : Nat

/-- Positional from `0.0001` up to sixteen digits before the point, always with
a point; otherwise a signed exponent of at least two digits. -/
def Layout.plain : Layout := ⟨-4, 16, ".0", "", 2⟩

/-- As `plain`, with a point also before an exponent. -/
def Layout.pointed : Layout := { Layout.plain with mantissaSuffix := ".0" }

def zeros (count : Nat) : String := String.ofList (List.replicate count '0')

/-- Digits with a point behind the first `before` of them. -/
def pointAfter (before : Nat) (digits : List Char) : String :=
  String.ofList (digits.take before) ++ "." ++ String.ofList (digits.drop before)

/-- The text of a positive decimal without zeros at its end. -/
def Layout.write (layout : Layout) (s : Scaled) : String :=
  let digits := (toString s.digits).toList
  let lead : Int := s.exponent + digits.length - 1
  if layout.positionalFrom ≤ lead && lead < layout.positionalBelow then
    if lead < 0 then "0." ++ zeros (lead.natAbs - 1) ++ String.ofList digits
    else if 0 ≤ s.exponent then
      String.ofList digits ++ zeros s.exponent.natAbs ++ layout.wholeSuffix
    else pointAfter (lead.natAbs + 1) digits
  else
    let mantissa :=
      if digits.length == 1 then String.ofList digits ++ layout.mantissaSuffix
      else pointAfter 1 digits
    let power := toString lead.natAbs
    mantissa ++ "e" ++ (if lead < 0 then "-" else "+") ++
      zeros (layout.exponentWidth - power.length) ++ power

/-- The text of a float. -/
def render (layout : Layout) (x : Float) : String :=
  if x.isNaN then "nan"
  else
    let e := Binary64.exact x
    let body :=
      if x.isInf then "inf"
      else if e.digits = 0 then "0" ++ layout.wholeSuffix
      else layout.write (shortest e)
    if e.negative then "-" ++ body else body

/-- The text of a float as scripts show it. -/
def text (x : Float) : String := render .plain x

/-- The number that a list of decimal digits writes; other characters are skipped. -/
def digitsValue (digits : List Char) : Nat :=
  digits.foldl (fun n c => if c.isDigit then 10 * n + (c.toNat - '0'.toNat) else n) 0

/-- The float nearest to a decimal with the given digits before and behind the
point, times a power of ten. -/
def ofDigits (negative : Bool) (whole fraction : List Char) (tens : Int) : Float :=
  let n := digitsValue (whole ++ fraction)
  let shift := tens - fraction.length
  -- Beyond these bounds the result is zero or infinite whatever the digits.
  let digitCount : Int := whole.length + fraction.length
  if n = 0 || shift + digitCount < -400 then Binary64.ofRatio negative 0 1
  else if 400 < shift then Binary64.ofRatio negative (twoTo 1100) 1
  else if shift < 0 then Binary64.ofRatio negative n (tenTo shift.natAbs)
  else Binary64.ofRatio negative (n * tenTo shift.natAbs) 1

/-- A signed whole number at the end of a text. -/
def readExponent? (chars : List Char) : Option Int :=
  let (negative, digits) :=
    match chars with
    | '-' :: rest => (true, rest)
    | '+' :: rest => (false, rest)
    | rest => (false, rest)
  if digits.isEmpty || !digits.all Char.isDigit then none
  else some (if negative then -(digitsValue digits : Int) else digitsValue digits)

/-- Reads the text of a float. -/
def read? (s : String) : Option Float :=
  let (negative, body) :=
    match s.toList with
    | '-' :: rest => (true, rest)
    | '+' :: rest => (false, rest)
    | rest => (false, rest)
  if body == "inf".toList then some (Binary64.ofRatio negative (twoTo 1100) 1)
  else if body == "nan".toList then some (0.0 / 0.0)
  else
    let whole := body.takeWhile Char.isDigit
    let (fraction, rest) :=
      match body.dropWhile Char.isDigit with
      | '.' :: more => (more.takeWhile Char.isDigit, more.dropWhile Char.isDigit)
      | more => ([], more)
    if whole.isEmpty && fraction.isEmpty then none
    else
      match rest with
      | [] => some (ofDigits negative whole fraction 0)
      | c :: power =>
        if c == 'e' || c == 'E' then
          (readExponent? power).map (ofDigits negative whole fraction)
        else none

end Scriptlet.Decimal
