/-
# Arithmetic

The four operations.  `+` also joins two texts, two lists or two tuples, and
`*` also repeats one of these.  Every other combination is refused, and the
refusal names the types.
-/
import Scriptlet.Value.Number
import Scriptlet.Value.Compare

namespace Scriptlet.Arithmetic

def ofNumber : Number → Run Value
  | .integer n => return .int n
  | .float x => Run.newFloat x

/-- The value of a computation on numbers, or its mishap. -/
def finish : Except Mishap Number → Run Value
  | .ok n => ofNumber n
  | .error mishap => Run.raise mishap

/-- Refuses two operands. -/
def refuse (symbol : String) (a b : Value) : Run Value :=
  Run.raise (.unsupportedOperands symbol a.typeWord b.typeWord)

def itemsOf (ref : ListRef) : Run (Array Value) := fun s => .ok (s.list ref) s

/-- Two tuples joined; one that is joined to nothing stays the same tuple. -/
def joinTuples (i : Nat) (xs : List Value) (j : Nat) (ys : List Value) : Run Value :=
  if xs.isEmpty then return .tuple j ys
  else if ys.isEmpty then return .tuple i xs
  else Run.newTuple (xs ++ ys)

/-- Two rows of items, one behind the other, in an array that is just large
enough for both. -/
def joined (xs ys : Array Value) : Array Value :=
  Array.mkEmpty (xs.size + ys.size) ++ xs ++ ys

/-- The sum of two numbers, or two sequences joined. -/
def add (a b : Value) : Run Value :=
  match a.number?, b.number? with
  | some m, some n => finish (Number.combine (· + ·) (· + ·) m n)
  | _, _ =>
    match a, b with
    | .text s, .text t => return .text (s ++ t)
    | .list r, .list q => do Run.newList (joined (← itemsOf r) (← itemsOf q))
    | .tuple i xs, .tuple j ys => joinTuples i xs j ys
    | .text _, b => Run.raise (.cannotConcatenate "str" b.typeWord)
    | .list _, b => Run.raise (.cannotConcatenate "list" b.typeWord)
    | .tuple .., b => Run.raise (.cannotConcatenate "tuple" b.typeWord)
    | a, b => refuse "+" a b

/-- The difference of two numbers; `symbol` is what a refusal names. -/
def subtract (symbol : String) (a b : Value) : Run Value :=
  match a.number?, b.number? with
  | some m, some n => finish (Number.combine (· - ·) (· - ·) m n)
  | _, _ => refuse symbol a b

/-- The largest size of a sequence, and the largest index. -/
def sizeLimit : Int := 9223372036854775807

/-- Stops where so many bytes do not fit into memory. -/
def checkMemory (bytes : Nat) : Run Unit := fun s =>
  if s.world.limits.memory < bytes then .error (.raised .outOfMemory) s else .ok () s

/-- How often a sequence of `size` items is repeated by `count`. -/
def repetitions (text : Bool) (size : Nat) (count : Value) (n : Int) : Run Nat :=
  if n < -sizeLimit - 1 || sizeLimit < n then Run.raise (.countTooLarge count.typeWord)
  else
    let times := n.toNat
    if sizeLimit < times * size then Run.raise (if text then .repeatTooLong else .outOfMemory)
    else do
      checkMemory (times * size * (if text then 1 else 8))
      return times

/-- `n` copies of a sequence, one behind the other.  They are made by doubling. -/
def copies {α : Type} [Append α] (empty sequence : α) (n : Nat) : α :=
  if n = 0 then empty
  else
    let half := copies empty sequence (n / 2)
    if n % 2 = 0 then half ++ half else half ++ half ++ sequence
termination_by n

/-- A sequence repeated by `count`; none when it is not a sequence. -/
def repeat? (sequence count : Value) : Option (Run Value) :=
  let times (text : Bool) (size : Nat) : Run Nat :=
    match count.integer? with
    | some n => repetitions text size count n
    | none => Run.raise (.cannotRepeat count.typeWord)
  match sequence with
  | .text s => some do
    let n ← times true s.length
    return .text (copies "" s n)
  | .list r => some do
    let items ← itemsOf r
    let n ← times false items.size
    Run.newList (copies #[] items n)
  | .tuple i xs => some do
    let n ← times false xs.length
    if n = 1 then return .tuple i xs
    Run.newTuple (copies [] xs n)
  | _ => none

/-- The product of two numbers, or a sequence repeated. -/
def multiply (a b : Value) : Run Value :=
  match a.number?, b.number? with
  | some m, some n => finish (Number.combine (· * ·) (· * ·) m n)
  | _, _ =>
    match repeat? a b, repeat? b a with
    | some run, _ => run
    | none, some run => run
    | none, none => refuse "*" a b

/-- The quotient of two numbers. -/
def divide (a b : Value) : Run Value :=
  match a.number?, b.number? with
  | some m, some n => finish ((m.divide n).map .float)
  | _, _ => refuse "/" a b

end Scriptlet.Arithmetic
