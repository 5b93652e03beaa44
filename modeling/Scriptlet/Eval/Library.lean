/-
# The library

The functions that every script can call.

    output        `print`
    arithmetic    `add`, `sub`, `mul`, `div`
    comparison    `eq`, `neq`, `gt`, `gte`, `lt`, `lte`
    control       `if`, `each`
    containers    `push`, `pop`, `get`, `set`, `range`, `len`, `object`, `keys`

Arithmetic and comparison have their operators as second names.

Those that call back, `if` and `each`, are given a way to call; nothing else here depends on
the evaluator.  Arguments are counted before a function does anything (`Signature`), and
every function says for itself which kinds of value it takes: what it refuses, it refuses
with the mishap that names the kinds.
-/
import Scriptlet.Eval.Arithmetic
import Scriptlet.Eval.Signature
import Scriptlet.Value.Print

namespace Scriptlet

/-- Whether a value counts as true in a condition. -/
def Store.isTrue (s : Store) : Value → Bool
  | .nothing => false
  | .bool b => b
  | .int n | .big n => n != 0
  | .float x => !(x == 0)
  | .notANumber _ => true
  | .text t => t != ""
  | .list ref => !(s.list ref).isEmpty
  | .object ref => (s.object ref).size != 0
  | .function _ => true
  | .frame ref => !(s.frame ref).bindings.isEmpty
  | .tuple _ items => !items.isEmpty

namespace Library

/-- The outcome of a computation that only reads the store. -/
def ask {α : Type} (question : Store → Except Fault α) : Run α := fun s =>
  match question s with
  | .ok a => .ok a s
  | .error fault => .error fault s

/-- An answer that the depth limit may leave open. -/
def decided : Option Bool → Except Fault Bool
  | some b => .ok b
  | none => .error .exhausted

/-- The values as they are printed, with spaces between them. -/
def printedLine (s : Store) (values : List Value) : Except Fault String :=
  match values.mapM s.display with
  | .ok shown => .ok (" ".intercalate shown)
  | .error why => .error why.fault

def print (recorder : RecorderRef) (values : List Value) : Run Value := do
  let line ← ask fun s => printedLine s values
  modify (·.record recorder (.stdout line))
  return .nothing

/-- Whether two values are equal; a truth value equals no number. -/
def equal (a b : Value) : Run Bool :=
  match a, b with
  | .bool x, .bool y => return x == y
  | .bool _, _ | _, .bool _ => return false
  | a, b => ask fun s => decided (s.equal a b)

/-- Compares two values by order. -/
def compareBy (op : Comparison) (a b : Value) : Run Value := do
  return .bool (← ask fun s => s.orderUpTo op s.world.limits.depth a b)

def choose (call : Value → List Value → Run Value) (cond then_ else_ : Value) : Run Value := do
  if ← ask fun s => .ok (s.isTrue cond) then call then_ []
  else
    match else_ with
    | .nothing => return .nothing
    | f => call f []

/-- What iterating over a value gives. -/
def iterate (s : Store) : Value → Except Fault (List Value)
  | .list ref => .ok (s.list ref).toList
  | .text t => .ok (t.toList.map fun c => .text (String.singleton c))
  | .object ref => .ok (s.object ref).keys.toList
  | .frame ref => .ok ((s.frame ref).names.map .text)
  | .tuple _ items => .ok items
  | v => .error (.raised (.notIterable v.typeWord))

def callEach (call : Value → List Value → Run Value) (f : Value) (index : Nat) :
    List Value → Run Unit
  | [] => return
  | item :: rest => do
    let _ ← call f [item, .int index]
    callEach call f (index + 1) rest

def each (call : Value → List Value → Run Value) (items f : Value) : Run Value := do
  callEach call f 0 (← ask fun s => iterate s items)
  return .nothing

/-- Puts a value at the end of a list. -/
def push (items value : Value) : Run Value :=
  match items with
  | .list ref => do
    modify fun s => s.modifyList ref (·.push value)
    return items
  | v => Run.raise (.noAttribute v.ownerWord "append")

/-- Takes the last item off a list; nothing comes off what is empty. -/
def pop (items : Value) : Run Value := do
  if ← ask fun s => .ok (!s.isTrue items) then return .nothing
  match items with
  | .list ref =>
    let last ← ask fun s => .ok (s.list ref).back?
    modify fun s => s.modifyList ref Array.pop
    return last.getD .nothing
  | .object _ => Run.raise .popNeedsKey
  | .frame _ => Run.raise (.missingArguments "MutableMapping.pop" ["key"])
  | v => Run.raise (.noAttribute v.ownerWord "pop")

/-- The place that an index means in a sequence of `size` items; negative
indices count from the end. -/
def slot? (size : Nat) (index : Int) : Option Nat :=
  let i := if index < 0 then index + size else index
  if 0 ≤ i && i < size then some i.toNat else none

/-- The integer that indexes a sequence for reading; truth values do not. -/
def index? : Value → Option Int
  | .int n | .big n => some n
  | _ => none

/-- Refuses a key that objects cannot hold. -/
def checkKey (key : Value) : Run Unit :=
  match key.unhashable? with
  | some type => Run.raise (.unhashable type)
  | none => return

/-- What a container holds under a key, or nothing. -/
def get (container key : Value) : Run Value := do
  let refuse : Run Value := Run.raise (.cannotIndex container.typeWord key.typeWord)
  match container with
  | .object ref =>
    checkKey key
    ask fun s => .ok (((s.object ref).get? key).getD .nothing)
  | .frame ref =>
    checkKey key
    match key with
    | .text name => Run.lookup ref name
    | _ => return .nothing
  | .list ref =>
    match index? key with
    | none => refuse
    | some n =>
      ask fun s =>
        let items := s.list ref
        .ok (((slot? items.size n).bind (items[·]?)).getD .nothing)
  | .text t =>
    match index? key with
    | none => refuse
    | some n =>
      return (((slot? t.length n).bind (Text.charAt? t)).map fun c =>
        Value.text (String.singleton c)).getD .nothing
  | _ => refuse

/-- Refuses a key that is an integer beyond every index. -/
def checkIndex (key : Value) : Run Unit :=
  match key.integer? with
  | none => return
  | some n =>
    if n < -Arithmetic.sizeLimit - 1 || Arithmetic.sizeLimit < n then
      Run.raise (.indexTooLarge key.typeWord)
    else return

/-- Values that look at the index before they turn an assignment down. -/
def looksAtIndex : Value → Bool
  | .text _ | .tuple .. | .big _ | .function (.closure _) => true
  | _ => false

/-- Puts a value into a list in the place that `index` means. -/
def setItem (ref : ListRef) (index : Int) (value : Value) : Run Unit := do
  match slot? (← ask fun s => .ok (s.list ref).size) index with
  | none => Run.raise .indexOutOfRange
  | some i => modify fun s => s.modifyList ref (·.setIfInBounds i value)

/-- Puts a value into a container under a key. -/
def set (container key value : Value) : Run Value := do
  match container with
  | .list ref =>
    match key.integer? with
    | some n =>
      checkIndex key
      setItem ref n value
    | none => Run.raise (.badListIndex key.typeWord)
  | .object ref =>
    checkKey key
    modify fun s => s.modifyObject ref (·.put key value)
  | .frame ref =>
    match key with
    | .text name => Run.bindName ref name value
    | _ => Run.raise (.badFrameKey key.classWord)
  | v =>
    if looksAtIndex v then checkIndex key
    Run.raise (.noItemAssignment v.typeWord)
  return value

/-- How many numbers from `start` up or down to `stop` there are in steps. -/
def rangeSize (start stop step : Int) : Nat :=
  if 0 < step then ((stop - start + step - 1) / step).toNat
  else ((start - stop + (-step) - 1) / (-step)).toNat

/-- The integer that an argument of `range` stands for. -/
def rangeArgument (v : Value) : Run Int :=
  match v.integer? with
  | some n => return n
  | none => Run.raise (.notAnInteger v.typeWord)

/-- The list of numbers from `start` up to and without `stop`. -/
def rangeList (start stop step : Int) : Run Value := do
  if step = 0 then Run.raise .rangeStepZero
  let size := rangeSize start stop step
  if Arithmetic.sizeLimit < size then Run.raise .rangeTooLong
  Arithmetic.checkMemory (32 * size)
  Run.newList ((Array.range size).map fun (i : Nat) => .int (start + i * step))

/-- The list of numbers between one, two or three given ones. -/
def range : List Value → Run Value
  | [] => Run.raise .rangeTooFew
  | [stop] => do rangeList 0 (← rangeArgument stop) 1
  | [start, stop] => do rangeList (← rangeArgument start) (← rangeArgument stop) 1
  | [start, stop, step] => do
    rangeList (← rangeArgument start) (← rangeArgument stop) (← rangeArgument step)
  | args => Run.raise (.rangeTooMany args.length)

/-- How many items a value has. -/
def size (s : Store) : Value → Except Fault Nat
  | .list ref => .ok (s.list ref).size
  | .text t => .ok t.length
  | .object ref => .ok (s.object ref).size
  | .frame ref => .ok (s.frame ref).size
  | .tuple _ items => .ok items.length
  | v => .error (.raised (.noLength v.typeWord))

def keys (v : Value) : Run Value := do
  match ← ask fun s => .ok (s.entries? v) with
  | some entries => Run.newList (entries.map Prod.fst).toArray
  | none => Run.raise (.noAttribute v.ownerWord "keys")

end Library

/-- Runs a library function on arguments that fit its signature. -/
def LibraryFunction.run (call : Value → List Value → Run Value) (recorder : RecorderRef) :
    LibraryFunction → List Value → Run Value
  | .print, values => Library.print recorder values
  | .add, [a, b] => Arithmetic.add a b
  | .sub, [a, b] => Arithmetic.subtract "-" a b
  | .mul, [a, b] => Arithmetic.multiply a b
  | .div, [a, b] => Arithmetic.divide a b
  | .eq, [a, b] => return .bool (← Library.equal a b)
  | .neq, [a, b] => return .bool !(← Library.equal a b)
  | .gt, [a, b] => Library.compareBy .greater a b
  | .gte, [a, b] => Library.compareBy .greaterOrEqual a b
  | .lt, [a, b] => Library.compareBy .less a b
  | .lte, [a, b] => Library.compareBy .lessOrEqual a b
  | .if, [cond, yes] => Library.choose call cond yes .nothing
  | .if, [cond, yes, no] => Library.choose call cond yes no
  | .each, [items, f] => Library.each call items f
  | .push, [items, value] => Library.push items value
  | .pop, [items] => Library.pop items
  | .get, [container, key] => Library.get container key
  | .set, [container, key, value] => Library.set container key value
  | .range, args => Library.range args
  | .len, [v] => return .int (← Library.ask fun s => Library.size s v)
  | .object, [] => Run.newObject {}
  | .keys, [v] => Library.keys v
  | _, _ => return .nothing

def LibraryFunction.apply (call : Value → List Value → Run Value) (recorder : RecorderRef)
    (f : LibraryFunction) (args : List Value) : Run Value := do
  match f.signature? with
  | some sig => sig.check args
  | none => pure ()
  f.run call recorder args

/-- The bindings of the library for one runner: every function under its name,
and then the operators. -/
def Library.bindings (recorder : RecorderRef) : List (String × Value) :=
  LibraryFunction.all.map (fun f => (f.name, .function (.library recorder f))) ++
    LibraryFunction.operators.map (fun (symbol, f) => (symbol, .function (.library recorder f)))

end Scriptlet
