/-
# Equality and order

Values of different kinds are never equal, except that numbers of all kinds
compare as numbers and that an object equals a frame with the same entries.
Items of lists and objects that are one and the same thing count as equal
without a look inside.  Entries are compared in the order of the left side, but
a frame is asked before an object.  Numbers, texts, lists and tuples have an order; lists
and tuples are ordered by the first pair of items that differ.

Comparing goes as deep as the values are nested, so it is bounded by a depth;
running out of it is `none`.
-/
import Scriptlet.Value.Number
import Scriptlet.Value.Store

namespace Scriptlet

namespace Value

/-- Whether two values that are not containers are equal. -/
def shallowEqual (a b : Value) : Bool :=
  match a, b with
  | nothing, nothing => true
  | int m, int n => m == n
  | text s, text t => s == t
  | function f, function g => f.same g
  | a, b =>
    match a.number?, b.number? with
    | some m, some n => m.equal n
    | _, _ => false

mutual

/-- The type that keeps a value from being a key, if any. -/
def unhashable? : Value → Option String
  | list ref => some (list ref).typeWord
  | object ref => some (object ref).typeWord
  | frame ref => some (frame ref).typeWord
  | tuple _ items => unhashableIn? items
  | _ => none

/-- The first type in a row that keeps a value from being a key. -/
def unhashableIn? : List Value → Option String
  | [] => none
  | v :: rest => (unhashable? v).or (unhashableIn? rest)

end

def isObject : Value → Bool
  | object _ => true
  | _ => false

def isFrame : Value → Bool
  | frame _ => true
  | _ => false

/-- Whether two values are one and the same container or mark. -/
def identical : Value → Value → Bool
  | list r, list s => r == s
  | object r, object s => r == s
  | frame r, frame s => r == s
  | tuple i _, tuple j _ => i == j
  | notANumber m, notANumber n => m == n
  | _, _ => false

end Value

namespace Store

/-- The entries of an object, or of a frame with its names as keys. -/
def entries? (s : Store) : Value → Option (List (Value × Value))
  | .object ref => some (s.object ref).entries
  | .frame ref => some ((s.frame ref).bindings.map fun (name, v) => (.text name, v))
  | _ => none

/-- What an object or a frame holds under a key. -/
def find? (s : Store) : Value → Value → Option Value
  | .object ref, key => (s.object ref).get? key
  | .frame ref, .text name => (s.frame ref).get? name
  | _, _ => none

/-- The items of a list or tuple, with the word for which of the two it is. -/
def items? (s : Store) : Value → Option (String × List Value)
  | .list ref => some ("list", (s.list ref).toList)
  | .tuple _ items => some ("tuple", items)
  | _ => none

/-- Whether two items are equal, given equality of what is not identical. -/
def itemEqual (equal : Value → Value → Option Bool) (a b : Value) : Option Bool :=
  if a.identical b then some true else equal a b

/-- Whether two rows of items are equal, item by item, as far as the shorter one goes. -/
def rowEqual (equal : Value → Value → Option Bool) : List Value → List Value → Option Bool
  | x :: xs, y :: ys => do
    if ← itemEqual equal x y then rowEqual equal xs ys else return false
  | _, _ => some true

/-- Whether every entry has an equal one among others, which `find` finds. -/
def entriesEqual (equal : Value → Value → Option Bool) (find : Value → Option Value) :
    List (Value × Value) → Option Bool
  | [] => some true
  | (k, v) :: rest =>
    match find k with
    | none => some false
    | some w => do
      if ← itemEqual equal v w then entriesEqual equal find rest else return false

/-- Whether two values are equal, looking at most `depth` containers deep. -/
def equalUpTo (s : Store) : Nat → Value → Value → Option Bool
  | 0, _, _ => none
  | depth + 1, a, b =>
    match a, b with
    | .list r, .list q =>
      let xs := (s.list r).toList
      let ys := (s.list q).toList
      if xs.length != ys.length then some false else rowEqual (s.equalUpTo depth) xs ys
    | .tuple _ xs, .tuple _ ys => do
      -- The items come first here: a difference in length shows only behind them.
      if ← rowEqual (s.equalUpTo depth) xs ys then return xs.length == ys.length
      else return false
    | a, b =>
      match s.entries? a, s.entries? b with
      | some es, some fs =>
        if es.length != fs.length then some false
        else if a.isObject && b.isFrame then entriesEqual (s.equalUpTo depth) (s.find? a) fs
        else entriesEqual (s.equalUpTo depth) (s.find? b) es
      | _, _ => some (a.shallowEqual b)

/-- Whether two values are equal; none when they are nested too deeply to tell. -/
def equal (s : Store) (a b : Value) : Option Bool := s.equalUpTo s.world.limits.depth a b

end Store

/-- The four comparisons by order. -/
inductive Comparison where
  | less
  | lessOrEqual
  | greater
  | greaterOrEqual
  deriving DecidableEq, Repr, Inhabited

namespace Comparison

/-- The operator of a comparison. -/
def symbol : Comparison → String
  | less => "<"
  | lessOrEqual => "<="
  | greater => ">"
  | greaterOrEqual => ">="

/-- Whether the comparison holds of two values in the given order. -/
def holds : Comparison → Ordering → Bool
  | less, o => o == .lt
  | lessOrEqual, o => o != .gt
  | greater, o => o == .gt
  | greaterOrEqual, o => o != .lt

end Comparison

namespace Store

/-- The first pair of items that differ, if any. -/
def firstDifference (equal : Value → Value → Option Bool) :
    List Value → List Value → Option (Option (Value × Value))
  | x :: xs, y :: ys => do
    if ← itemEqual equal x y then firstDifference equal xs ys else return some (x, y)
  | _, _ => some none

/-- Compares two values by order, looking at most `depth` containers deep. -/
def orderUpTo (s : Store) (op : Comparison) : Nat → Value → Value → Except Fault Bool
  | 0, _, _ => .error .exhausted
  | depth + 1, a, b =>
    let refuse : Except Fault Bool :=
      .error (.raised (.unorderable op.symbol a.typeWord b.typeWord))
    match a.number?, b.number? with
    | some m, some n => .ok ((m.compare? n).any op.holds)
    | _, _ =>
      match a, b with
      | .text x, .text y => .ok (op.holds (compare x y))
      | a, b =>
        match s.items? a, s.items? b with
        | some (kind, xs), some (kind', ys) =>
          if kind != kind' then refuse
          else
            match firstDifference (s.equalUpTo depth) xs ys with
            | none => .error .exhausted
            | some none => .ok (op.holds (compare xs.length ys.length))
            | some (some (x, y)) => s.orderUpTo op depth x y
        | _, _ => refuse

end Store

end Scriptlet
