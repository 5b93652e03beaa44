/-
# Objects

An object holds values under keys, in the order in which the keys first came
in.  Putting a value under a key that is there already replaces the value and
keeps both the key, as it was first written, and its place.
-/
import Std.Data.HashMap
import Scriptlet.Value.Key

namespace Scriptlet

/-- Values under keys. -/
structure Object where
  /-- The keys as they were first written, in order. -/
  keys : Array Value := #[]
  values : Std.HashMap Key Value := {}
  deriving Inhabited

namespace Object

def get? (object : Object) (key : Value) : Option Value := object.values[Key.ofValue key]?

/-- The object with `value` under `key`. -/
def put (key value : Value) : Object → Object
  | ⟨keys, values⟩ =>
    let k := Key.ofValue key
    let known := values.contains k
    ⟨if known then keys else keys.push key, values.insert k value⟩

/-- How many keys there are. -/
def size (object : Object) : Nat := object.keys.size

def entries (object : Object) : List (Value × Value) :=
  object.keys.toList.map fun key => (key, (object.get? key).getD .nothing)

/-- The object with the given entries, put in one by one. -/
def ofEntries (entries : List (Value × Value)) : Object :=
  entries.foldl (fun object (key, value) => object.put key value) {}

theorem get?_put (object : Object) (key value other : Value) :
    (object.put key value).get? other =
      if Key.ofValue key = Key.ofValue other then some value else object.get? other := by
  simp only [get?, put, Std.HashMap.getElem?_insert, beq_iff_eq]

end Object

end Scriptlet
