/-
# Snapshots

A value copied out of the store as a tree.  A container that stands inside
itself is shown by how many containers up it is.
-/
import Scriptlet.Value.Print

namespace Scriptlet

/-- A value as a tree. -/
inductive Snapshot where
  | nothing
  | bool (b : Bool)
  | int (n : Int)
  | big (n : Int)
  | float (text : String)
  | text (s : String)
  | list (items : List Snapshot)
  | object (entries : List (Snapshot × Snapshot))
  /-- The container that many levels up. -/
  | cycle (levels : Nat)
  | closure (params : List String)
  | builtin (summary : String)
  /-- A value known only by the word for its type. -/
  | other (type : String)
  deriving Inhabited

namespace Store

/-- A snapshot of a value inside the containers `above`, the nearest first. -/
def snapshotUpTo (s : Store) : Nat → List Value → Value → Snapshot
  | 0, _, v => .other v.typeWord
  | depth + 1, above, v =>
    match v with
    | .nothing => .nothing
    | .bool b => .bool b
    | .int n => .int n
    | .big n => .big n
    | .float x => .float (Decimal.text x)
    | .notANumber _ => .float "nan"
    | .text t => .text t
    | .function (.closure c) => .closure c.params
    | .function f => .builtin f.summary
    | .frame _ | .tuple .. => .other v.typeWord
    | .list ref =>
      match above.findIdx? v.identical with
      | some i => .cycle (i + 1)
      | none => .list ((s.list ref).toList.map (s.snapshotUpTo depth (v :: above)))
    | .object ref =>
      match above.findIdx? v.identical with
      | some i => .cycle (i + 1)
      | none =>
        .object ((s.object ref).entries.map fun (k, w) =>
          (s.snapshotUpTo depth (v :: above) k, s.snapshotUpTo depth (v :: above) w))

/-- A snapshot of a value.  Containers that are all different nest at most as
deeply as there are containers. -/
def snapshot (s : Store) (v : Value) : Snapshot :=
  s.snapshotUpTo (s.lists.size + s.objects.size + 2) [] v

end Store

end Scriptlet
