/-
# Ordered entries

Associations in the order in which their keys first came in.  Putting a value
under a key that is there already replaces the value and keeps both the key and
its place.  Which keys count as the same is a parameter.
-/
namespace Scriptlet.Entries

variable {κ ν : Type}

def get? (same : κ → κ → Bool) (key : κ) : List (κ × ν) → Option ν
  | [] => none
  | (k, v) :: rest => if same k key then some v else get? same key rest

/-- The entries with `value` under `key`. -/
def put (same : κ → κ → Bool) (key : κ) (value : ν) : List (κ × ν) → List (κ × ν)
  | [] => [(key, value)]
  | (k, v) :: rest => if same k key then (k, value) :: rest else (k, v) :: put same key value rest

/-- The entries without `key`. -/
def erase (same : κ → κ → Bool) (key : κ) : List (κ × ν) → List (κ × ν)
  | [] => []
  | (k, v) :: rest => if same k key then rest else (k, v) :: erase same key rest

/-- The entries with all of `news` put in, in order. -/
def putAll (same : κ → κ → Bool) (entries news : List (κ × ν)) : List (κ × ν) :=
  news.foldl (fun acc (k, v) => put same k v acc) entries

end Scriptlet.Entries
