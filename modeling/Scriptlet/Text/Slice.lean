/-
# Parts of a text

A stretch of a text between two bounds.  A bound may be any integer: a negative
one counts from the end of the text, and one that lies beyond an end of the
text means that end.

A single character is found by its index, without a list of all characters
being made first; `charAt?_eq_getElem?` says that it is the one which that list
has there.
-/

namespace Scriptlet.Text

/-- Where a bound lies in a text of `size` characters. -/
def bound (size : Nat) (i : Int) : Nat :=
  if i < 0 then (i + size).toNat else min i.toNat size

/-- The characters between two bounds; none where the bounds are in the wrong order. -/
def between (chars : List Char) (first last : Int) : List Char :=
  (chars.take (bound chars.length last)).drop (bound chars.length first)

def charAt? (s : String) (i : Nat) : Option Char :=
  let p := s.startPos.nextn i
  if h : p = s.endPos then none else some (p.get h)

theorem charAt?_eq_getElem? (s : String) (i : Nat) : charAt? s i = s.toList[i]? := by
  have split := String.splits_nextn_startPos s i
  rw [charAt?, ← List.head?_drop]
  cases hd : s.toList.drop i with
  | nil =>
    rw [hd] at split
    have atEnd : s.startPos.nextn i = s.endPos := split.eq_endPos_iff.2 (by simp)
    simp [atEnd]
  | cons c rest =>
    rw [hd, show String.ofList (c :: rest) = String.singleton c ++ String.ofList rest by
      simp] at split
    have before : s.startPos.nextn i ≠ s.endPos := split.ne_endPos_of_singleton
    simp [before, split.next.get_eq_of_singleton]

end Scriptlet.Text
