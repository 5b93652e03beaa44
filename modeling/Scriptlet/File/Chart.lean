/-
# Code charts

A chart lays characters out in rows and columns, and two bytes choose one of
them.  Rows and columns are numbered as the bytes that choose them: where a
standard has rows and columns of 94 places, they go from 0x21 to 0x7E.

The charts themselves are in the modules below this one.  A chart is written as
runs of characters that follow one another in a row.
-/
import Scriptlet.Text.Slice

namespace Scriptlet.File

/-- Runs of characters, each with its row and the column of the first. -/
abbrev Chart := List (Nat × Nat × String)

namespace Chart

/-- The character in a place of a chart. -/
def char? (chart : Chart) (row column : Nat) : Option Char :=
  chart.findSome? fun (r, first, chars) =>
    if r == row && first ≤ column then Text.charAt? chars (column - first) else none

/-- The characters of a place, given a list of the places that hold several. -/
def several? (places : List (Nat × Nat × String)) (row column : Nat) : Option (List Char) :=
  (places.find? fun (r, c, _) => r == row && c == column).map fun (_, _, chars) => chars.toList

def chars (chart : Chart) : List Char :=
  chart.flatMap fun (_, _, chars) => chars.toList

/-- The numbers from `first` on, `count` of them, without those of a rising
list. -/
def others (first : Nat) : (count : Nat) → List Nat → List Nat
  | 0, _ => []
  | count + 1, [] => first :: others (first + 1) count []
  | count + 1, n :: rest =>
    if n == first then others (first + 1) count rest
    else first :: others (first + 1) count (n :: rest)

/-- The characters from `first` to `last` that a chart does not have, in the
order of their numbers. -/
def missing (chart : Chart) (first last : Char) : Array Char :=
  let present := (chart.chars.map Char.toNat).filter fun n => first.toNat ≤ n && n ≤ last.toNat
  ((others first.toNat (last.toNat + 1 - first.toNat) present.mergeSort).map Char.ofNat).toArray

end Chart

end Scriptlet.File
