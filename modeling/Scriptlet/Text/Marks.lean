/-
# Letters and their marks

One text can be written with letters that have their marks on them, or with
letters and the marks behind them, in several orders.  `composed` gives the one
form that has the marks in the order of their classes and, where there is such a
character, on the letter.  Korean syllables are made up of their letters in the
same way, by counting.

Code points are plain numbers here.
-/
import Scriptlet.Text.MarkClasses
import Scriptlet.Text.MarkedLetters

namespace Scriptlet.Text

/-- The class of a mark; 0 for everything else. -/
def markClass (n : Nat) : Nat :=
  ((markClasses.find? fun (low, high, _) => low ≤ n && n ≤ high).map (·.2.2)).getD 0

/-- Puts a mark before those that are in order already. -/
def placeMark (n : Nat) : List Nat → List Nat
  | [] => [n]
  | m :: rest =>
    if markClass m == 0 || markClass n ≤ markClass m then n :: m :: rest
    else m :: placeMark n rest

/-- The text with the marks of every letter in the order of their classes. -/
def orderMarks : List Nat → List Nat
  | [] => []
  | n :: rest => if markClass n == 0 then n :: orderMarks rest else placeMark n (orderMarks rest)

/-- The character behind `letter` in a list of letters and characters by turns. -/
def partner? (letter : Nat) : List Char → Option Nat
  | a :: b :: rest => if a.toNat == letter then some b.toNat else partner? letter rest
  | _ => none

/-- The character that a letter and a mark make up. -/
def marked? (letter mark : Nat) : Option Nat :=
  markedLetters.findSome? fun (m, pairs) =>
    if m == mark then partner? letter pairs.toList else none

/-- Puts marks on a letter, given the class of the last mark that stayed behind
it.  A mark is out of reach behind another of its class or a higher one, and so
is everything behind the next letter.  Gives the letter and what stays. -/
def takeMarks (letter last : Nat) : List Nat → Nat × List Nat
  | [] => (letter, [])
  | n :: rest =>
    let class_ := markClass n
    if last != 0 && class_ == 0 then (letter, n :: rest)
    else if last != 0 && class_ ≤ last then
      let (made, stays) := takeMarks letter last rest
      (made, n :: stays)
    else
      match marked? letter n with
      | some made => takeMarks made last rest
      | none =>
        if class_ == 0 then (letter, n :: rest)
        else
          let (made, stays) := takeMarks letter class_ rest
          (made, n :: stays)

theorem length_takeMarks_le (letter last : Nat) (text : List Nat) :
    (takeMarks letter last text).2.length ≤ text.length := by
  fun_induction takeMarks letter last text <;> grind

namespace Syllable

/-- The first of the letters that begin a Korean syllable. -/
def initial : Nat := 0x1100

/-- The first of the vowels. -/
def medial : Nat := 0x1161

/-- What stands before the first of the letters that end a syllable. -/
def final : Nat := 0x11A7

def first : Nat := 0xAC00

def letters? (n : Nat) : Option (List Nat) :=
  if n < first || first + 11172 ≤ n then none
  else
    let i := n - first
    let open_ := [initial + i / 588, medial + i % 588 / 28]
    some (if i % 28 == 0 then open_ else open_ ++ [final + i % 28])

/-- The syllable at the front of a text of letters, and what is behind it. -/
def take? : List Nat → Option (Nat × List Nat)
  | i :: m :: rest =>
    if initial ≤ i && i < initial + 19 && medial ≤ m && m < medial + 21 then
      let open_ := first + 588 * (i - initial) + 28 * (m - medial)
      match rest with
      | f :: more =>
        if final < f && f < final + 28 then some (open_ + (f - final), more)
        else some (open_, rest)
      | [] => some (open_, [])
    else none
  | _ => none

theorem take?_shorter {text rest : List Nat} {n : Nat} (h : take? text = some (n, rest)) :
    rest.length < text.length := by
  unfold take? at h
  grind

end Syllable

/-- A text of letters and marks in order, with the marks put on the letters. -/
def putMarks (text : List Nat) : List Nat :=
  match text with
  | [] => []
  | n :: rest =>
    match _ : Syllable.take? (n :: rest) with
    | some (syllable, more) => syllable :: putMarks more
    | none => (takeMarks n 0 rest).1 :: putMarks (takeMarks n 0 rest).2
termination_by text.length
decreasing_by
  · exact Syllable.take?_shorter ‹Syllable.take? (n :: rest) = some (syllable, more)›
  · exact Nat.lt_succ_of_le (length_takeMarks_le n 0 rest)

/-- A text of letters and marks, with the marks in order and on the letters. -/
def composed (text : List Nat) : List Nat := putMarks (orderMarks text)

end Scriptlet.Text
