/-
# Text in small letters

Every capital becomes its small letter.  Two capitals need a rule of their own:
the dotted capital I becomes two characters, and the capital sigma has a form
for the end of a word.
-/
import Scriptlet.Text.CapitalRanges
import Scriptlet.Text.CaseRanges
import Scriptlet.Text.CharClass

namespace Scriptlet.Text

/-- The small letter of the character with the number `n`, by a table of runs. -/
def smallIn (n : Nat) : List (Nat × Nat × Nat × Nat) → Nat
  | [] => n
  | (low, high, step, small) :: rest =>
    if n < low then n
    else if n ≤ high && (n - low) % step == 0 then small + (n - low)
    else smallIn n rest

/-- A character that has a case and is not passed over. -/
def isCased (c : Char) : Bool := inRanges c.toNat casedRanges

/-- A character that is passed over in the search for one that has a case. -/
def isCaseIgnorable (c : Char) : Bool := inRanges c.toNat caseIgnorableRanges

/-- Whether the nearest character that counts has a case. -/
def nextIsCased (chars : List Char) : Bool :=
  ((chars.dropWhile isCaseIgnorable).head?.map isCased).getD false

/-- The small sigma between `before`, the nearest character first, and `after`:
at the end of a word it has a form of its own. -/
def smallSigma (before after : List Char) : Char :=
  if nextIsCased before && !nextIsCased after then 'ς' else 'σ'

/-- The small form of one character between others. -/
def smallForm (before : List Char) (c : Char) (after : List Char) : List Char :=
  if c == 'Σ' then [smallSigma before after]
  else if c == 'İ' then ['i', '\u0307']
  else [Char.ofNat (smallIn c.toNat capitalRanges)]

/-- The small form of characters that come behind `before`, of which the
nearest is first. -/
def smallFrom (before : List Char) : List Char → List Char
  | [] => []
  | c :: after => smallForm before c after ++ smallFrom (c :: before) after

def inSmallLetters (s : String) : String := String.ofList (smallFrom [] s.toList)

end Scriptlet.Text
