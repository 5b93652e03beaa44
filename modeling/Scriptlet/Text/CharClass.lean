/-
# Character classes

The classes of characters that the scanner and the printers ask about: blanks,
the characters of a name, and the characters that do not show.  The large
classes are tables of closed ranges in increasing order, so a search may stop
at the first range that begins above the character.
-/
import Scriptlet.Text.LetterRanges
import Scriptlet.Text.DecimalDigitRanges
import Scriptlet.Text.HiddenRanges

namespace Scriptlet.Text

/-- Whether `n` lies in one of the closed ranges, given in increasing order. -/
def inRanges (n : Nat) : List (Nat × Nat) → Bool
  | [] => false
  | (low, high) :: rest =>
    if n < low then false else if n ≤ high then true else inRanges n rest

/-- A letter or a number of any script. -/
def isLetterOrNumber (c : Char) : Bool := inRanges c.toNat letterOrNumberRanges

def isDecimalDigit (c : Char) : Bool := inRanges c.toNat decimalDigitRanges

/-- A character that quoted text writes by number. -/
def isHidden (c : Char) : Bool := inRanges c.toNat hiddenRanges

/-- Closed ranges of the white space characters. -/
def blankRanges : List (Nat × Nat) :=
  [(0x09, 0x0D), (0x1C, 0x20), (0x85, 0x85), (0xA0, 0xA0), (0x1680, 0x1680),
   (0x2000, 0x200A), (0x2028, 0x2029), (0x202F, 0x202F), (0x205F, 0x205F), (0x3000, 0x3000)]

/-- White space of any kind, line ends included. -/
def isBlank (c : Char) : Bool := inRanges c.toNat blankRanges

/-- A character that ends a line, alone or as half of a pair. -/
def isLineEnd (c : Char) : Bool := c == '\r' || c == '\n'

def isAsciiDigit (c : Char) : Bool := '0' ≤ c && c ≤ '9'

/-- A character that a name may hold: a letter, a number or the underscore. -/
def isWordChar (c : Char) : Bool := c == '_' || isLetterOrNumber c

/-- The text without the blanks at its two ends. -/
def trimBlanks (s : List Char) : List Char :=
  ((s.dropWhile isBlank).reverse.dropWhile isBlank).reverse

end Scriptlet.Text
