/-
# Halves of characters

In units of sixteen bits a character beyond the first 65,536 is a pair of
halves.  Some encodings name characters by number, and so can name a half too;
where the two halves of a pair meet in a text, they are one character.
-/

namespace Scriptlet.File

/-- The first halves of pairs of units. -/
def isFirstHalf (u : Nat) : Bool := 0xD800 ≤ u && u < 0xDC00

/-- The second halves of pairs of units. -/
def isSecondHalf (u : Nat) : Bool := 0xDC00 ≤ u && u < 0xE000

/-- The character that a pair of units stands for. -/
def ofHalves (u v : Nat) : Char := Char.ofNat (0x10000 + (u - 0xD800) * 0x400 + (v - 0xDC00))

/-- The character with a number; the replacement character stands for a half. -/
def ofNumber (u : Nat) : Char :=
  if isFirstHalf u || isSecondHalf u then '\uFFFD' else Char.ofNat u

/-- The text of some numbers, in which the halves of a pair are one character. -/
def joinHalves : List Nat → List Char
  | [] => []
  | [u] => [ofNumber u]
  | u :: v :: rest =>
    if isFirstHalf u && isSecondHalf v then ofHalves u v :: joinHalves rest
    else ofNumber u :: joinHalves (v :: rest)

end Scriptlet.File
