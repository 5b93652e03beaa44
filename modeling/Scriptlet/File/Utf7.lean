/-
# UTF-7

ASCII stands for itself, except that `+` shifts into a section of base-64
digits, which hold units of sixteen bits.  A section ends at the first byte
that is no digit; a `-` there belongs to the section, and `+-` is a plus sign.
-/
import Scriptlet.File.Decoding
import Scriptlet.File.Halves

namespace Scriptlet.File.Utf7

/-- The value of a base-64 digit. -/
def digit? (b : Nat) : Option Nat :=
  if 65 ≤ b && b ≤ 90 then some (b - 65)
  else if 97 ≤ b && b ≤ 122 then some (b - 71)
  else if 48 ≤ b && b ≤ 57 then some (b + 4)
  else if b == 43 then some 62
  else if b == 47 then some 63
  else none

/-- A section while it is read: the bits that do not make a unit yet, and the
units so far, the latest first. -/
structure Section where
  bits : Nat := 0
  width : Nat := 0
  units : List Nat := []

namespace Section

/-- Whether the latest unit waits for the second half of its pair. -/
def isHalfway (s : Section) : Bool := s.units.head?.any isFirstHalf

/-- The section with one more digit of the value `d`. -/
def digit (s : Section) (d : Nat) : Section :=
  let bits := s.bits * 64 + d
  let width := s.width + 6
  if width < 16 then { s with bits := bits, width := width }
  else
    let scale := 1 <<< (width - 16)
    { bits := bits % scale, width := width - 16, units := bits / scale :: s.units }

end Section

/-- The bytes of a section from one of its digits on; `size` counts those read. -/
def readSection (s : Section) (size : Nat) : List Nat → Piece Nat
  | [] =>
    if s.isHalfway || 6 ≤ s.width || s.bits != 0 then .bad size .unterminatedShift
    else .chars s.units.reverse size
  | b :: rest =>
    match digit? b with
    | some d => readSection (s.digit d) (size + 1) rest
    | none =>
      if 6 ≤ s.width then .bad (size + 1) .partialCharacter
      else if s.bits != 0 then .bad (size + 1) .strayPadding
      else .chars s.units.reverse (if b == 45 then size + 1 else size)

def first (a : Nat) (rest : List Nat) : Piece Nat :=
  if a == 43 then
    match rest with
    | [] => readSection {} 1 []
    | b :: _ =>
      if b == 45 then .char 43 2
      else if (digit? b).isNone then .bad 2 .illFormedShift
      else readSection {} 1 rest
  else if a < 0x80 then .char a 1
  else .bad 1 .specialCharacter

def decode (bytes : List Nat) : Except Fault (List Char) :=
  (decodeFrom "utf7" first 0 0 bytes).map joinHalves

end Scriptlet.File.Utf7
