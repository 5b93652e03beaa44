/-
# Text on a code page
-/
import Scriptlet.File.CodePages
import Scriptlet.File.Decoding

namespace Scriptlet.File.CodePage

/-- The character of the byte `a` on a page that lists the characters of all
bytes, or of those from 0x80 on where the others are ASCII. -/
def char? (page : List Char) (a : Nat) : Option Char :=
  let found :=
    if page.length == 256 then page[a]?
    else if a < 0x80 then some (Char.ofNat a)
    else page[a - 0x80]?
  found.filter (· != unmapped)

def first (page : List Char) (a : Nat) (_ : List Nat) : Piece Char :=
  match char? page a with
  | some c => .char c 1
  | none => .bad 1 .unmapped

/-- The characters of some bytes on a page. -/
def decode (page : String) (bytes : List Nat) : Except Fault (List Char) :=
  decodeFrom "charmap" (first page.toList) 0 0 bytes

end Scriptlet.File.CodePage
