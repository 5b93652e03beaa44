/-
# ASCII
-/
import Scriptlet.File.Decoding

namespace Scriptlet.File.Ascii

def first (a : Nat) (_ : List Nat) : Piece Char :=
  if a < 0x80 then .char (Char.ofNat a) 1 else .bad 1 .outOfRange

def decode (bytes : List Nat) : Except Fault (List Char) :=
  decodeFrom "ascii" first 0 0 bytes

end Scriptlet.File.Ascii
