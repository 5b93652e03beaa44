/-
# UTF-16 and UTF-32

Encodings whose units are two or four bytes wide.  The bytes of a unit stand in
one of two orders; a mark at the front of the file may say in which.
-/
import Scriptlet.File.Decoding
import Scriptlet.File.Halves

namespace Scriptlet.File

/-- Which byte of a unit comes first. -/
inductive ByteOrder where
  | lowFirst
  | highFirst
  deriving DecidableEq, Repr, Inhabited

namespace ByteOrder

/-- The end of the name of an encoding in this order. -/
def label : ByteOrder → String
  | lowFirst => "-le"
  | highFirst => "-be"

/-- The number that two bytes make. -/
def pair (order : ByteOrder) (a b : Nat) : Nat :=
  match order with
  | lowFirst => a + 0x100 * b
  | highFirst => 0x100 * a + b

/-- The number that four bytes make. -/
def quad (order : ByteOrder) (a b c d : Nat) : Nat :=
  match order with
  | lowFirst => order.pair a b + 0x10000 * order.pair c d
  | highFirst => 0x10000 * order.pair a b + order.pair c d

end ByteOrder

namespace Utf16

/-- The character of the unit `u` or of the pair that it begins; `rest` are the
bytes behind it. -/
def ofUnit (order : ByteOrder) (u : Nat) (rest : List Nat) : Piece Char :=
  if isSecondHalf u then .bad 2 .loneSecondHalf
  else if !isFirstHalf u then .char (Char.ofNat u) 2
  else
    match rest with
    | [] => .bad 2 .unexpectedEnd
    | [_] => .bad 3 .unexpectedEnd
    | c :: d :: _ =>
      let v := order.pair c d
      if isSecondHalf v then .char (ofHalves u v) 4 else .bad 2 .brokenPair

def first (order : ByteOrder) (a : Nat) (rest : List Nat) : Piece Char :=
  match rest with
  | [] => .bad 1 .truncatedUnit
  | b :: rest => ofUnit order (order.pair a b) rest

def decodeAt (order : ByteOrder) (index : Nat) (bytes : List Nat) : Except Fault (List Char) :=
  decodeFrom ("utf-16" ++ order.label) (first order) index 0 bytes

def decode : List Nat → Except Fault (List Char)
  | 0xFF :: 0xFE :: rest => decodeAt .lowFirst 2 rest
  | 0xFE :: 0xFF :: rest => decodeAt .highFirst 2 rest
  | bytes =>
    match decodeAt .lowFirst 0 bytes with
    | .ok [] => .ok []
    | .ok _ => .error (.noByteOrderMark "UTF-16")
    | .error fault => .error fault

end Utf16

namespace Utf32

def first (order : ByteOrder) (a : Nat) (rest : List Nat) : Piece Char :=
  match rest with
  | b :: c :: d :: _ =>
    let u := order.quad a b c d
    if isFirstHalf u || isSecondHalf u then .bad 4 .surrogate
    else if 0x110000 ≤ u then .bad 4 .beyondLastCharacter
    else .char (Char.ofNat u) 4
  | rest => .bad (1 + rest.length) .truncatedUnit

def decodeAt (order : ByteOrder) (index : Nat) (bytes : List Nat) : Except Fault (List Char) :=
  decodeFrom ("utf-32" ++ order.label) (first order) index 0 bytes

def decode : List Nat → Except Fault (List Char)
  | 0xFF :: 0xFE :: 0 :: 0 :: rest => decodeAt .lowFirst 4 rest
  | 0 :: 0 :: 0xFE :: 0xFF :: rest => decodeAt .highFirst 4 rest
  | bytes =>
    match decodeAt .lowFirst 0 bytes with
    | .ok [] => .ok []
    | .ok _ => .error (.noByteOrderMark "UTF-32")
    | .error fault => .error fault

end Utf32

end Scriptlet.File
