/-
# UTF-8
-/
import Scriptlet.File.Decoding

namespace Scriptlet.File.Utf8

/-- A byte that continues a character. -/
def isContinuation (b : Nat) : Bool := 0x80 ≤ b && b ≤ 0xBF

/-- Whether `b` may be the second byte behind the first byte `a`: the longer
forms of shorter characters, the surrogates and what lies beyond the last
character are shut out here. -/
def isSecond (a b : Nat) : Bool :=
  isContinuation b &&
    !(a == 0xE0 && b < 0xA0) && !(a == 0xED && 0xA0 ≤ b) &&
    !(a == 0xF0 && b < 0x90) && !(a == 0xF4 && 0x90 ≤ b)

/-- The six bits that a continuation byte carries. -/
def low6 (b : Nat) : Nat := b % 0x40

def first (a : Nat) (rest : List Nat) : Piece Char :=
  if a < 0x80 then .char (Char.ofNat a) 1
  else if a < 0xC2 || 0xF4 < a then .bad 1 .invalidStart
  else
    match rest with
    | [] => .bad 1 .unexpectedEnd
    | b :: rest =>
      if !isSecond a b then .bad 1 .invalidContinuation
      else if a < 0xE0 then .char (Char.ofNat (a % 0x20 * 0x40 + low6 b)) 2
      else
        match rest with
        | [] => .bad 2 .unexpectedEnd
        | c :: rest =>
          if !isContinuation c then .bad 2 .invalidContinuation
          else if a < 0xF0 then
            .char (Char.ofNat (a % 0x10 * 0x1000 + low6 b * 0x40 + low6 c)) 3
          else
            match rest with
            | [] => .bad 3 .unexpectedEnd
            | d :: _ =>
              if !isContinuation d then .bad 3 .invalidContinuation
              else
                .char (Char.ofNat
                  (a % 0x08 * 0x40000 + low6 b * 0x1000 + low6 c * 0x40 + low6 d)) 4

/-- The bytes that may stand before a text to say that it is UTF-8. -/
def mark : List Nat := [0xEF, 0xBB, 0xBF]

def decode (bytes : List Nat) : Except Fault (List Char) :=
  decodeFrom "utf-8" first 0 0 bytes

/-- The characters behind a mark that need not be there.  Places count from
behind the mark, and a file that ends within the mark is empty. -/
def decodeMarked (bytes : List Nat) : Except Fault (List Char) :=
  if mark.isPrefixOf bytes then decode (bytes.drop mark.length)
  else if bytes.isPrefixOf mark then .ok []
  else decode bytes

end Scriptlet.File.Utf8
