/-
# Chinese encodings

GB 2312 with its successors GBK and GB 18030 and its form HZ for seven bits,
and Big5 with code page 950 and the supplement of Hong Kong.
-/
import Scriptlet.File.Decoding
import Scriptlet.File.Chart.Big5
import Scriptlet.File.Chart.Gb18030
import Scriptlet.File.Chart.Gb2312
import Scriptlet.File.Chart.Gbk
import Scriptlet.File.Chart.Hkscs
import Scriptlet.File.Chart.Windows

namespace Scriptlet.File

namespace Gb2312

/-- The characters of two bytes.  A byte below 0x80 chooses nothing. -/
def pair? (a b : Nat) : Option (List Char) :=
  (Chart.gb2312.char? (a - 0x80) (b - 0x80)).map ([·])

def decode (bytes : List Nat) : Except Fault (List Char) :=
  decodeFrom "gb2312" (Piece.ofPair pair?) 0 0 bytes

end Gb2312

namespace Gbk

/-- The ideographs that GB 2312 does not have. -/
def ideographs : Array Char := Chart.missing Chart.gb2312 '一' '龥'

/-- The number of the ideograph that two bytes choose: all second bytes behind
the first bytes up to 0xA0, and the second bytes up to 0xA0 behind those from
0xAA on. -/
def index? (a b : Nat) : Option Nat :=
  if b < 0x40 || b == 0x7F || b == 0xFF then none
  else
    let t := if b < 0x7F then b - 0x40 else b - 0x41
    if 0x81 ≤ a && a ≤ 0xA0 then some (190 * (a - 0x81) + t)
    else if 0xAA ≤ a && b ≤ 0xA0 then some (190 * 32 + 96 * (a - 0xAA) + t)
    else none

def char? (a b : Nat) : Option Char :=
  (Chart.gbk.char? a b).or ((Chart.gb2312.char? (a - 0x80) (b - 0x80)).or
    ((index? a b).bind fun i => ideographs[i]?))

def decode (bytes : List Nat) : Except Fault (List Char) :=
  decodeFrom "gbk" (Piece.ofPair fun a b => (char? a b).map ([·])) 0 0 bytes

end Gbk

namespace Gb18030

/-- The characters for private use, in three areas. -/
def private? (a b : Nat) : Option Char :=
  if 0xAA ≤ a && a ≤ 0xAF && 0xA1 ≤ b && b ≤ 0xFE then
    some (Char.ofNat (0xE000 + 94 * (a - 0xAA) + (b - 0xA1)))
  else if 0xF8 ≤ a && a ≤ 0xFE && 0xA1 ≤ b && b ≤ 0xFE then
    some (Char.ofNat (0xE234 + 94 * (a - 0xF8) + (b - 0xA1)))
  else if 0xA1 ≤ a && a ≤ 0xA7 && 0x40 ≤ b && b ≤ 0xA0 && b != 0x7F then
    some (Char.ofNat (0xE4C6 + 96 * (a - 0xA1) + (if b < 0x7F then b - 0x40 else b - 0x41)))
  else none

def two? (a b : Nat) : Option Char :=
  (Gbk.char? a b).or ((Chart.gb18030.char? a b).or (private? a b))

/-- The number of a place in a run of characters that begins with `start`. -/
def inRun (runs : List (Nat × Nat)) (place : Nat) : Nat :=
  (runs.takeWhile fun (start, _) => start ≤ place).foldl
    (fun _ (start, number) => number + (place - start)) 0

/-- The character of four bytes.  The places are counted through; those below
U+10000 are in runs, and the characters beyond have places of their own. -/
def four? (a b c d : Nat) : Option Char :=
  if a < 0x81 || a == 0xFF || c < 0x81 || c == 0xFF || d < 0x30 || 0x39 < d then none
  else
    let place := 12600 * (a - 0x81) + 1260 * (b - 0x30) + 10 * (c - 0x81) + (d - 0x30)
    if place < 39420 then some (Char.ofNat (inRun Chart.gb18030Runs place))
    else if 189000 ≤ place && place - 189000 < 0x100000 then
      some (Char.ofNat (0x10000 + (place - 189000)))
    else none

def first (a : Nat) (rest : List Nat) : Piece Char :=
  if a < 0x80 then .char (Char.ofNat a) 1
  else
    match rest with
    | [] => .incomplete []
    | b :: more =>
      if 0x30 ≤ b && b ≤ 0x39 then
        match more with
        | c :: d :: _ => .ofFound 4 ((four? a b c d).map ([·]))
        | _ => .incomplete rest
      else .ofFound 2 ((two? a b).map ([·]))

def decode (bytes : List Nat) : Except Fault (List Char) :=
  decodeFrom "gb18030" first 0 0 bytes

end Gb18030

namespace Hz

/-- What a byte stands for. -/
inductive Mode where
  | ascii
  | chinese
  deriving DecidableEq, Repr, Inhabited

/-- The piece that a tilde begins with the byte `b` behind it: a tilde, the end
of a line that goes on, or a change of the mode. -/
def escape (mode : Mode) (b : Nat) : Piece Char × Mode :=
  match mode, Char.ofNat b with
  | .ascii, '~' => (.char '~' 2, .ascii)
  | .ascii, '\n' => (.chars [] 2, .ascii)
  | .ascii, '\x7b' => (.chars [] 2, .chinese)
  | .chinese, '\x7d' => (.chars [] 2, .ascii)
  | _, _ => (.illegal, mode)

def first (mode : Mode) (a : Nat) (rest : List Nat) : Piece Char × Mode :=
  if a == 0x7E then
    match rest with
    | [] => (.incomplete [], mode)
    | b :: _ => escape mode b
  else if 0x80 ≤ a then (.illegal, mode)
  else
    match mode, rest with
    | .ascii, _ => (.char (Char.ofNat a) 1, mode)
    | .chinese, [] => (.incomplete [], mode)
    | .chinese, b :: _ => (.ofFound 2 ((Chart.gb2312.char? a b).map ([·])), mode)

def decode (bytes : List Nat) : Except Fault (List Char) :=
  decodeWith "hz" first .ascii 0 0 bytes

end Hz

namespace Big5

def pair? (a b : Nat) : Option (List Char) := (Chart.big5.char? a b).map ([·])

def decode (bytes : List Nat) : Except Fault (List Char) :=
  decodeFrom "big5" (Piece.ofPair pair?) 0 0 bytes

end Big5

namespace CodePage950

/-- The characters of two bytes: what vendors added comes first. -/
def pair? (a b : Nat) : Option (List Char) :=
  ((Chart.cp950.char? a b).map ([·])).or (Big5.pair? a b)

def decode (bytes : List Nat) : Except Fault (List Char) :=
  decodeFrom "cp950" (Piece.ofPair pair?) 0 0 bytes

end CodePage950

namespace Big5Hkscs

/-- The places that the supplement takes over. -/
def isTaken (a b : Nat) : Bool := a == 0xC7 || a == 0xC8 || (a == 0xC6 && 0xA1 ≤ b)

def pair? (a b : Nat) : Option (List Char) :=
  (if isTaken a b then none else Big5.pair? a b).or
    (((Chart.hkscs.char? a b).map ([·])).or (Chart.several? Chart.hkscsPairs a b))

def decode (bytes : List Nat) : Except Fault (List Char) :=
  decodeFrom "big5hkscs" (Piece.ofPair pair?) 0 0 bytes

end Big5Hkscs

end Scriptlet.File
