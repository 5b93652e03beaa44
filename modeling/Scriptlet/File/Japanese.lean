/-
# Japanese encodings

Shift JIS and EUC-JP, each over JIS X 0208 or one of the two editions of
JIS X 0213, and code page 932.  They hold the same charts and differ in the
bytes that stand for a row and a column.
-/
import Scriptlet.File.Decoding
import Scriptlet.File.Chart.JisX0208
import Scriptlet.File.Chart.JisX0212
import Scriptlet.File.Chart.JisX0213
import Scriptlet.File.Chart.Windows

namespace Scriptlet.File

/-- The standards that say which characters there are. -/
inductive JisStandard where
  | x0208
  /-- The first edition of JIS X 0213. -/
  | x0213
  /-- The second edition of JIS X 0213, which adds ten characters. -/
  | x0213Revised
  deriving DecidableEq, Repr, Inhabited

namespace JisStandard

/-- Whether the place came with the second edition of JIS X 0213. -/
def isLater (row column : Nat) : Bool := (Chart.jisX0213New.char? row column).isSome

/-- The characters of a place in the first plane. -/
def plane1? (standard : JisStandard) (row column : Nat) : Option (List Char) :=
  let basic := (Chart.jisX0208.char? row column).map ([·])
  let additions :=
    ((Chart.jisX0213First.char? row column).map ([·])).or
      (Chart.several? Chart.jisX0213Pairs row column)
  match standard with
  | x0208 => basic
  | x0213 => basic.or additions
  | x0213Revised => (basic.or additions).or ((Chart.jisX0213New.char? row column).map ([·]))

/-- The character of a place in the second plane.  One place of it has another
character in each edition. -/
def plane2? (standard : JisStandard) (row column : Nat) : Option Char :=
  match standard with
  | x0208 => none
  | x0213 =>
    if row == 0x7D && column == 0x3B then some '鬝' else Chart.jisX0213Second.char? row column
  | x0213Revised => Chart.jisX0213Second.char? row column

end JisStandard

namespace Japanese

/-- The characters of ASCII with a yen sign and an overline in two places. -/
def roman (a : Nat) : Char :=
  if a == 0x5C then '¥' else if a == 0x7E then '‾' else Char.ofNat a

/-- The narrow katakana, which are the bytes from 0xA1 to 0xDF. -/
def katakana? (a : Nat) : Option Char :=
  if 0xA1 ≤ a && a ≤ 0xDF then some (Char.ofNat (0xFEC0 + a)) else none

/-- The piece for a place of the first plane, given what is found there.  In the
first edition of JIS X 0213 a place that came later is at fault with both its
bytes. -/
def ofPlane1 (standard : JisStandard) (row column : Nat) (found : Option (List Char)) :
    Piece Char :=
  match found with
  | some cs => .chars cs 2
  | none =>
    if standard == .x0213 && JisStandard.isLater row column then .bad 2 .illegalMultibyte
    else .illegal

end Japanese

namespace ShiftJis

open Japanese

/-- The number of a second byte among those there can be. -/
def trail? (b : Nat) : Option Nat :=
  if 0x40 ≤ b && b ≤ 0x7E then some (b - 0x40)
  else if 0x80 ≤ b && b ≤ 0xFC then some (b - 0x41)
  else none

/-- The row, counted from 0, and the column that two bytes choose: a first byte
stands for two rows of 94 columns. -/
def place? (a b : Nat) : Option (Nat × Nat) :=
  (trail? b).map fun t =>
    let pair := if a < 0xE0 then a - 0x81 else a - 0xC1
    if t < 94 then (2 * pair, t + 0x21) else (2 * pair + 1, t - 94 + 0x21)

/-- The row of the second plane for a row behind the 94 rows of the first. -/
def secondRow (row : Nat) : Nat :=
  if 0x67 ≤ row then row + 0x07
  else if 0x63 ≤ row || row == 0x5F then row - 0x37
  else row - 0x3D

/-- The piece for two bytes. -/
def ofTwo (standard : JisStandard) (a b : Nat) : Piece Char :=
  match place? a b with
  | none => .illegal
  | some (row, column) =>
    if 94 ≤ row then .ofFound 2 ((standard.plane2? (secondRow row) column).map ([·]))
    else if standard != .x0208 && row == 0 && column == 0x40 then .char '\\' 2
    else ofPlane1 standard (row + 0x21) column (standard.plane1? (row + 0x21) column)

/-- The last byte that begins a pair. -/
def lastLead : JisStandard → Nat
  | .x0208 => 0xEA
  | _ => 0xFC

def first (standard : JisStandard) (a : Nat) (rest : List Nat) : Piece Char :=
  if a < 0x80 then .char (if standard == .x0208 then Char.ofNat a else roman a) 1
  else
    match katakana? a with
    | some c => .char c 1
    | none =>
      if a == 0x80 || a == 0xA0 || lastLead standard < a then .illegal
      else
        match rest with
        | [] => .incomplete []
        | b :: _ => ofTwo standard a b

def label : JisStandard → String
  | .x0208 => "shift_jis"
  | .x0213 => "shift_jisx0213"
  | .x0213Revised => "shift_jis_2004"

def decode (standard : JisStandard) (bytes : List Nat) : Except Fault (List Char) :=
  decodeFrom (label standard) (first standard) 0 0 bytes

end ShiftJis

namespace CodePage932

open Japanese

/-- The character of two bytes: what vendors added comes first, and ten first
bytes are for private use. -/
def pair? (a b : Nat) : Option Char :=
  (Chart.cp932.char? a b).or
    (if 0xF0 ≤ a && a ≤ 0xF9 then
      (ShiftJis.trail? b).map fun t => Char.ofNat (0xE000 + 188 * (a - 0xF0) + t)
    else if a ≤ 0xEA then
      (ShiftJis.place? a b).bind fun (row, column) => Chart.jisX0208.char? (row + 0x21) column
    else none)

/-- The first piece of the bytes `a :: rest`.  The bytes without a meaning of
their own are for private use. -/
def first (a : Nat) (rest : List Nat) : Piece Char :=
  if a ≤ 0x80 then .char (Char.ofNat a) 1
  else if a == 0xA0 then .char '\uF8F0' 1
  else if 0xFD ≤ a then .char (Char.ofNat (0xF8F1 + (a - 0xFD))) 1
  else
    match katakana? a, rest with
    | some c, _ => .char c 1
    | none, [] => .incomplete []
    | none, b :: _ => .ofFound 2 ((pair? a b).map ([·]))

def decode (bytes : List Nat) : Except Fault (List Char) :=
  decodeFrom "cp932" first 0 0 bytes

end CodePage932

namespace EucJp

open Japanese

/-- The piece for three bytes, of which the first says that the others choose
from the supplement or the second plane.  A byte below 0x80 chooses nothing. -/
def ofThree (standard : JisStandard) (b c : Nat) : Piece Char :=
  let row := b - 0x80
  let column := c - 0x80
  .ofFound 3
    (((standard.plane2? row column).or (Chart.jisX0212.char? row column)).map ([·]))

/-- The piece for two bytes that choose from the first plane. -/
def ofTwo (standard : JisStandard) (a b : Nat) : Piece Char :=
  let row := a - 0x80
  let column := b - 0x80
  if standard != .x0208 && row == 0x22 && column == 0x32 then .char '～' 2
  else ofPlane1 standard row column (standard.plane1? row column)

def first (standard : JisStandard) (a : Nat) (rest : List Nat) : Piece Char :=
  if a < 0x80 then .char (Char.ofNat a) 1
  else
    match rest with
    | [] => .incomplete []
    | b :: rest =>
      if a == 0x8E then .ofFound 2 ((katakana? b).map ([·]))
      else if a == 0x8F then
        match rest with
        | [] => .incomplete [b]
        | c :: _ => ofThree standard b c
      else ofTwo standard a b

def label : JisStandard → String
  | .x0208 => "euc_jp"
  | .x0213 => "euc_jisx0213"
  | .x0213Revised => "euc_jis_2004"

def decode (standard : JisStandard) (bytes : List Nat) : Except Fault (List Char) :=
  decodeFrom (label standard) (first standard) 0 0 bytes

end EucJp

end Scriptlet.File
