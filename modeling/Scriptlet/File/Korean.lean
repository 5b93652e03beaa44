/-
# Korean encodings

EUC-KR, code page 949 and Johab.  All three hold KS X 1001, which has only some
of the syllables; each has its own way to write the others.
-/
import Scriptlet.File.Decoding
import Scriptlet.File.Chart.KsX1001

namespace Scriptlet.File

namespace Hangul

/-- The consonants that begin a syllable. -/
def initials : String := "ㄱㄲㄴㄷㄸㄹㅁㅂㅃㅅㅆㅇㅈㅉㅊㅋㅌㅍㅎ"

/-- The vowels. -/
def medials : String := "ㅏㅐㅑㅒㅓㅔㅕㅖㅗㅘㅙㅚㅛㅜㅝㅞㅟㅠㅡㅢㅣ"

/-- The consonants that end a syllable. -/
def finals : String := "ㄱㄲㄳㄴㄵㄶㄷㄹㄺㄻㄼㄽㄾㄿㅀㅁㅂㅄㅅㅆㅇㅈㅊㅋㅌㅍㅎ"

/-- The syllable of the numbered letters, where a final of 0 is none. -/
def syllable (initial medial final : Nat) : Char :=
  Char.ofNat (0xAC00 + 588 * initial + 28 * medial + final)

end Hangul

namespace EucKr

open Hangul

/-- The byte that begins a letter. -/
def letterLead : Nat := 0xA4

/-- The byte of the filler among the letters. -/
def filler : Nat := 0xD4

def letter? (b : Nat) : Option Char :=
  if 0xA1 ≤ b && b ≤ 0xD3 then some (Char.ofNat (0x3131 + (b - 0xA1))) else none

/-- The number of a letter in a list of letters. -/
def number? (letters : String) (b : Nat) : Option Nat :=
  (letter? b).bind fun c => letters.toList.idxOf? c

/-- The syllable that is spelled out by its three letters behind a filler. -/
def spelled? (initial medial final : Nat) : Option Char := do
  let i ← number? initials initial
  let m ← number? medials medial
  let f ← if final == filler then some 0 else (number? finals final).map (· + 1)
  return syllable i m f

/-- The piece that begins with a filler, given the bytes behind the filler. -/
def ofSpelled (rest : List Nat) : Piece Char :=
  match rest with
  | lead₁ :: initial :: lead₂ :: medial :: lead₃ :: final :: _ =>
    if [lead₁, lead₂, lead₃].all (· == letterLead) then
      .ofFound 8 ((spelled? initial medial final).map ([·]))
    else .illegal
  | _ => .incomplete (filler :: rest)

def first (a : Nat) (rest : List Nat) : Piece Char :=
  if a < 0x80 then .char (Char.ofNat a) 1
  else
    match rest with
    | [] => .incomplete []
    | b :: rest =>
      if a == letterLead && b == filler then ofSpelled rest
      else .ofFound 2 ((Chart.ksX1001.char? (a - 0x80) (b - 0x80)).map ([·]))

def decode (bytes : List Nat) : Except Fault (List Char) :=
  decodeFrom "euc_kr" first 0 0 bytes

end EucKr

namespace CodePage949

/-- The syllables that KS X 1001 does not have. -/
def syllables : Array Char := Chart.missing Chart.ksX1001 '가' '힣'

/-- The number of a second byte that chooses one of them: two alphabets of
letters, then the bytes beyond ASCII. -/
def trail? (b : Nat) : Option Nat :=
  if 0x41 ≤ b && b ≤ 0x5A then some (b - 0x41)
  else if 0x61 ≤ b && b ≤ 0x7A then some (b - 0x61 + 26)
  else if 0x81 ≤ b && b ≤ 0xFE then some (b - 0x81 + 52)
  else none

/-- The number of the syllable that two bytes choose.  From the first byte 0xA1
on, the larger second bytes belong to KS X 1001. -/
def index? (a b : Nat) : Option Nat :=
  (trail? b).bind fun t =>
    if 0x81 ≤ a && a ≤ 0xA0 then some (178 * (a - 0x81) + t)
    else if 0xA1 ≤ a && b ≤ 0xA0 then some (178 * 32 + 84 * (a - 0xA1) + t)
    else none

def pair? (a b : Nat) : Option (List Char) :=
  ((Chart.ksX1001.char? (a - 0x80) (b - 0x80)).or
    ((index? a b).bind fun i => syllables[i]?)).map ([·])

def decode (bytes : List Nat) : Except Fault (List Char) :=
  decodeFrom "cp949" (Piece.ofPair pair?) 0 0 bytes

end CodePage949

namespace Johab

open Hangul

/-- A part of a syllable: a letter by its number, or a filler for none. -/
inductive Part where
  | filler
  | letter (number : Nat)

/-- The part that begins a syllable, for five bits. -/
def initial? (bits : Nat) : Option Part :=
  if bits == 1 then some .filler
  else if 2 ≤ bits && bits ≤ 20 then some (.letter (bits - 2))
  else none

/-- The vowel for five bits. -/
def medial? (bits : Nat) : Option Part :=
  if bits == 2 then some .filler
  else if 3 ≤ bits && bits ≤ 7 then some (.letter (bits - 3))
  else if 10 ≤ bits && bits ≤ 15 then some (.letter (bits - 5))
  else if 18 ≤ bits && bits ≤ 23 then some (.letter (bits - 7))
  else if 26 ≤ bits && bits ≤ 29 then some (.letter (bits - 9))
  else none

/-- The part that ends a syllable, for five bits. -/
def final? (bits : Nat) : Option Part :=
  if bits == 1 then some .filler
  else if 2 ≤ bits && bits ≤ 17 then some (.letter (bits - 2))
  else if 19 ≤ bits && bits ≤ 29 then some (.letter (bits - 3))
  else none

/-- The character of three parts: a syllable, or a letter alone. -/
def assemble? : Part → Part → Part → Option Char
  | .filler, .filler, .filler => some '\u3000'
  | .filler, .filler, .letter f => Text.charAt? finals f
  | .filler, .letter m, .filler => Text.charAt? medials m
  | .letter i, .filler, .filler => Text.charAt? initials i
  | .letter i, .letter m, .filler => some (syllable i m 0)
  | .letter i, .letter m, .letter f => some (syllable i m (f + 1))
  | _, _, _ => none

/-- The syllable or letter of two bytes: one bit that is set and three groups of
five bits. -/
def hangul? (a b : Nat) : Option Char := do
  let bits := 0x100 * a + b
  let i ← initial? (bits / 0x400 % 0x20)
  let m ← medial? (bits / 0x20 % 0x20)
  let f ← final? (bits % 0x20)
  assemble? i m f

/-- The row and column of KS X 1001 that two bytes choose: a first byte stands
for two rows of 94 columns. -/
def place? (a b : Nat) : Option (Nat × Nat) :=
  let lead? :=
    if 0xD9 ≤ a && a ≤ 0xDE then some (2 * (a - 0xD9))
    else if 0xE0 ≤ a && a ≤ 0xF9 then some (2 * a - 0x197)
    else none
  let trail? :=
    if 0x31 ≤ b && b ≤ 0x7E then some (b - 0x31)
    else if 0x91 ≤ b && b ≤ 0xFE then some (b - 0x43)
    else none
  match lead?, trail? with
  | some l, some t =>
    if t < 94 then some (l + 0x21, t + 0x21) else some (l + 0x22, t - 94 + 0x21)
  | _, _ => none

/-- Letters, which are written as parts and not by their places. -/
def isLetter (a b : Nat) : Bool := a == 0xDA && 0xA1 ≤ b && b ≤ 0xD3

def pair? (a b : Nat) : Option (List Char) :=
  let found :=
    if a < 0xD8 then hangul? a b
    else if isLetter a b then none
    else (place? a b).bind fun (row, column) => Chart.ksX1001.char? row column
  found.map ([·])

def decode (bytes : List Nat) : Except Fault (List Char) :=
  decodeFrom "johab" (Piece.ofPair pair?) 0 0 bytes

end Johab

end Scriptlet.File
