/-
# Punycode

Text in ASCII alone.  The ASCII characters of the text come first; behind the
last hyphen, numbers say which other characters are to be put in between, and
where, in the order of their code points.  A number is written with the letters
and the digits as 36 digits, and each of its digits says whether it is the last.
The threshold for this adapts itself to the numbers seen so far.

Code points are plain numbers here, since a number may lead to one that is no
character.
-/
import Scriptlet.File.Ascii
import Scriptlet.File.Halves

namespace Scriptlet.File.Punycode

/-- The value from which on the digit with the index `j` of a number is not the
last one. -/
def threshold (j bias : Nat) : Nat :=
  if 36 * (j + 1) ≤ bias then 1 else min 26 (36 * (j + 1) - bias)

theorem threshold_pos (j bias : Nat) : 1 ≤ threshold j bias := by
  unfold threshold
  split <;> omega

/-- The bias that a scaled number leads to. -/
def settle (delta divisions : Nat) : Nat :=
  if 455 < delta then settle (delta / 35) (divisions + 36)
  else divisions + 36 * delta / (delta + 38)
termination_by delta
decreasing_by exact Nat.div_lt_self (by omega) (by omega)

/-- The bias behind the number `delta`, with which the text has grown to `size`
characters.  The first number is scaled down further than the others. -/
def adapt (delta size : Nat) (isFirst : Bool) : Nat :=
  let scaled := if isFirst then delta / 700 else delta / 2
  settle (scaled + scaled / size) 0

def digit? (b : Nat) : Option Nat :=
  if 0x41 ≤ b && b ≤ 0x5A then some (b - 0x41)
  else if 0x61 ≤ b && b ≤ 0x7A then some (b - 0x61)
  else if 0x30 ≤ b && b ≤ 0x39 then some (b - 0x30 + 26)
  else none

/-- Reads the rest of a number, given its value so far, the weight of the next
digit and the index of that digit.  Gives the number and what is behind it. -/
def number (bias value weight j : Nat) : List Nat → Except BadPunycode (Nat × List Nat)
  | [] => .error .incomplete
  | b :: rest =>
    match digit? b with
    | none => .error (.noDigit (Char.ofNat b))
    | some d =>
      if d < threshold j bias then .ok (value + d * weight, rest)
      else
        number bias (value + d * weight) (weight * (36 - threshold j bias)) (j + 1) rest

theorem number_shorter {bias value weight j n : Nat} {bytes rest : List Nat}
    (h : number bias value weight j bytes = .ok (n, rest)) : rest.length < bytes.length := by
  induction bytes generalizing value weight j with
  | nil => simp [number] at h
  | cons b more ih =>
    rw [number] at h
    split at h
    · simp at h
    · split at h
      · simp only [Except.ok.injEq, Prod.mk.injEq] at h
        simp [← h.2]
      · have := ih h
        simp only [List.length_cons]
        omega

/-- Puts characters into `text` as the numbers say.  The next one has a code
point of at least `code`, and where it is `code` it comes at `place` at the
earliest. -/
def insertAll (text : List Nat) (code place bias : Nat) (isFirst : Bool) (bytes : List Nat) :
    Except BadPunycode (List Nat) :=
  if bytes.isEmpty then .ok text
  else
    match h : number bias 0 1 0 bytes with
    | .error why => .error why
    | .ok (delta, rest) =>
      let size := text.length + 1
      let next := code + (place + delta) / size
      if 0x10FFFF < next then .error (.beyondLast next)
      else
        let spot := (place + delta) % size
        insertAll (text.take spot ++ next :: text.drop spot) next (spot + 1)
          (adapt delta size isFirst) false rest
termination_by bytes.length
decreasing_by exact number_shorter h

def codePoints (basic numbers : List Nat) : Except BadPunycode (List Nat) :=
  insertAll basic 0x80 0 72 true numbers

/-- The bytes before the last hyphen, and those behind it. -/
def parts (bytes : List Nat) : List Nat × List Nat :=
  let numbers := (bytes.reverse.takeWhile (· != 0x2D)).reverse
  (bytes.take (bytes.length - numbers.length - 1), numbers)

/-- The characters of some bytes.  Places in reports count from the front of
the part that is at fault. -/
def decode (bytes : List Nat) : Except Fault (List Char) :=
  let (basic, numbers) := parts bytes
  match Ascii.decode basic, Ascii.decode numbers with
  | .error fault, _ => .error fault
  | _, .error fault => .error fault
  | .ok _, .ok _ =>
    match codePoints basic numbers with
    | .error why => .error (.badPunycode why)
    | .ok codes => .ok (joinHalves codes)

def digitByte (d : Nat) : Nat := if d < 26 then 0x61 + d else 0x30 + (d - 26)

/-- The digits of a number from the one with the index `j` on. -/
def numberBytes (bias j n : Nat) : List Nat :=
  let t := threshold j bias
  if n < t then [digitByte n]
  else digitByte (t + (n - t) % (36 - t)) :: numberBytes bias (j + 1) ((n - t) / (36 - t))
termination_by n
decreasing_by
  have := threshold_pos j bias
  exact Nat.lt_of_le_of_lt (Nat.div_le_self _ _) (by omega)

/-- What has been written of a text: the bytes, the number that is being
counted, the bias, and how many characters the text has by then. -/
structure Writing where
  bytes : List Nat
  delta : Nat
  bias : Nat
  size : Nat
  isFirst : Bool

/-- One character of the text is passed on the way to those with the code point
`code`. -/
def Writing.pass (code : Nat) (w : Writing) (c : Nat) : Writing :=
  if c < code then { w with delta := w.delta + 1 }
  else if c == code then
    { bytes := w.bytes ++ numberBytes w.bias 0 w.delta, delta := 0,
      bias := adapt w.delta (w.size + 1) w.isFirst, size := w.size + 1, isFirst := false }
  else w

/-- Writes the numbers for the characters with the given code points, which are
in rising order and not below `next`. -/
def Writing.numbers (text : List Nat) (next : Nat) (w : Writing) : List Nat → Writing
  | [] => w
  | code :: rest =>
    let counted := { w with delta := w.delta + (code - next) * (w.size + 1) }
    let passed := text.foldl (pass code) counted
    numbers text (code + 1) { passed with delta := passed.delta + 1 } rest

/-- The bytes of a text. -/
def encode (text : List Nat) : List Nat :=
  let basic := text.filter (· < 0x80)
  let codes := (text.filter (0x80 ≤ ·)).mergeSort.eraseDups
  let start : Writing :=
    { bytes := if basic.isEmpty then [] else basic ++ [0x2D],
      delta := 0, bias := 72, size := basic.length, isFirst := true }
  (start.numbers text 0x80 codes).bytes

end Scriptlet.File.Punycode
