/-
# ISO 2022

Encodings of seven bits that change their character set on the way.  An escape
sequence designates a set to one of three slots: bytes choose from the first,
from the second between the two shifts, and a single shift chooses one
character from the third.  The members of the family differ in the sets that
they know.
-/
import Scriptlet.File.Chinese
import Scriptlet.File.CodePage
import Scriptlet.File.Japanese
import Scriptlet.File.Korean

namespace Scriptlet.File.Iso2022

inductive CharSet where
  | ascii
  | roman
  | katakana
  | latin1
  | greek
  | jisX0208
  | jisX0212
  /-- The first plane of JIS X 0213, in the edition that the standard says. -/
  | jisX0213 (standard : JisStandard)
  | jisX0213Second
  | ksX1001
  | gb2312
  deriving DecidableEq, Repr, Inhabited

namespace CharSet

/-- The number of bytes that choose a character. -/
def width : CharSet → Nat
  | ascii | roman | katakana | latin1 | greek => 1
  | _ => 2

/-- The character of one byte of a set that has them.  The sets for the upper
half of eight bits choose nothing by a byte of seven. -/
def one? (set : CharSet) (a : Nat) : Option Char :=
  match set with
  | ascii => some (Char.ofNat a)
  | roman => some (Japanese.roman a)
  | katakana => Japanese.katakana? (a + 0x80)
  | _ => none

/-- The characters of two bytes of a set that has them. -/
def two? (set : CharSet) (a b : Nat) : Option (List Char) :=
  match set with
  | jisX0208 => (Chart.jisX0208.char? a b).map ([·])
  | jisX0212 => (Chart.jisX0212.char? a b).map ([·])
  | jisX0213 standard => standard.plane1? a b
  | jisX0213Second => (Chart.jisX0213Second.char? a b).map ([·])
  | ksX1001 => (Chart.ksX1001.char? a b).map ([·])
  | gb2312 => (Chart.gb2312.char? a b).map ([·])
  | _ => none

/-- The Greek character of a byte of eight bits.  Three that came with a later
edition are not known. -/
def greek? (a : Nat) : Option Char :=
  if a == 0xA4 || a == 0xA5 || a == 0xAA then none
  else CodePage.char? CodePage.iso88597.toList a

end CharSet

/-- A member of the family: the sets that it knows by the final bytes of their
designations, apart for sets of one byte and of two, and what it makes of
shifts. -/
structure Variant where
  label : String
  single : List (Char × CharSet)
  double : List (Char × CharSet)
  /-- Whether the two shifts count. -/
  shifts : Bool
  /-- Whether there is a third slot. -/
  thirdSlot : Bool
  /-- Whether a designation of JIS X 0208 may say that it means a revision. -/
  revisions : Bool
  deriving DecidableEq, Repr, Inhabited

namespace Variant

/-- A Japanese member without a third slot. -/
def japanese (label : String) (single double : List (Char × CharSet)) : Variant :=
  { label, single, double, shifts := false, thirdSlot := false, revisions := true }

/-- The members of the family. -/
def all : List Variant :=
  [{ label := "iso2022_kr", single := [], double := [('C', .ksX1001)],
     shifts := true, thirdSlot := false, revisions := false },
   japanese "iso2022_jp" [('J', .roman)] [('B', .jisX0208), ('@', .jisX0208)],
   japanese "iso2022_jp_1" [('J', .roman)]
     [('B', .jisX0208), ('@', .jisX0208), ('D', .jisX0212)],
   { japanese "iso2022_jp_2" [('J', .roman), ('A', .latin1), ('F', .greek)]
       [('B', .jisX0208), ('@', .jisX0208), ('D', .jisX0212), ('C', .ksX1001),
        ('A', .gb2312)] with thirdSlot := true },
   japanese "iso2022_jp_2004" []
     [('B', .jisX0208), ('Q', .jisX0213 .x0213Revised), ('P', .jisX0213Second)],
   japanese "iso2022_jp_3" []
     [('B', .jisX0208), ('O', .jisX0213 .x0213), ('P', .jisX0213Second)],
   japanese "iso2022_jp_ext" [('J', .roman), ('I', .katakana)]
     [('B', .jisX0208), ('@', .jisX0208), ('D', .jisX0212)]]

/-- The set of one byte that is designated by `b`. -/
def single? (variant : Variant) (b : Nat) : Option CharSet :=
  if b == 0x42 then some .ascii else variant.single.lookup (Char.ofNat b)

/-- The set of two bytes that is designated by `b`. -/
def double? (variant : Variant) (b : Nat) : Option CharSet :=
  variant.double.lookup (Char.ofNat b)

end Variant

/-- What has been designated so far, and how bytes are read. -/
structure State where
  slot₀ : CharSet := .ascii
  slot₁ : CharSet := .ascii
  slot₂ : CharSet := .ascii
  /-- Between the two shifts. -/
  shifted : Bool := false
  /-- Inside of an escape that is none of ISO 2022; its bytes stand for
  themselves. -/
  foreign : Bool := false
  deriving DecidableEq, Repr, Inhabited

/-- The slots that sets are designated to. -/
inductive Slot where
  | first
  | second
  | third

/-- The state with a set in a slot. -/
def State.designate (state : State) (set : CharSet) : Slot → State
  | .first => { state with slot₀ := set }
  | .second => { state with slot₁ := set }
  | .third => { state with slot₂ := set }

def escapeByte : Nat := 0x1B

/-- A byte that ends an escape. -/
def isFinal (b : Nat) : Bool := 0x40 ≤ b && b ≤ 0x5A

/-- The bytes that begin a designation behind an escape. -/
def designators : List Nat := [0x24, 0x26, 0x28, 0x29, 0x2E]

def longestEscape : Nat := 16

/-- How far an escape goes. -/
inductive Extent where
  | ends (size : Nat)
  | endless
  | cutOff

/-- The extent of an escape, given how many bytes of it lie behind and the bytes
ahead.  The mark of a revision does not end it. -/
def extent (revisions : Bool) (index : Nat) (bytes : List Nat) : Extent :=
  if longestEscape ≤ index then .endless
  else
    match bytes with
    | [] => .cutOff
    | b :: rest =>
      if isFinal b then .ends (index + 1)
      else if revisions && b == 0x26 && rest.head? == some 0x40 then
        extent revisions (index + 3) (rest.drop 2)
      else extent revisions (index + 1) rest
termination_by bytes.length
decreasing_by
  · simp only [List.length_drop, List.length_cons]
    omega
  · exact Nat.lt_succ_self rest.length

/-- What a whole escape designates, by the bytes behind the escape byte.  Two
bytes before a designation of JIS X 0208 say which revision is meant; it makes
no difference what they are. -/
def designated? (variant : Variant) : List Nat → Option (CharSet × Slot)
  | [0x24, b] => (variant.double? b).map (·, .first)
  | [0x28, b] => (variant.single? b).map (·, .first)
  | [0x29, b] => (variant.single? b).map (·, .second)
  | [0x2E, b] => if variant.thirdSlot then (variant.single? b).map (·, .third) else none
  | [0x24, 0x28, b] => (variant.double? b).map (·, .first)
  | [0x24, 0x29, b] => (variant.double? b).map (·, .second)
  | [_, _, 0x1B, 0x24, 0x42] => if variant.revisions then some (.jisX0208, .first) else none
  | _ => none

/-- The piece that a designation is, given the bytes behind the escape byte. -/
def designation (variant : Variant) (state : State) (rest : List Nat) : Piece Char × State :=
  match extent variant.revisions 1 rest with
  | .cutOff => (.incomplete rest, state)
  | .endless => (.illegal, state)
  | .ends size =>
    match designated? variant (rest.take (size - 1)) with
    | none => (.bad size .illegalMultibyte, state)
    | some (set, slot) => (.chars [] size, state.designate set slot)

/-- The piece of a single shift with the byte `a` behind it. -/
def singleShift (state : State) (a : Nat) : Piece Char :=
  let ofFound : Option Char → Piece Char
    | some c => .char c 3
    | none => .bad 3 .illegalMultibyte
  match state.slot₂ with
  | .ascii => ofFound (if a < 0x80 then some (Char.ofNat a) else none)
  | .latin1 => ofFound (if a < 0x80 then some (Char.ofNat (a + 0x80)) else none)
  | .greek => ofFound (CharSet.greek? (if a < 0x80 then a + 0x80 else a - 0x80))
  | _ => .fault .internalFailure

/-- The piece that an escape byte begins. -/
def escape (variant : Variant) (state : State) (rest : List Nat) : Piece Char × State :=
  match rest with
  | [] => (.incomplete [], state)
  | b :: more =>
    if designators.contains b then designation variant state rest
    else if variant.thirdSlot && b == 0x4E then
      match more with
      | [] => (.incomplete rest, state)
      | a :: _ => (singleShift state a, state)
    else (.char '\x1b' 1, { state with foreign := true })

/-- The piece that a byte chooses from a set, with the bytes behind it. -/
def chosen (set : CharSet) (a : Nat) (rest : List Nat) : Piece Char :=
  let ofFound : Option (List Char) → Piece Char
    | some cs => .chars cs set.width
    | none => .bad set.width .illegalMultibyte
  if set.width == 1 then ofFound ((set.one? a).map ([·]))
  else
    match rest with
    | [] => .incomplete []
    | b :: _ => ofFound (set.two? a b)

/-- The first piece of the bytes `a :: rest`.  Controls are the same in every
set, and the end of a line ends a shift. -/
def first (variant : Variant) (state : State) (a : Nat) (rest : List Nat) : Piece Char × State :=
  let itself : Piece Char := .char (Char.ofNat a) 1
  if state.foreign then (itself, { state with foreign := !isFinal a })
  else if a == escapeByte then escape variant state rest
  else if a == 0x0F && variant.shifts then (.chars [] 1, { state with shifted := false })
  else if a == 0x0E && variant.shifts then (.chars [] 1, { state with shifted := true })
  else if a == 0x0A then (itself, { state with shifted := false })
  else if a < 0x20 then (itself, state)
  else if 0x80 ≤ a then (.illegal, state)
  else (chosen (if state.shifted then state.slot₁ else state.slot₀) a rest, state)

def decode (variant : Variant) (bytes : List Nat) : Except Fault (List Char) :=
  decodeWith variant.label (first variant) {} 0 0 bytes

end Scriptlet.File.Iso2022
