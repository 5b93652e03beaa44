/-
# Internationalized domain names

A name is made of labels between full stops.  A label that begins with the mark
`xn--` holds other characters than ASCII, in Punycode.  It must be written just
as its own text would be: the text in small letters and plain forms, without
characters that names may not hold, and with all of it in one direction.

Code points are plain numbers here.
-/
import Scriptlet.File.Punycode
import Scriptlet.Text.DirectionRanges
import Scriptlet.Text.Lines
import Scriptlet.Text.Marks
import Scriptlet.Text.PlainForms

namespace Scriptlet.File.Idna

/-- Closed ranges of the characters that a name passes over. -/
def ignoredRanges : List (Nat × Nat) :=
  [(0xAD, 0xAD), (0x34F, 0x34F), (0x1806, 0x1806), (0x180B, 0x180D), (0x200B, 0x200D),
   (0x2060, 0x2060), (0xFE00, 0xFE0F), (0xFEFF, 0xFEFF)]

/-- Closed ranges of the characters that a name may not hold: blanks, controls,
signs that change how text is shown, what is for private use and what is no
character. -/
def prohibitedRanges : List (Nat × Nat) :=
  [(0x80, 0xA0), (0x340, 0x341), (0x6DD, 0x6DD), (0x70F, 0x70F), (0x1680, 0x1680),
   (0x180E, 0x180E), (0x2000, 0x200F), (0x2028, 0x202F), (0x205F, 0x2063), (0x206A, 0x206F),
   (0x2FF0, 0x2FFB), (0x3000, 0x3000), (0xD800, 0xF8FF), (0xFDD0, 0xFDEF), (0xFEFF, 0xFEFF),
   (0xFFF9, 0xFFFF), (0x1D173, 0x1D17A), (0x1FFFE, 0x1FFFF), (0x2FFFE, 0x2FFFF),
   (0x3FFFE, 0x3FFFF), (0x4FFFE, 0x4FFFF), (0x5FFFE, 0x5FFFF), (0x6FFFE, 0x6FFFF),
   (0x7FFFE, 0x7FFFF), (0x8FFFE, 0x8FFFF), (0x9FFFE, 0x9FFFF), (0xAFFFE, 0xAFFFF),
   (0xBFFFE, 0xBFFFF), (0xCFFFE, 0xCFFFF), (0xDFFFE, 0xDFFFF), (0xE0001, 0xE0001),
   (0xE0020, 0xE007F), (0xEFFFE, 0x10FFFF)]

/-- The plain form of a character by the runs of a table. -/
def formIn? (n : Nat) (runs : List (Nat × String)) : Option (List Nat) :=
  (runs.takeWhile fun (first, _) => first ≤ n).getLast?.bind fun (first, forms) =>
    (Text.splitAtChar '\n' forms.toList)[n - first]?.map (·.map Char.toNat)

def plainForm (n : Nat) : List Nat :=
  if Text.inRanges n ignoredRanges then []
  else ((Text.Syllable.letters? n).or (formIn? n Text.plainForms)).getD [n]

/-- Whether a text with a character that is written from right to left keeps to
that direction. -/
def checkDirection (text : List Nat) : Except BadLabel Unit :=
  let isLeftward (n : Nat) := Text.inRanges n Text.rightToLeftRanges
  if !text.any isLeftward then .ok ()
  else if text.any (Text.inRanges · Text.leftToRightRanges) then .error .bothDirections
  else if (text.head?.map isLeftward).getD true && (text.getLast?.map isLeftward).getD true then
    .ok ()
  else .error .openDirection

/-- A text as names have it. -/
def prepare (text : List Nat) : Except BadLabel (List Nat) :=
  let plain := Text.composed (text.flatMap plainForm)
  match plain.find? (Text.inRanges · prohibitedRanges) with
  | some n => .error (.prohibited n)
  | none => (checkDirection plain).map fun _ => plain

/-- The mark of a label in Punycode. -/
def mark : List Nat := "xn--".toList.map Char.toNat

/-- A label of the right length. -/
def ofLength (label : List Nat) : Except BadLabel (List Nat) :=
  if 0 < label.length && label.length < 64 then .ok label else .error .badLength

def asciiLabel (text : List Nat) : Except BadLabel (List Nat) :=
  if text.all (· < 0x80) then ofLength text
  else
    match prepare text with
    | .error why => .error why
    | .ok plain =>
      if plain.all (· < 0x80) then ofLength plain
      else if mark.isPrefixOf plain then .error .marked
      else ofLength (mark ++ Punycode.encode plain)

/-- The small letter of an ASCII letter. -/
def small (n : Nat) : Nat := if 0x41 ≤ n && n ≤ 0x5A then n + 0x20 else n

def labelText (label : List Nat) : Except BadLabel (List Nat) :=
  if !mark.isPrefixOf label then .ok label
  else
    let (basic, numbers) := Punycode.parts (label.drop mark.length)
    match Punycode.codePoints basic numbers with
    | .error why => .error (.punycode why)
    | .ok text =>
      match asciiLabel text with
      | .error why => .error why
      | .ok form => if label.map small == form then .ok text else .error (.otherForm label form)

def decode (bytes : List Nat) : Except Fault (List Char) :=
  match Ascii.decode bytes with
  | .error fault => .error fault
  | .ok chars =>
    let labels := (Text.splitAtChar '.' chars).map (·.map Char.toNat)
    match labels.mapM labelText with
    | .error why => .error (.badLabel why)
    | .ok texts => .ok ((List.intercalate [0x2E] texts).map Char.ofNat)

end Scriptlet.File.Idna
