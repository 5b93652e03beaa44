/-
# Characters by name

Every character has a name, such as `LATIN SMALL LETTER A`, and some have
further names (Unicode 14).  Case does not matter, except where a name is made
by a rule.

The tables below this module hold runs of names.  A run gives the number of its
first character, and each name begins with a small letter that says how many
words it has in common with the name before: `a` for none, `b` for one and so
on.  The name before the first of a run is the last one of the run before.
-/
import Std.Data.HashMap
import Scriptlet.Text.CharClass
import Scriptlet.Text.Lines
import Scriptlet.Text.CharacterNames.Alphabets
import Scriptlet.Text.CharacterNames.Ancient
import Scriptlet.Text.CharacterNames.Cuneiform
import Scriptlet.Text.CharacterNames.EastAsian
import Scriptlet.Text.CharacterNames.Further
import Scriptlet.Text.CharacterNames.FurtherIndic
import Scriptlet.Text.CharacterNames.FurtherLetters
import Scriptlet.Text.CharacterNames.FurtherScripts
import Scriptlet.Text.CharacterNames.Hieroglyphs
import Scriptlet.Text.CharacterNames.Indic
import Scriptlet.Text.CharacterNames.Letters
import Scriptlet.Text.CharacterNames.Music
import Scriptlet.Text.CharacterNames.Pictures
import Scriptlet.Text.CharacterNames.Shapes
import Scriptlet.Text.CharacterNames.Signs
import Scriptlet.Text.CharacterNames.Syllabics

namespace Scriptlet.Text.CharacterName

open CharacterNames

def runs : List (Nat × String) :=
  [alphabets, indic, syllabics, letters, signs, shapes, eastAsian, furtherLetters, ancient,
   furtherIndic, cuneiform, hieroglyphs, furtherScripts, music, pictures, further].flatten

/-- The entries of a run, each with the number of words that it has in common
with the entry before; and what stands before the first entry. -/
def entries : List Char → List Char × List (Nat × List Char)
  | [] => ([], [])
  | c :: rest =>
    let (text, more) := entries rest
    if c.isLower then ([], (c.toNat - 'a'.toNat, text) :: more) else (c :: text, more)

structure Entry where
  /-- The number of the character. -/
  number : Nat
  /-- How many words the name has in common with the name before. -/
  common : Nat
  /-- The rest of the name. -/
  text : List Char

def Entry.ofRuns (runs : List (Nat × String)) : List Entry :=
  runs.flatMap fun (first, run) =>
    (entries run.toList).2.zipIdx.map fun ((common, text), i) => ⟨first + i, common, text⟩

/-- Characters by the names that some entries stand for, added to those that
are known already.  The name before the entries has the words `before`. -/
def addNames (known : Std.HashMap String Nat) (before : List (List Char)) :
    List Entry → Std.HashMap String Nat
  | [] => known
  | entry :: rest =>
    let words := before.take entry.common ++ splitAtChar ' ' entry.text
    addNames (known.insert (String.ofList (List.intercalate [' '] words)) entry.number) words rest

/-- The characters by the names of the tables. -/
def table : Thunk (Std.HashMap String Nat) :=
  .mk fun _ => addNames ∅ [] (Entry.ofRuns runs)

/-- The number that hexadecimal digits in capitals make. -/
def hexNumber? (digits : List Char) : Option Nat :=
  digits.foldl
    (fun value c => do
      let n ← value
      if '0' ≤ c && c ≤ '9' then return 16 * n + (c.toNat - '0'.toNat)
      else if 'A' ≤ c && c ≤ 'F' then return 16 * n + (c.toNat - 'A'.toNat + 10)
      else none)
    (some 0)

/-- The digits of a number in base sixteen, in capitals, at least four of them. -/
def hexCapitals (n : Nat) : List Char :=
  let digits := (Nat.toDigits 16 n).map Char.toUpper
  List.replicate (4 - digits.length) '0' ++ digits

/-- Names that end in the number of their character, by how they begin, with
closed ranges of the numbers. -/
def numbered : List (String × List (Nat × Nat)) :=
  [("CJK COMPATIBILITY IDEOGRAPH-", [(0xF900, 0xFA6D), (0xFA70, 0xFAD9), (0x2F800, 0x2FA1D)]),
   ("KHITAN SMALL SCRIPT CHARACTER-", [(0x18B00, 0x18CD5)]),
   ("NUSHU CHARACTER-", [(0x1B170, 0x1B2FB)])]

/-- What stands behind a beginning, if the name begins so. -/
def behind? (start : String) (name : List Char) : Option (List Char) :=
  if start.toList.isPrefixOf name then some (name.drop start.length) else none

/-- The character of a name in capitals that ends in its number. -/
def numbered? (name : List Char) : Option Nat :=
  numbered.findSome? fun (start, ranges) => do
    let digits ← behind? start name
    let n ← hexNumber? digits
    if inRanges n ranges && hexCapitals n == digits then return n else none

def ideographRanges : List (Nat × Nat) :=
  [(0x3400, 0x4DBF), (0x4E00, 0x9FFF), (0x20000, 0x2A6DF), (0x2A700, 0x2B738), (0x2B740, 0x2B81D),
   (0x2B820, 0x2CEA1), (0x2CEB0, 0x2EBE0), (0x30000, 0x3134A)]

/-- The ideograph by its number, of four or five digits. -/
def ideograph? (digits : List Char) : Option Nat := do
  let n ← hexNumber? digits
  if (digits.length == 4 || digits.length == 5) && inRanges n ideographRanges then return n
  else none

/-- What the letters that begin a Korean syllable are called. -/
def initialNames : List String :=
  ["G", "GG", "N", "D", "DD", "R", "M", "B", "BB", "S", "SS", "", "J", "JJ", "C", "K", "T", "P",
   "H"]

/-- What the vowels of a Korean syllable are called. -/
def medialNames : List String :=
  ["A", "AE", "YA", "YAE", "EO", "E", "YEO", "YE", "O", "WA", "WAE", "OE", "YO", "U", "WEO", "WE",
   "WI", "YU", "EU", "YI", "I"]

/-- What the letters that end a Korean syllable are called; the first is none. -/
def finalNames : List String :=
  ["", "G", "GG", "GS", "N", "NJ", "NH", "D", "L", "LG", "LM", "LB", "LS", "LT", "LP", "LH", "M",
   "B", "BS", "S", "SS", "NG", "J", "C", "K", "T", "P", "H"]

/-- The longest of some letters that a text begins with: its index, and what is
behind it. -/
def longest? (names : List String) (text : List Char) : Option (Nat × List Char) :=
  let fits := names.zipIdx.filter fun (name, _) => name.toList.isPrefixOf text
  let best := fits.foldl
    (fun (best : Option (String × Nat)) (name, i) =>
      match best with
      | some (other, _) => if other.length < name.length then some (name, i) else best
      | none => some (name, i))
    none
  best.map fun (name, i) => (i, text.drop name.length)

/-- The Korean syllable by its letters. -/
def syllable? (text : List Char) : Option Nat := do
  let (i, text) ← longest? initialNames text
  let (m, text) ← longest? medialNames text
  let (f, text) ← longest? finalNames text
  if text.isEmpty then return 0xAC00 + 588 * i + 28 * m + f else none

/-- The number of the character with the given name. -/
def find? (name : List Char) : Option Nat :=
  match behind? "HANGUL SYLLABLE " name, behind? "CJK UNIFIED IDEOGRAPH-" name with
  | some letters, _ => syllable? letters
  | none, some digits => ideograph? digits
  | none, none =>
    let capitals := name.map Char.toUpper
    (numbered? capitals).or table.get[String.ofList capitals]?

end Scriptlet.Text.CharacterName
