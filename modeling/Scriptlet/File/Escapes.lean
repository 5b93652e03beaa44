/-
# Escaped text

Encodings in which every byte is the character of its number, except that a
backslash begins an escape.  Characters are numbers until the whole text is
read, since an escape can name a half of one.
-/
import Scriptlet.File.Decoding
import Scriptlet.File.Halves
import Scriptlet.Text.CharacterName

namespace Scriptlet.File.Escapes

def hexDigit? (b : Nat) : Option Nat :=
  if 48 ≤ b && b ≤ 57 then some (b - 48)
  else if 97 ≤ b && b ≤ 102 then some (b - 87)
  else if 65 ≤ b && b ≤ 70 then some (b - 55)
  else none

/-- Reads `count` hexadecimal digits: the number they make, or how many there
are before something else. -/
def hexNumber (value read : Nat) : (count : Nat) → List Nat → Nat ⊕ Nat
  | 0, _ => .inl value
  | _ + 1, [] => .inr read
  | count + 1, b :: rest =>
    match hexDigit? b with
    | none => .inr read
    | some d => hexNumber (16 * value + d) (read + 1) count rest

/-- A character given by `count` hexadecimal digits behind the two bytes that
begin the escape. -/
def numbered (form : String) (beyond : BadBytes) (count : Nat) (rest : List Nat) : Piece Nat :=
  match hexNumber 0 0 count rest with
  | .inr read => .bad (2 + read) (.truncatedEscape form)
  | .inl value =>
    if 0x110000 ≤ value then .bad (2 + count) beyond
    else .char value (2 + count)

/-- A character given by its name between braces. -/
def named (rest : List Nat) : Piece Nat :=
  match rest with
  | 0x7B :: rest =>
    let name := rest.takeWhile (· != 0x7D)
    if name.length == rest.length then .bad (3 + name.length) .malformedNamedEscape
    else if name.isEmpty then .bad 3 .malformedNamedEscape
    else
      match Text.CharacterName.find? (name.map Char.ofNat) with
      | some n => .char n (4 + name.length)
      | none => .bad (4 + name.length) .unknownCharacterName
  | _ => .bad 2 .malformedNamedEscape

/-- A character given by up to three octal digits, of which `d` is the first. -/
def octal (d : Nat) (rest : List Nat) : Piece Nat :=
  let more := (rest.take 2).takeWhile fun b => 48 ≤ b && b ≤ 55
  .char (more.foldl (fun value b => 8 * value + (b - 48)) d) (2 + more.length)

/-- The characters of the letters behind a backslash. -/
def letters : List (Char × Char) :=
  [('\\', '\\'), (Char.ofNat 39, Char.ofNat 39), ('"', '"'), ('b', '\x08'), ('f', '\x0c'),
   ('t', '\t'), ('n', '\n'), ('r', '\r'), ('v', '\x0b'), ('a', '\x07')]

/-- The escape that a backslash begins with the byte `b` behind it. -/
def escape (b : Nat) (rest : List Nat) : Piece Nat :=
  let c := Char.ofNat b
  match letters.lookup c with
  | some meant => .char meant.toNat 2
  | none =>
    match c with
    | '\n' => .chars [] 2
    | 'x' => numbered "\\xXX" .escapeBeyondLast 2 rest
    | 'u' => numbered "\\uXXXX" .escapeBeyondLast 4 rest
    | 'U' => numbered "\\UXXXXXXXX" .escapeBeyondLast 8 rest
    | 'N' => named rest
    | _ => if 48 ≤ b && b ≤ 55 then octal (b - 48) rest else .chars [0x5C, b] 2

def first (a : Nat) (rest : List Nat) : Piece Nat :=
  if a != 0x5C then .char a 1
  else
    match rest with
    | [] => .bad 1 .loneBackslash
    | b :: rest => escape b rest

/-- The first piece of the bytes `a :: rest` where only the escapes with `u` and
`U` count. -/
def firstRaw (a : Nat) (rest : List Nat) : Piece Nat :=
  if a != 0x5C then .char a 1
  else
    match rest with
    | [] => .char 0x5C 1
    | b :: rest =>
      match Char.ofNat b with
      | 'u' => numbered "\\uXXXX" .rawEscapeBeyondLast 4 rest
      | 'U' => numbered "\\UXXXXXXXX" .rawEscapeBeyondLast 8 rest
      | _ => .chars [0x5C, b] 2

/-- The characters of some bytes with all escapes. -/
def decode (bytes : List Nat) : Except Fault (List Char) :=
  (decodeFrom "unicodeescape" first 0 0 bytes).map joinHalves

/-- The characters of some bytes with the escapes by number only. -/
def decodeRaw (bytes : List Nat) : Except Fault (List Char) :=
  (decodeFrom "rawunicodeescape" firstRaw 0 0 bytes).map joinHalves

end Scriptlet.File.Escapes
