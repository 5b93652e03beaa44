/-
# Quoted text

Text shown inside a message: between single quotes, or between double quotes
when it holds a single quote and no double one.  The backslash, the quote and
the characters that do not show are written as escapes, so a message never
holds a line end or a control character taken from a script.
-/
import Scriptlet.Text.CharClass

namespace Scriptlet.Text

/-- The digits of `n` in base sixteen, in lower case, at least `width` of them. -/
def hexDigits (width n : Nat) : List Char :=
  let digits := Nat.toDigits 16 n
  List.replicate (width - digits.length) '0' ++ digits

/-- The escape that writes a character by its number, in the shortest of three widths. -/
def numberEscape (c : Char) : List Char :=
  let n := c.toNat
  if n < 0x100 then '\\' :: 'x' :: hexDigits 2 n
  else if n < 0x10000 then '\\' :: 'u' :: hexDigits 4 n
  else '\\' :: 'U' :: hexDigits 8 n

/-- One character as it stands between quotes of the given kind. -/
def quotedChar (quote c : Char) : List Char :=
  if c == '\\' || c == quote then ['\\', c]
  else if c == '\n' then ['\\', 'n']
  else if c == '\r' then ['\\', 'r']
  else if c == '\t' then ['\\', 't']
  else if isHidden c then numberEscape c
  else [c]

/-- The quote that shows `s` with the fewest escapes, the single one by preference. -/
def quoteFor (s : List Char) : Char :=
  if s.contains '\'' && !s.contains '"' then '"' else '\''

/-- `s` between quotes, as messages show it. -/
def quoted (s : String) : String :=
  let chars := s.toList
  let quote := quoteFor chars
  String.ofList (quote :: chars.flatMap (quotedChar quote) ++ [quote])

/-- ASCII bytes between quotes, with a `b` before them. -/
def quotedBytes (bytes : List Nat) : String :=
  "b" ++ quoted (String.ofList (bytes.map Char.ofNat))

/-- A code point between quotes, also one that is no character. -/
def quotedCode (n : Nat) : String :=
  if n.isValidChar then quoted (Char.ofNat n).toString
  else "'\\u" ++ String.ofList (hexDigits 4 n) ++ "'"

end Scriptlet.Text
