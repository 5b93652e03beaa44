/-
# Lines

A text is cut into lines at `\r\n`, `\r` and `\n`, the pair counting once.  No
other character ends a line.  A text with `n` line ends has `n + 1` lines, the
last of them possibly empty.
-/
import Scriptlet.Text.CharClass

namespace Scriptlet.Text

/-- The lines of a text, without their ends.  There is always at least one. -/
def lines : List Char → List (List Char)
  | [] => [[]]
  | '\r' :: '\n' :: rest => [] :: lines rest
  | c :: rest =>
    if isLineEnd c then [] :: lines rest
    else
      match lines rest with
      | [] => [[c]]
      | line :: more => (c :: line) :: more

/-- The text with every line end written as a line feed. -/
def unifyLineEnds : List Char → List Char
  | [] => []
  | '\r' :: '\n' :: rest => '\n' :: unifyLineEnds rest
  | c :: rest => (if c == '\r' then '\n' else c) :: unifyLineEnds rest

/-- The text between the occurrences of `sep`. -/
def splitAtChar (sep : Char) : List Char → List (List Char)
  | [] => [[]]
  | c :: rest =>
    if c == sep then [] :: splitAtChar sep rest
    else
      match splitAtChar sep rest with
      | [] => [[c]]
      | part :: more => (c :: part) :: more

theorem lines_ne_nil (s : List Char) : lines s ≠ [] := by
  fun_cases lines s <;> simp_all

end Scriptlet.Text
