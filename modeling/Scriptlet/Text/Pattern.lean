/-
# Patterns

Regular patterns over characters, matched against a whole text by taking
derivatives: `derive p c` is the pattern of what may follow `c`.  The
constructors used while deriving drop what cannot match, so the patterns stay
small.
-/
namespace Scriptlet.Text

inductive Pattern where
  /-- Matches nothing. -/
  | never
  /-- Matches the empty text. -/
  | empty
  /-- Matches one character of a class. -/
  | one (within : Char → Bool)
  | alt (p q : Pattern)
  | seq (p q : Pattern)
  | star (p : Pattern)

namespace Pattern

/-- `alt`, dropping a side that matches nothing. -/
def or : Pattern → Pattern → Pattern
  | never, q => q
  | p, never => p
  | p, q => alt p q

/-- `seq`, dropping a side that is empty or matches nothing. -/
def andThen : Pattern → Pattern → Pattern
  | never, _ => never
  | empty, q => q
  | p, q => seq p q

/-- Whether the pattern matches the empty text. -/
def nullable : Pattern → Bool
  | never => false
  | empty => true
  | one _ => false
  | alt p q => p.nullable || q.nullable
  | seq p q => p.nullable && q.nullable
  | star _ => true

/-- What may follow a given first character. -/
def derive : Pattern → Char → Pattern
  | never, _ => never
  | empty, _ => never
  | one within, c => if within c then empty else never
  | alt p q, c => (p.derive c).or (q.derive c)
  | seq p q, c =>
    let left := (p.derive c).andThen q
    if p.nullable then left.or (q.derive c) else left
  | star p, c => (p.derive c).andThen (star p)

/-- Whether the pattern matches the whole text. -/
def accepts (p : Pattern) : List Char → Bool
  | [] => p.nullable
  | c :: rest => (p.derive c).accepts rest

/-! ## Shorthands -/

/-- One of the given characters. -/
def oneOf (chars : String) : Pattern := one chars.toList.contains

/-- One character between two others. -/
def range (low high : Char) : Pattern := one fun c => low ≤ c && c ≤ high

/-- Exactly the given word. -/
def word (s : String) : Pattern := s.toList.foldr (fun c p => seq (one (· == c)) p) empty

/-- Any of several patterns. -/
def any (ps : List Pattern) : Pattern := ps.foldr alt never

/-- Several patterns in a row. -/
def row (ps : List Pattern) : Pattern := ps.foldr seq empty

/-- The pattern or nothing. -/
def opt (p : Pattern) : Pattern := alt p empty

/-- The pattern one or more times. -/
def plus (p : Pattern) : Pattern := seq p (star p)

/-- Any of several words. -/
def words (ws : List String) : Pattern := any (ws.map word)

end Pattern

end Scriptlet.Text
