/-
# Tokens are the lexemes of the text

A text that has tokens is cut into lexemes by maximal munch: each lexeme is a text of
the pattern of its rule, no pattern has a longer text at the front of what is left, and
no rule before it allows the same lexeme (`Munched`).  The tokens are the lexemes that
are no separators, each with the offset and the length of its lexeme, so what lies
outside of all tokens is white space (`tokens_by_maximal_munch`).

## Why this is not what the scanner says of itself

The scanner does not compare the texts that a rule allows.  Each rule says once how far it
reaches, and the winner is the one that reaches furthest.  `Munched` is about all texts that
stand at the front of what is left, of whatever length and by whatever rule, and about
membership in sets of texts (`Pattern.language`).  That each rule says the longest of these
is the work of `Longest`; here stands what follows from it for a whole text:

    a competition of lengths    `winner_eq_some_iff`
    one lexeme                  `munched_iff_winner`
    a text cut into lexemes     `cut_iff_munched`
    tokens                      `Lexed`

`rivals` is a text in which both tie-breaks are needed: a longer lexeme of a later rule, and
two rules with the same lexeme.
-/
import Scriptlet.Proofs.Token.Longest
import Scriptlet.Proofs.Token.Recut

namespace Scriptlet

/-! ## Maximal munch -/

/-- The piece is the longest lexeme at the front of a text in which `rest` stands
behind it, by the first rule that allows it. -/
structure Munched (x : Piece) (rest : List Char) : Prop where
  filled : x.chars ≠ []
  fits : x.chars ∈ x.rule.pattern.language
  longest : ∀ (r : Rule) (y : List Char), y <+: x.chars ++ rest → y ∈ r.pattern.language →
    y.length ≤ x.chars.length
  first : ∀ r : Rule, r.Before x.rule → x.chars ∉ r.pattern.language

section Munched

variable {x : Piece} {xs : List Piece} {rest : List Char}

theorem munched_iff_winner :
    Munched x rest ↔ Rule.winner (x.chars ++ rest) = some (x.rule, x.chars.length) := by
  rw [Rule.winner_eq_some_iff]
  constructor
  · intro h
    -- no rule reaches beyond the piece, because what it takes is a text of its pattern
    have hmost : ∀ r : Rule, r.reach (x.chars ++ rest) ≤ x.chars.length := by
      intro r
      by_cases hzero : r.reach (x.chars ++ rest) = 0
      · omega
      · have htakes := r.longest_reach.takes _ hzero
        have hle := (Rule.cautious_reach r).le (x.chars ++ rest)
        have hlength := h.longest r _ (List.take_prefix _ _) htakes
        rwa [List.length_take_of_le hle] at hlength
    refine ⟨List.length_pos_iff.2 h.filled, ?_, hmost, ?_⟩
    · exact Nat.le_antisymm (hmost x.rule) (x.rule.longest_reach.bounds _ rest h.fits)
    · intro r hbefore
      refine Nat.lt_of_le_of_ne (hmost r) fun heq => h.first r hbefore ?_
      have hne := List.length_pos_iff.2 h.filled
      have htakes := r.longest_reach.takes (x.chars ++ rest) (by omega)
      rwa [heq, List.take_left] at htakes
  · rintro ⟨hpos, hreach, hmost, hfirst⟩
    refine ⟨List.length_pos_iff.1 hpos, ?_, ?_, ?_⟩
    · have htakes := x.rule.longest_reach.takes (x.chars ++ rest) (by omega)
      rwa [hreach, List.take_left] at htakes
    · rintro r y ⟨z, hz⟩ hy
      exact Nat.le_trans (hz ▸ r.longest_reach.bounds y z hy) (hmost r)
    · intro r hbefore hmem
      have hlt := hfirst r hbefore
      have hle := r.longest_reach.bounds x.chars rest hmem
      omega

/-- Pieces are cut if each is the longest lexeme at the front of the text from there on. -/
theorem cut_iff_munched :
    Cut xs ↔ ∀ front x back, xs = front ++ x :: back → Munched x (written back) := by
  induction xs with
  | nil => exact ⟨fun _ front x back h => by simp at h, fun _ => .nil⟩
  | cons y ys ih =>
      rw [cut_cons, ← munched_iff_winner, ih]
      constructor
      · rintro ⟨hy, hys⟩ front x back heq
        cases front with
        | nil => cases heq; exact hy
        | cons z front => cases heq; exact hys front x back rfl
      · intro h
        exact ⟨h [] y ys rfl, fun front x back heq => h (y :: front) x back (by rw [heq]; rfl)⟩

end Munched

/-! ## Where pieces stand -/

/-- The pieces with their offsets, the first of them at `n`. -/
def spots : Nat → List Piece → List (Nat × Piece)
  | _, [] => []
  | n, x :: xs => (n, x) :: spots (n + x.chars.length) xs

/-- The kind of the tokens that a rule makes; separators make none. -/
def Rule.kind? : Rule → Option TokenKind
  | boolean | float | integer | string => some .literal
  | comment => some .comment
  | identifier => some .identifier
  | operator => some .operator
  | newline | whitespace => none

section Spots

variable {x : Piece} {xs : List Piece} {n : Nat}

theorem exists_spot {k : Nat} {c : Char} (h : (written xs)[k]? = some c) (n : Nat) :
    ∃ m x, (m, x) ∈ spots n xs ∧ m ≤ n + k ∧ n + k < m + x.chars.length ∧ x ∈ xs ∧
      c ∈ x.chars := by
  induction xs generalizing n k with
  | nil => cases h
  | cons x xs ih =>
      rw [written_cons] at h
      by_cases hk : k < x.chars.length
      · rw [List.getElem?_append_left hk] at h
        exact ⟨n, x, List.mem_cons_self, by omega, by omega, List.mem_cons_self,
          List.mem_of_getElem? h⟩
      · rw [List.getElem?_append_right (by omega)] at h
        obtain ⟨m, y, hspot, hle, hlt, hy, hc⟩ := ih h (n + x.chars.length)
        exact ⟨m, y, List.mem_cons_of_mem _ hspot, by omega, by omega, List.mem_cons_of_mem _ hy,
          hc⟩

theorem isBlank_of_skipped (hskipped : x.rule.isSkipped = true)
    (hfits : x.chars ∈ x.rule.pattern.language) : ∀ c ∈ x.chars, Text.isBlank c = true := by
  obtain ⟨rule, chars⟩ := x
  cases rule with
  | newline =>
      obtain ⟨word, hword, rfl⟩ := Text.Pattern.mem_words.1 hfits
      have hall : Rule.lineEnds.all (fun word => word.toList.all Text.isBlank) = true := by decide
      exact List.all_eq_true.1 (List.all_eq_true.1 hall word hword)
  | whitespace =>
      obtain ⟨c, t, hc, ht, rfl⟩ := Text.Pattern.mem_one_seq.1 hfits
      have hall : ∀ d ∈ c :: t, (Text.isBlank d && !Text.isLineEnd d) = true :=
        List.forall_mem_cons.2 ⟨hc, Text.Pattern.mem_star_one.1 ht⟩
      intro d hd
      exact (Bool.and_eq_true_iff.1 (hall d hd)).1
  | _ => cases hskipped

end Spots

/-! ## Tokens -/

/-- What is seen of a token: its kind, where it begins, how long it is and its text. -/
def Token.view (t : Token) : Option TokenKind × Nat × Nat × String :=
  (some t.kind, t.span.start.offset, t.span.length, t.lexeme)

/-- What is seen of a piece at an offset. -/
def Piece.view (n : Nat) (x : Piece) : Option TokenKind × Nat × Nat × String :=
  (x.rule.kind?, n, x.chars.length, String.ofList x.chars)

section Tokens

variable {xs : List Piece} {tokens : List Token} {p : Position}

/-- The meaning of a lexeme is of the kind that its rule makes. -/
theorem kind_of_content {lexeme : Lexeme} {meaning : Option Content}
    (h : lexeme.content = .ok meaning) : meaning.map Content.kind = lexeme.rule.kind? := by
  unfold Lexeme.content at h
  cases hrule : lexeme.rule with
  | integer =>
      simp only [hrule] at h
      split at h
      · cases h
      · cases h; rfl
  | _ => rw [hrule] at h; cases h; rfl

theorem view_of_token? {x : Piece} {front : Option Token}
    (h : (x.place p).token? = .ok front) :
    front.toList.map Token.view = if x.rule.isSkipped then [] else [x.view p.offset] := by
  unfold Lexeme.token? at h
  cases hcontent : (x.place p).content with
  | error fault => rw [hcontent] at h; cases h
  | ok meaning =>
      rw [hcontent] at h
      cases h
      have hkind : meaning.map Content.kind = x.rule.kind? := kind_of_content hcontent
      cases meaning with
      | none =>
          have hskipped : x.rule.isSkipped = true := by
            revert hkind
            cases x.rule <;> decide
          rw [if_pos hskipped]
          rfl
      | some content =>
          have hkept : x.rule.isSkipped = false := by
            revert hkind
            cases x.rule <;> simp [Rule.kind?, Rule.isSkipped]
          have hlength : (p.advance x.chars).offset - p.offset = x.chars.length := by
            rw [offset_advance]
            omega
          simp [hkept, Token.view, Token.kind, Piece.view, Piece.place, Span.length, ← hkind,
            hlength]

theorem views_of_tokensOf (h : tokensOf (placed p xs) = .ok tokens) :
    tokens.map Token.view =
      ((spots p.offset xs).filter fun spot => !spot.2.rule.isSkipped).map
        fun spot => spot.2.view spot.1 := by
  induction xs generalizing p tokens with
  | nil => cases h; rfl
  | cons x xs ih =>
      obtain ⟨front, back, hfront, hback, rfl⟩ := tokensOf_cons_eq_ok.1 h
      have hrest := ih hback
      rw [offset_advance] at hrest
      rw [List.map_append, hrest, view_of_token? hfront, spots]
      cases hskipped : x.rule.isSkipped with
      | true => simp [hskipped]
      | false => simp [hskipped]

theorem isBlank_of_outside {k : Nat} {c : Char} (hcut : Cut xs)
    (hviews : tokens.map Token.view =
      ((spots 0 xs).filter fun spot => !spot.2.rule.isSkipped).map fun spot => spot.2.view spot.1)
    (hc : (written xs)[k]? = some c)
    (hout : ∀ t ∈ tokens, ¬ (t.span.start.offset ≤ k ∧ k < t.span.start.offset + t.span.length)) :
    Text.isBlank c = true := by
  obtain ⟨n, x, hspot, hle, hlt, hx, hmem⟩ := exists_spot hc 0
  obtain ⟨front, back, heq⟩ := List.append_of_mem hx
  have hmunched := cut_iff_munched.1 hcut front x back heq
  cases hskipped : x.rule.isSkipped with
  | true => exact isBlank_of_skipped hskipped hmunched.fits c hmem
  | false =>
      -- a piece that is no separator is a token, and the character lies within it
      have hin : x.view n ∈ tokens.map Token.view := by
        rw [hviews]
        exact List.mem_map.2 ⟨(n, x), List.mem_filter.2 ⟨hspot, by simp [hskipped]⟩, rfl⟩
      obtain ⟨t, ht, hview⟩ := List.mem_map.1 hin
      simp only [Token.view, Piece.view, Prod.mk.injEq] at hview
      obtain ⟨-, hoffset, hlength, -⟩ := hview
      exact absurd ⟨by omega, by omega⟩ (hout t ht)

end Tokens

/-- The tokens of a source are made of the pieces of its text by maximal munch. -/
structure Lexed (source : Source) (xs : List Piece) (tokens : List Token) : Prop where
  /-- The pieces make up the text. -/
  whole : written xs = source.text.toList
  /-- Each piece is the longest that any pattern allows at the front of what is left, by
  the first of the rules that allow it. -/
  munched : ∀ front x back, xs = front ++ x :: back → Munched x (written back)
  /-- The tokens are the pieces that are no separators, in order, each with the offset and
  the length of its piece. -/
  kept : tokens.map Token.view =
    ((spots 0 xs).filter fun spot => !spot.2.rule.isSkipped).map fun spot => spot.2.view spot.1
  /-- Tokens hold characters and do not overlap. -/
  ordered : Ordered tokens
  /-- What lies outside of all tokens is white space. -/
  outside : ∀ k c, source.text.toList[k]? = some c →
    (∀ t ∈ tokens, ¬ (t.span.start.offset ≤ k ∧ k < t.span.start.offset + t.span.length)) →
      Text.isBlank c = true

/-- **Tokens are found by maximal munch, and nothing is lost.** -/
theorem tokens_by_maximal_munch (source : Source) (tokens : List Token)
    (h : tokenize source = .ok tokens) : ∃ xs, Lexed source xs tokens := by
  obtain ⟨xs, hcut, hwritten, htokens⟩ := tokenize_eq_ok_iff.1 h
  have hviews := views_of_tokensOf htokens
  refine ⟨xs, hwritten, cut_iff_munched.1 hcut, hviews, (ordered_of_cut hcut htokens).1, ?_⟩
  intro k c hc hout
  exact isBlank_of_outside hcut hviews (hwritten ▸ hc) hout

/-- A name that begins with a literal, operators that begin with one another, a literal,
a pair of line ends, and quotes within a string and a comment. -/
def rivals : Source := { text := "trueish==>true\r\n \"\\\"\"# \"" }

def rivalsPieces : List Piece :=
  [⟨.identifier, ['t', 'r', 'u', 'e', 'i', 's', 'h']⟩, ⟨.operator, ['=', '=']⟩,
   ⟨.operator, ['>']⟩, ⟨.boolean, ['t', 'r', 'u', 'e']⟩, ⟨.newline, ['\r', '\n']⟩,
   ⟨.whitespace, [' ']⟩, ⟨.string, ['"', '\\', '"', '"']⟩, ⟨.comment, ['#', ' ', '"']⟩]

def rivalsTokens : List Token :=
  [⟨.identifier "trueish", "trueish", inFirstLine 0 7⟩, ⟨.operator "==", "==", inFirstLine 7 2⟩,
   ⟨.operator ">", ">", inFirstLine 9 1⟩, ⟨.literal (.boolean true), "true", inFirstLine 10 4⟩,
   ⟨.literal (.text "\""), "\"\\\"\"", ⟨⟨17, 2, 2⟩, ⟨21, 2, 6⟩⟩⟩,
   ⟨.comment " \"", "# \"", ⟨⟨21, 2, 6⟩, ⟨24, 2, 9⟩⟩⟩]

theorem rivals_munched :
    tokenize rivals = .ok rivalsTokens ∧ ∃ xs, Lexed rivals xs rivalsTokens := by
  have htokens : tokenize rivals = .ok rivalsTokens :=
    tokenize_eq_ok_iff.2 ⟨rivalsPieces, by decide +kernel, by decide +kernel, rfl⟩
  exact ⟨htokens, tokens_by_maximal_munch _ _ htokens⟩

end Scriptlet
