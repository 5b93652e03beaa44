/-
# Positions of tokens

Cutting a text counts lines and columns piece by piece, while the table of lines is made
of the whole text.  Both agree (`positions_by_line_table`): for every token, for the place
of a report of the scanner, and for the end of the source.

## Why they could differ

A pair of line ends counts once.  If a piece ended between the two halves of a pair, counting
piece by piece would count two lines where the table has one.  No piece does: the only piece
that may end with a carriage return is a line end, and that would have taken the line feed
behind it too (`Munched.apart`).  A string may hold carriage returns, but ends with its quote,
and a comment ends in front of the line end.

## What is shown

    spans      offset, line and column of both ends are those of the table (`Tabled`)
    lines      the line of a token, from its column on, begins with the first line of its
               lexeme (`LineShows`)
    the end    the position behind the last piece is the end of the source

A text that is refused has positions as well, up to the place where the scanner gave up, and
the report is at a position of the table.
-/
import Scriptlet.Proofs.Token.Lexemes
import Scriptlet.Proofs.Text.LineTable

namespace Scriptlet

open Text (Apart positionAt)

/-! ## Pieces and pairs of line ends -/

/-- Each of the pieces is the longest lexeme where it stands, with `tail` behind the last. -/
def MunchedTo (tail : List Char) (xs : List Piece) : Prop :=
  ∀ front x back, xs = front ++ x :: back → Munched x (written back ++ tail)

section Pieces

variable {x : Piece} {xs front back : List Piece} {tail : List Char}

theorem munchedTo_nil : MunchedTo tail [] := by
  intro front x back h
  simp at h

theorem munchedTo_cons (hx : Munched x (written xs ++ tail)) (h : MunchedTo tail xs) :
    MunchedTo tail (x :: xs) := by
  intro front y back heq
  cases front with
  | nil => cases heq; exact hx
  | cons z front => cases heq; exact h front y back rfl

theorem MunchedTo.right (front : List Piece) (h : MunchedTo tail (front ++ back)) :
    MunchedTo tail back := by
  intro first x rest heq
  exact h (front ++ first) x rest (by rw [heq, List.append_assoc])

theorem eq_newline_of_mayEnd (rule : Rule) (h : rule.pattern.mayEnd '\r' = true) :
    rule = .newline := by
  revert h
  cases rule <;> decide

theorem eq_newline_of_getLast? (hfits : x.chars ∈ x.rule.pattern.language)
    (hlast : x.chars.getLast? = some '\r') : x = ⟨.newline, ['\r']⟩ := by
  obtain ⟨rule, chars⟩ := x
  obtain rfl := eq_newline_of_mayEnd rule (Text.Pattern.mayEnd_of_mem hfits hlast)
  obtain ⟨word, hword, rfl⟩ := Text.Pattern.mem_words.1 hfits
  have honly : ∀ word ∈ Rule.lineEnds, word.toList.getLast? = some '\r' → word = "\r" := by
    decide
  rw [honly word hword hlast]
  rfl

theorem Munched.apart (h : Munched x tail) : Apart x.chars tail := by
  rintro c hlast ⟨rfl, hhead⟩
  obtain ⟨rest, rfl⟩ : ∃ rest, tail = '\n' :: rest := by
    cases tail with
    | nil => cases hhead
    | cons d rest => cases hhead; exact ⟨rest, rfl⟩
  obtain rfl := eq_newline_of_getLast? h.fits hlast
  -- the pair is a longer line end
  have hlong := h.longest .newline ['\r', '\n'] ⟨rest, rfl⟩ (by decide)
  exact absurd hlong (by decide)

theorem MunchedTo.apart (h : MunchedTo tail (front ++ back)) :
    Apart (written front) (written back ++ tail) := by
  induction front with
  | nil => exact Text.apart_nil _
  | cons x front ih =>
      rw [written_cons]
      cases front with
      | nil =>
          rw [show written [] = [] from rfl, List.append_nil]
          exact (h [] x back rfl).apart
      | cons y front =>
          have hy : y.chars ≠ [] := (h [x] y (front ++ back) rfl).filled
          intro c hlast
          refine ih (MunchedTo.right [x] h) c ?_
          rwa [List.getLast?_append_of_ne_nil _ (by simp [written_cons, hy])] at hlast

/-- Counting over pieces one by one is counting over the text that they make up. -/
theorem MunchedTo.behind_eq (h : MunchedTo tail (front ++ back)) (p : Position) :
    behind p front = p.advance (written front) := by
  induction front generalizing p with
  | nil => rfl
  | cons x front ih =>
      have hrest := MunchedTo.right [x] h
      have hapart : Apart x.chars (written front) := by
        have hx := (h [] x (front ++ back) rfl).apart
        rw [written_append, List.append_assoc] at hx
        exact hx.left
      rw [written_cons, Position.advance_append p hapart]
      exact ih hrest (p.advance x.chars)

end Pieces

/-! ## Cutting a text -/

section Cutting

variable {text : List Char} {p : Position}

/-- However far a text is cut, what was cut off are pieces in a row, and no lexeme begins
with what is left. -/
theorem segment_munched (text : List Char) (p : Position) :
    ∃ xs, written xs ++ (segment text p).unread = text ∧
      (segment text p).lexemes = placed p xs ∧ (segment text p).stop = behind p xs ∧
      MunchedTo (segment text p).unread xs ∧
      ((segment text p).unread = [] ∨ Rule.winner (segment text p).unread = none) := by
  fun_induction segment text p with
  | case1 p => exact ⟨[], rfl, rfl, rfl, munchedTo_nil, .inl rfl⟩
  | case2 p c rest hnone => exact ⟨[], rfl, rfl, rfl, munchedTo_nil, .inr hnone⟩
  | case3 p c rest rule n hwin chars stop tail ih =>
      obtain ⟨xs, hwritten, hlexemes, hstop, hmunched, hleft⟩ := ih
      have hlength : chars.length = n := List.length_take_of_le (Rule.winner_le hwin)
      have htext : chars ++ (written xs ++ tail.unread) = c :: rest := by
        rw [hwritten, List.take_append_drop]
      refine ⟨⟨rule, chars⟩ :: xs, ?_, ?_, hstop, munchedTo_cons ?_ hmunched, hleft⟩
      · rw [written_cons, List.append_assoc]
        exact htext
      · rw [placed, ← hlexemes]
        rfl
      · rw [munched_iff_winner, htext, hwin, hlength]

theorem segment_stuck {c : Char} {rest : List Char} (h : Rule.winner (c :: rest) = none)
    (p : Position) : segment (c :: rest) p = ⟨[], p, c :: rest⟩ := by
  rw [segment.eq_def]
  simp only
  split
  · rfl
  · next heq => rw [h] at heq; cases heq

theorem isLineEnd_of_no_winner {c : Char} {rest : List Char}
    (h : Rule.winner (c :: rest) = none) : Text.isLineEnd c = false := by
  have hleads := Rule.leads_winner (c :: rest)
  rw [h] at hleads
  have hreach : Rule.newlineLength (c :: rest) = 0 := hleads .newline (Rule.mem_all _)
  cases hc : Text.isLineEnd c with
  | false => rfl
  | true =>
      cases rest with
      | nil => rw [Rule.newlineLength_single, if_pos hc] at hreach; cases hreach
      | cons d rest =>
          rw [Rule.newlineLength_cons_cons] at hreach
          split at hreach
          · cases hreach
          · cases hreach

end Cutting

/-! ## Spans by the table of lines -/

/-- A span of the source with both ends where the table of lines has them. -/
structure Tabled (source : Source) (span : Span) : Prop where
  forward : span.start.offset ≤ span.stop.offset
  within : span.stop.offset ≤ source.text.toList.length
  start : span.start = positionAt source.text.toList span.start.offset
  stop : span.stop = positionAt source.text.toList span.stop.offset

/-- The line of the span, from its column on, begins with the first line of a text. -/
def LineShows (source : Source) (span : Span) (text : List Char) : Prop :=
  (Text.lines text).headD [] <+: (source.line span.start.line).toList.drop (span.start.column - 1)

section Spans

variable {source : Source} {x y z : List Char}

/-- A span between two places that are not within a pair of line ends. -/
theorem tabled_of_advance (htext : source.text.toList = x ++ (y ++ z)) (hx : Apart x (y ++ z))
    (hxy : Apart (x ++ y) z) :
    Tabled source ⟨Position.origin.advance x, Position.origin.advance (x ++ y)⟩ := by
  have hstart := Position.advance_origin hx
  have hstop := Position.advance_origin hxy
  rw [← htext] at hstart
  rw [List.append_assoc, ← htext] at hstop
  have hoffset : (Position.origin.advance x).offset = x.length := by rw [hstart]; rfl
  have hoffset' : (Position.origin.advance (x ++ y)).offset = (x ++ y).length := by
    rw [hstop]
    rfl
  refine ⟨?_, ?_, ?_, ?_⟩
  · simp only [hoffset, hoffset', List.length_append]
    omega
  · simp only [hoffset', htext, List.length_append]
    omega
  · simp only [hoffset]
    exact hstart
  · simp only [hoffset']
    exact hstop

theorem lineShows_of_advance {span : Span} (htext : source.text.toList = x ++ (y ++ z))
    (hx : Apart x (y ++ z)) (hy : Apart y z) (hspan : span.start = Position.origin.advance x) :
    LineShows source span y := by
  obtain ⟨line, hline, hdrop⟩ := Position.line_behind hx
  obtain ⟨init, last, first, rest, hlines, -, hboth⟩ := Text.lines_append hy
  have hpos : 1 ≤ (Position.origin.advance x).line := by
    rw [Position.advance_eq]
    exact Nat.le_add_right 1 _
  have hsource : source.line span.start.line = String.ofList line := by
    have hindex : (span.start.line : Int).toNat - 1 = (Position.origin.advance x).line - 1 := by
      rw [hspan, Int.toNat_natCast]
    rw [Source.line, if_neg (by rw [hspan]; omega), Source.lines, htext, List.getD_eq_getElem?_getD,
      hindex, List.getElem?_map, hline]
    rfl
  unfold LineShows
  rw [hsource, hspan, String.toList_ofList, hdrop, hboth, hlines]
  cases init with
  | nil => exact List.prefix_append last first
  | cons line init => exact List.prefix_refl line

end Spans

/-! ## Tokens and reports -/

theorem lexeme_of_token? {lexeme : Lexeme} {t : Token} (h : lexeme.token? = .ok (some t)) :
    t.lexeme = String.ofList lexeme.chars := by
  unfold Lexeme.token? at h
  cases hcontent : lexeme.content with
  | error fault => rw [hcontent] at h; cases h
  | ok content =>
      rw [hcontent] at h
      cases content with
      | none => cases h
      | some content => cases h; rfl

section Reports

variable {source : Source} {tokens : List Token}

/-- The text around a token: its lexeme has its span, and no pair of line ends is cut. -/
theorem parts_of_token {xs : List Piece} {t : Token} (hmunched : MunchedTo [] xs)
    (hwritten : written xs = source.text.toList)
    (htokens : tokensOf (placed .origin xs) = .ok tokens) (ht : t ∈ tokens) :
    ∃ x y z, source.text.toList = x ++ (y ++ z) ∧ Apart x (y ++ z) ∧ Apart (x ++ y) z ∧
      Apart y z ∧ t.lexeme.toList = y ∧
      t.span = ⟨Position.origin.advance x, Position.origin.advance (x ++ y)⟩ := by
  obtain ⟨us, ws, rfl⟩ := List.append_of_mem ht
  obtain ⟨front, x, back, rfl, -, hx, -⟩ := exists_piece_of_token htokens
  have htext : source.text.toList = written front ++ (x.chars ++ written back) := by
    rw [← hwritten, written_append, written_cons]
  have hthrough : MunchedTo [] ((front ++ [x]) ++ back) := by
    rwa [List.append_assoc]
  have hwrittenx : written (front ++ [x]) = written front ++ x.chars := by
    rw [written_append, written_cons]
    simp [written]
  have hbefore : Apart (written front) (x.chars ++ written back) := by
    have h := hmunched.apart
    rwa [written_cons, List.append_nil] at h
  have hbehind : Apart (written front ++ x.chars) (written back) := by
    have h := hthrough.apart
    rwa [List.append_nil, hwrittenx] at h
  have hwithin : Apart x.chars (written back) := by
    have h := (hmunched front x back rfl).apart
    rwa [List.append_nil] at h
  have hstart : behind .origin front = Position.origin.advance (written front) :=
    hmunched.behind_eq .origin
  have hstop : behind .origin (front ++ [x]) =
      Position.origin.advance (written front ++ x.chars) := by
    rw [hthrough.behind_eq, hwrittenx]
  have hspan : t.span = ⟨Position.origin.advance (written front),
      Position.origin.advance (written front ++ x.chars)⟩ := by
    rw [span_of_token? hx, ← hstart, ← hstop, behind_append]
    rfl
  have hlexeme : t.lexeme.toList = x.chars := by
    rw [lexeme_of_token? hx, String.toList_ofList]
    rfl
  exact ⟨_, _, _, htext, hbefore, hbehind, hwithin, hlexeme, hspan⟩

/-- A token stands where the table of lines has it, and its line shows it. -/
theorem tabled_of_token {xs : List Piece} {t : Token} (hmunched : MunchedTo [] xs)
    (hwritten : written xs = source.text.toList)
    (htokens : tokensOf (placed .origin xs) = .ok tokens) (ht : t ∈ tokens) :
    Tabled source t.span ∧ LineShows source t.span t.lexeme.toList := by
  obtain ⟨x, y, z, htext, hbefore, hbehind, hwithin, hlexeme, hspan⟩ :=
    parts_of_token hmunched hwritten htokens ht
  rw [hlexeme]
  exact ⟨hspan ▸ tabled_of_advance htext hbefore hbehind,
    lineShows_of_advance htext hbefore hwithin (by rw [hspan])⟩

/-- The text around a character that no lexeme begins with: the character has the span that
is reported, and no pair of line ends is cut. -/
theorem parts_of_stray {xs : List Piece} {c : Char} {rest : List Char}
    (hmunched : MunchedTo (c :: rest) xs) (hwritten : written xs ++ c :: rest = source.text.toList)
    (hnone : Rule.winner (c :: rest) = none) :
    ∃ x, source.text.toList = x ++ ([c] ++ rest) ∧ Apart x ([c] ++ rest) ∧
      Apart (x ++ [c]) rest ∧
      (strayCharacter source (behind .origin xs) c).location =
        some (.ofSpan source
          ⟨Position.origin.advance x, Position.origin.advance (x ++ [c])⟩) := by
  have hmid := isLineEnd_of_no_winner hnone
  have hwhole : MunchedTo (c :: rest) (xs ++ []) := by rwa [List.append_nil]
  have hbefore : Apart (written xs) ([c] ++ rest) := hwhole.apart
  have hbehind : Apart (written xs ++ [c]) rest := by
    intro d hlast
    obtain rfl : c = d := by simpa using hlast
    exact Text.not_pairs_of_other hmid
  have hlines : Text.lines [c] = [] ++ [[c]] := by
    rw [Text.lines_cons (Text.not_pairs_of_other hmid), if_neg (by simp [hmid])]
    rfl
  have hstop (p : Position) : p.advance [c] = ⟨p.offset + 1, p.line, p.column + 1⟩ := by
    rw [Position.advance_of_lines hlines]
    rfl
  have hstart : behind .origin xs = Position.origin.advance (written xs) :=
    hwhole.behind_eq .origin
  refine ⟨written xs, hwritten.symm, hbefore, hbehind, ?_⟩
  rw [Position.advance_append _ hbefore.left, hstop, ← hstart]
  rfl

/-- A character that no lexeme begins with is reported where the table of lines has it. -/
theorem tabled_of_stray {xs : List Piece} {c : Char} {rest : List Char}
    (hmunched : MunchedTo (c :: rest) xs) (hwritten : written xs ++ c :: rest = source.text.toList)
    (hnone : Rule.winner (c :: rest) = none) :
    ∃ span, (strayCharacter source (behind .origin xs) c).location =
        some (.ofSpan source span) ∧ Tabled source span := by
  obtain ⟨x, htext, hbefore, hbehind, hlocation⟩ := parts_of_stray hmunched hwritten hnone
  exact ⟨_, hlocation, tabled_of_advance htext hbefore hbehind⟩

/-- A source is refused for the character at which the cutting stopped. -/
theorem stray_of_refused {diagnostic : Diagnostic}
    (h : tokenize source = .error (.refused diagnostic)) :
    ∃ c rest, (segment source.text.toList .origin).unread = c :: rest ∧
      diagnostic = strayCharacter source (segment source.text.toList .origin).stop c := by
  simp only [tokenize] at h
  split at h
  · cases h
  · cases h
  · next c rest _ hunread => cases h; exact ⟨c, rest, hunread, rfl⟩

end Reports

/-- **Positions counted piece by piece are those of the table of lines.** -/
theorem positions_by_line_table (source : Source) :
    source.lines = (0 :: Text.lineStarts 0 source.text.toList).map (fun start =>
        String.ofList ((source.text.toList.drop start).takeWhile fun c => !Text.isLineEnd c)) ∧
      (∀ tokens, tokenize source = .ok tokens →
        ∀ t ∈ tokens, Tabled source t.span ∧ LineShows source t.span t.lexeme.toList) ∧
      (∀ diagnostic, tokenize source = .error (.refused diagnostic) →
        ∃ span, diagnostic.location = some (.ofSpan source span) ∧ Tabled source span) ∧
      ((segment source.text.toList .origin).unread = [] →
        (segment source.text.toList .origin).stop =
            positionAt source.text.toList source.text.toList.length ∧
          Location.atEnd source =
            .ofSpan source (.point (segment source.text.toList .origin).stop)) := by
  obtain ⟨xs, hwritten, hlexemes, hstop, hmunched, hleft⟩ :=
    segment_munched source.text.toList .origin
  refine ⟨?_, ?_, ?_, ?_⟩
  · rw [Source.lines, Text.lines_eq_map source.text.toList 0, List.map_map]
    rfl
  · intro tokens h t ht
    obtain ⟨hunread, hxs⟩ := tokenize_eq_ok.1 h
    rw [hunread] at hwritten hmunched
    rw [List.append_nil] at hwritten
    rw [hlexemes] at hxs
    exact tabled_of_token hmunched hwritten hxs ht
  · intro diagnostic h
    obtain ⟨c, rest, hunread, rfl⟩ := stray_of_refused h
    rw [hunread] at hwritten hmunched hleft
    rw [hstop]
    exact tabled_of_stray hmunched hwritten (hleft.resolve_left (List.cons_ne_nil c rest))
  · intro hunread
    rw [hunread] at hwritten hmunched
    rw [List.append_nil] at hwritten
    have hall : MunchedTo [] (xs ++ []) := by rwa [List.append_nil]
    have hend : (segment source.text.toList .origin).stop =
        Position.origin.advance source.text.toList := by
      rw [hstop, hall.behind_eq, hwritten]
    have hlast : Apart source.text.toList [] := by
      rintro c - ⟨-, hhead⟩
      cases hhead
    have htable := Position.advance_origin hlast
    rw [List.append_nil] at htable
    exact ⟨hend.trans htable, by rw [hend, Location.atEnd, Source.endPosition_eq]⟩

/-- A string over several lines with an escaped carriage return, a comment in front of a
carriage return, and pairs of line ends. -/
def winding : Source := { text := "a \"x\\\r\r\ny\"#k\rb\r\n;" }

def windingPieces : List Piece :=
  [⟨.identifier, ['a']⟩, ⟨.whitespace, [' ']⟩,
   ⟨.string, ['"', 'x', '\\', '\r', '\r', '\n', 'y', '"']⟩, ⟨.comment, ['#', 'k']⟩,
   ⟨.newline, ['\r']⟩, ⟨.identifier, ['b']⟩, ⟨.newline, ['\r', '\n']⟩, ⟨.operator, [';']⟩]

def windingTokens : List Token :=
  [⟨.identifier "a", "a", ⟨⟨0, 1, 1⟩, ⟨1, 1, 2⟩⟩⟩,
   ⟨.literal (.text "x\r\r\ny"), "\"x\\\r\r\ny\"", ⟨⟨2, 1, 3⟩, ⟨10, 3, 3⟩⟩⟩,
   ⟨.comment "k", "#k", ⟨⟨10, 3, 3⟩, ⟨12, 3, 5⟩⟩⟩,
   ⟨.identifier "b", "b", ⟨⟨13, 4, 1⟩, ⟨14, 4, 2⟩⟩⟩,
   ⟨.operator ";", ";", ⟨⟨16, 5, 1⟩, ⟨17, 5, 2⟩⟩⟩]

/-- A text that ends within a string, in its second line. -/
def openQuote : Source := { text := "\r\n\"" }

theorem winding_by_line_table :
    tokenize winding = .ok windingTokens ∧
      (∀ t ∈ windingTokens, Tabled winding t.span ∧ LineShows winding t.span t.lexeme.toList) ∧
      (∃ span, (strayCharacter openQuote ⟨2, 2, 1⟩ '"').location =
          some (.ofSpan openQuote span) ∧ Tabled openQuote span) ∧
      Location.atEnd winding = .ofSpan winding (.point ⟨17, 5, 2⟩) := by
  have hcut : Cut windingPieces := by decide +kernel
  have htokens : tokenize winding = .ok windingTokens :=
    tokenize_eq_ok_iff.2 ⟨windingPieces, hcut, by decide +kernel, rfl⟩
  have hcuts : segment winding.text.toList .origin =
      ⟨placed .origin windingPieces, ⟨17, 5, 2⟩, []⟩ :=
    segment_of_cut hcut .origin
  have hstray : segment openQuote.text.toList .origin =
      ⟨placed .origin [⟨.newline, ['\r', '\n']⟩], ⟨2, 2, 1⟩, ['"']⟩ := by
    have hline : Rule.winner ['\r', '\n', '"'] = some (.newline, 2) := by decide +kernel
    have hnone : Rule.winner ['"'] = none := by decide +kernel
    have hadvance : Position.origin.advance ['\r', '\n'] = ⟨2, 2, 1⟩ := rfl
    rw [show openQuote.text.toList = ['\r', '\n', '"'] from rfl, segment_of_winner hline]
    simp only [List.take, List.drop, hadvance, segment_stuck hnone]
    rfl
  have hrefused : tokenize openQuote =
      .error (.refused (strayCharacter openQuote ⟨2, 2, 1⟩ '"')) := by
    rw [tokenize, hstray]
    rfl
  obtain ⟨-, hat, -, hend⟩ := positions_by_line_table winding
  obtain ⟨-, -, hreport, -⟩ := positions_by_line_table openQuote
  rw [hcuts] at hend
  exact ⟨htokens, hat _ htokens, hreport _ hrefused, (hend rfl).2⟩

end Scriptlet
