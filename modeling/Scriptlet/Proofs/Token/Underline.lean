/-
# Underlining a place

A report shows the line in which its place begins, and carets under the part of the line
that belongs to the place.  `Diagnostic.Underlines` says so in terms of texts: the line is
what stands before the place, the first line of the text of the place and what stands behind
it; the caret line has blanks under the number of the line and under what stands before the
place, where only tabs are kept, and then one caret for each character of that first line,
and at least one.

How many carets there are is counted in two ways: from column to column where the place ends
in the same line, and up to the end of the line where it does not.  Both count the first
line of the text of the place (`Marked.underlined`), as long as neither end of the place is
within a pair of line ends, which the spans of tokens and of stray characters are not
(`Marked`).

A place that an embedding program makes up need not be marked, and then nothing is said of
what stands under what.
-/
import Scriptlet.Proofs.Token.Positions
import Scriptlet.Diagnostic

namespace Scriptlet

open Text (Apart)

/-! ## Marked spans -/

/-- The position is one of the text, and not within a pair of line ends. -/
def Spot (source : Source) (p : Position) : Prop :=
  ∃ x y, source.text.toList = x ++ y ∧ Apart x y ∧ p = Position.origin.advance x

/-- Both ends of the span are places in the text, none of them within a pair of line ends. -/
structure Marked (source : Source) (span : Span) : Prop where
  start : Spot source span.start
  stop : Spot source span.stop
  forward : span.start.offset ≤ span.stop.offset

section Marked

variable {source : Source} {span : Span} {p : Position} {x y z : List Char}

theorem Spot.marked (h : Spot source p) : Marked source (.point p) := ⟨h, h, Nat.le_refl _⟩

theorem marked_of_parts (htext : source.text.toList = x ++ (y ++ z)) (hx : Apart x (y ++ z))
    (hxy : Apart (x ++ y) z) :
    Marked source ⟨Position.origin.advance x, Position.origin.advance (x ++ y)⟩ := by
  refine ⟨⟨x, y ++ z, htext, hx, rfl⟩, ⟨x ++ y, z, by rw [htext, List.append_assoc], hxy, rfl⟩, ?_⟩
  simp only [offset_advance, List.length_append]
  omega

theorem Marked.parts (h : Marked source span) :
    ∃ x y z, source.text.toList = x ++ (y ++ z) ∧ Apart x (y ++ z) ∧ Apart y z ∧
      span = ⟨Position.origin.advance x, Position.origin.advance (x ++ y)⟩ := by
  obtain ⟨⟨x, u, htext, hx, hstart⟩, ⟨v, z, htext', hv, hstop⟩, hforward⟩ := h
  rw [hstart, hstop, offset_advance, offset_advance] at hforward
  have hprefix : x <+: v :=
    List.prefix_of_prefix_length_le ⟨u, htext.symm⟩ ⟨z, htext'.symm⟩ (by omega)
  obtain ⟨y, rfl⟩ := hprefix
  obtain rfl : u = y ++ z := by
    rw [htext, List.append_assoc] at htext'
    exact List.append_cancel_left htext'
  refine ⟨x, y, z, htext, hx, ?_, by rw [← hstart, ← hstop]⟩
  intro c hlast
  refine hv c ?_
  rw [List.getLast?_append, hlast]
  rfl

end Marked

/-! ## Underlined places -/

/-- What stands in front of the line of a location. -/
def Location.label (loc : Location) : String := "line " ++ toString loc.line ++ ": "

/-- The first line of the text of a location. -/
def Location.firstLine (loc : Location) : List Char := (Text.lines loc.text.toList).headD []

/-- In the line of the location, `before` stands before its column and `after` from there on,
which begins with the first line of the text of the location. -/
structure Location.Splits (loc : Location) (line : String) (before after : List Char) : Prop where
  number : ∃ i : Nat, loc.line = i + 1 ∧ loc.source.lines[i]? = some line
  parts : line.toList = before ++ after
  column : loc.column = before.length + 1
  shown : loc.firstLine <+: after

/-- The report is its header, the line of the location, and a line with a caret under each
character of the first line of the text of the location, and with at least one. -/
def Diagnostic.Underlines (d : Diagnostic) (loc : Location) : Prop :=
  ∃ line before after, loc.Splits line before after ∧
    d.format = d.stage.label ++ ": " ++ d.message ++ "\n" ++ loc.label ++ line ++ "\n" ++
      String.ofList (List.replicate loc.label.length ' ' ++
        before.map (fun c => if c = '\t' then '\t' else ' ') ++
        List.replicate (max 1 loc.firstLine.length) '^')

section Underlines

variable {source : Source} {span : Span} {d : Diagnostic}

/-- The columns of a text in one line, or the rest of its first line where there are more,
count the first line of the text. -/
theorem caretCount_of_lines {loc : Location} {before after last : List Char}
    {init : List (List Char)} (hline : loc.endLine = loc.line + init.length)
    (hcolumn : init = [] → loc.endColumn = loc.column + last.length)
    (hafter : ∀ first rest, init = first :: rest → after = first) :
    Diagnostic.caretCount loc (before ++ after) before =
      max 1 ((init ++ [last]).headD []).length := by
  unfold Diagnostic.caretCount
  cases init with
  | nil =>
      have hwidth : loc.endColumn - loc.column = (last.length : Int) := by
        have := hcolumn rfl
        omega
      have hsame : loc.endLine = loc.line := by simpa using hline
      rw [if_pos hsame, hwidth]
      simp only [List.nil_append, List.headD_cons]
      split <;> omega
  | cons first rest =>
      obtain rfl := hafter first rest rfl
      have hother : ¬ loc.endLine = loc.line := by
        simp only [List.length_cons] at hline
        omega
      rw [if_neg hother]
      simp only [List.length_append, List.cons_append, List.headD_cons]
      split <;> omega

theorem text_of_parts {x y z : List Char} (htext : source.text.toList = x ++ (y ++ z)) :
    (Location.ofSpan source
      ⟨Position.origin.advance x, Position.origin.advance (x ++ y)⟩).text = String.ofList y := by
  have hstart : (Position.origin.advance x).offset = x.length := by
    rw [offset_advance]
    exact Nat.zero_add _
  have hstop : (Position.origin.advance (x ++ y)).offset = (x ++ y).length := by
    rw [offset_advance]
    exact Nat.zero_add _
  have hwithin : (x ++ y).length ≤ source.text.toList.length := by
    simp only [htext, List.length_append]
    omega
  rw [text_ofSpan source]
  · rw [hstart, hstop, htext, ← List.append_assoc, List.take_left, List.drop_left]
  · simp only [hstart, hstop, List.length_append]
    exact Nat.le_add_right _ _
  · rwa [hstop]

/-- Where a marked span splits the line in which it begins, and how many carets it gets. -/
theorem Marked.splits (h : Marked source span) :
    ∃ line before after, (Location.ofSpan source span).Splits line before after ∧
      Diagnostic.caretCount (.ofSpan source span) line.toList before =
        max 1 (Location.ofSpan source span).firstLine.length := by
  obtain ⟨x, y, z, htext, hx, hy, rfl⟩ := h.parts
  obtain ⟨init, last, first, rest, hlinesx, hlinesyz, hlines⟩ := Text.lines_append hx
  obtain ⟨init', last', first', rest', hlinesy, -, hlinesyz'⟩ := Text.lines_append hy
  have hstart : Position.origin.advance x = ⟨x.length, init.length + 1, last.length + 1⟩ := by
    rw [Position.advance_of_lines hlinesx]
    simp [Position.origin, Nat.add_comm]
  have hstop : Position.origin.advance (x ++ y) =
      ⟨x.length + y.length, init.length + 1 + init'.length,
        (if init' = [] then last.length + 1 else 1) + last'.length⟩ := by
    rw [Position.advance_append _ hx.left, hstart, Position.advance_of_lines hlinesy]
  have hshown : (Location.ofSpan source
      ⟨Position.origin.advance x, Position.origin.advance (x ++ y)⟩).firstLine =
        (init' ++ [last']).headD [] := by
    rw [Location.firstLine, text_of_parts htext, String.toList_ofList, hlinesy]
  rw [hstart, hstop] at hshown ⊢
  have hfirst : init' ++ (last' ++ first') :: rest' = first :: rest := hlinesyz'.symm.trans hlinesyz
  refine ⟨String.ofList (last ++ first), last, first, ⟨⟨init.length, ?_, ?_⟩, ?_, ?_, ?_⟩, ?_⟩
  · simp [Location.ofSpan]
  · simp [Location.ofSpan, Source.lines, htext, hlines]
  · rw [String.toList_ofList]
  · simp [Location.ofSpan]
  · rw [hshown]
    cases init' with
    | nil => exact ⟨first', (List.cons.inj hfirst).1⟩
    | cons line more => exact (List.cons.inj hfirst).1 ▸ List.prefix_refl _
  · rw [hshown, String.toList_ofList]
    refine caretCount_of_lines ?_ ?_ ?_
    · simp [Location.ofSpan]
    · rintro rfl
      simp [Location.ofSpan]
    · rintro line more rfl
      exact (List.cons.inj hfirst).1.symm

/-- A report at a marked span underlines what the span holds. -/
theorem Marked.underlined (h : Marked source span) (hd : d.location = some (.ofSpan source span)) :
    d.Underlines (.ofSpan source span) := by
  obtain ⟨line, before, after, hsplits, hcount⟩ := h.splits
  refine ⟨line, before, after, hsplits, ?_⟩
  obtain ⟨⟨i, hnumber, hline⟩, hparts, hcolumn, -⟩ := hsplits
  have hshown : (Location.ofSpan source span).source.line (Location.ofSpan source span).line =
      line := by
    rw [Source.line, hnumber, if_neg (by omega), List.getD_eq_getElem?_getD,
      show ((i : Int) + 1).toNat - 1 = i by omega, hline]
    rfl
  have hlead : Diagnostic.lead (.ofSpan source span) line.toList = before := by
    rw [Diagnostic.lead, hcolumn, hparts]
    simp
  have hpadding : Diagnostic.padding before =
      before.map fun c => if c = '\t' then '\t' else ' ' := by
    simp [Diagnostic.padding]
  have hexcerpt : Diagnostic.excerpt (.ofSpan source span) =
      (Location.ofSpan source span).label ++ line ++ "\n" ++
        String.ofList (List.replicate (Location.ofSpan source span).label.length ' ' ++
          before.map (fun c => if c = '\t' then '\t' else ' ') ++
          List.replicate (max 1 (Location.ofSpan source span).firstLine.length) '^') := by
    unfold Diagnostic.excerpt
    dsimp only
    rw [hshown, hlead, hcount, hpadding, ← Location.label, String.length_toList,
      ← String.toList_inj]
    simp
  unfold Diagnostic.format
  rw [hd]
  dsimp only
  rw [hexcerpt]
  simp only [String.append_assoc]

end Underlines

/-! ## Tokens, ends and stray characters -/

section Scanning

variable {source : Source} {tokens : List Token}

theorem marked_token {t : Token} (h : tokenize source = .ok tokens) (ht : t ∈ tokens) :
    Marked source t.span := by
  obtain ⟨xs, hwritten, hlexemes, -, hmunched, -⟩ := segment_munched source.text.toList .origin
  obtain ⟨hunread, hxs⟩ := tokenize_eq_ok.1 h
  rw [hunread] at hwritten hmunched
  rw [List.append_nil] at hwritten
  rw [hlexemes] at hxs
  obtain ⟨x, y, z, htext, hbefore, hbehind, -, -, hspan⟩ :=
    parts_of_token hmunched hwritten hxs ht
  exact hspan ▸ marked_of_parts htext hbefore hbehind

theorem marked_end (source : Source) : Marked source (.point source.endPosition) := by
  refine Spot.marked ⟨source.text.toList, [], by rw [List.append_nil], ?_, source.endPosition_eq⟩
  rintro c - ⟨-, hhead⟩
  cases hhead

theorem marked_of_refused {d : Diagnostic} (h : tokenize source = .error (.refused d)) :
    ∃ span, d.location = some (.ofSpan source span) ∧ Marked source span := by
  obtain ⟨xs, hwritten, -, hstop, hmunched, hleft⟩ := segment_munched source.text.toList .origin
  obtain ⟨c, rest, hunread, rfl⟩ := stray_of_refused h
  rw [hunread] at hwritten hmunched hleft
  rw [hstop]
  obtain ⟨x, htext, hbefore, hbehind, hlocation⟩ :=
    parts_of_stray hmunched hwritten (hleft.resolve_left (List.cons_ne_nil c rest))
  exact ⟨_, hlocation, marked_of_parts htext hbefore hbehind⟩

end Scanning

end Scriptlet
