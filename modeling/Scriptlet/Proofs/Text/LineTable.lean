/-
# The table of lines

The lines of a text begin at its front and behind each of its line ends, where a pair of
line ends counts once (`lineStarts`).  By this table an offset has a line and a column
(`positionAt`): how many lines begin before it or there, and how far it is from the
beginning of the last of them.

Counting forward over one part of a text after the other (`Position.advance`) gives the
same, as long as no part ends between the two halves of a pair (`Apart`): the line ends
of a text put together from two parts are those of the parts (`advance_append`).  In between
the two halves counting and table differ: for the table no line begins there, while a part
that ends there has counted a line end.

The table is what reports are checked against, since it is how a reader counts: it knows
nothing of tokens.
-/
import Scriptlet.Source.Basic

namespace Scriptlet

namespace Text

/-- The character and the one behind it are a pair of line ends. -/
def Pairs (c : Char) (rest : List Char) : Prop := c = '\r' ∧ rest.head? = some '\n'

/-- No pair of line ends has its halves in both texts. -/
def Apart (x y : List Char) : Prop := ∀ c, x.getLast? = some c → ¬ Pairs c y

/-- The offsets behind the line ends of a text that begins at offset `n`. -/
def lineStarts : Nat → List Char → List Nat
  | _, [] => []
  | n, '\r' :: '\n' :: rest => (n + 2) :: lineStarts (n + 2) rest
  | n, c :: rest =>
    if isLineEnd c then (n + 1) :: lineStarts (n + 1) rest else lineStarts (n + 1) rest

/-- The position of an offset, by the lines of the whole text. -/
def positionAt (text : List Char) (offset : Nat) : Position :=
  let begun := (lineStarts 0 text).filter (· ≤ offset)
  ⟨offset, 1 + begun.length, 1 + (offset - begun.getLastD 0)⟩

/-! ## One line end after the other -/

section Steps

variable {c : Char} {rest x y : List Char}

/-- A text is read line end by line end: a pair, another line end, or a character of the
line. -/
theorem lines_induction {P : List Char → Prop} (nil : P [])
    (pair : ∀ rest, P rest → P ('\r' :: '\n' :: rest))
    (single : ∀ c rest, isLineEnd c = true → ¬ Pairs c rest → P rest → P (c :: rest))
    (other : ∀ c rest, isLineEnd c = false → P rest → P (c :: rest)) : ∀ text, P text
  | [] => nil
  | [c] => by
      cases hc : isLineEnd c with
      | true => exact single c [] hc (fun h => by cases h.2) nil
      | false => exact other c [] hc nil
  | c :: d :: rest => by
      have hnext := lines_induction nil pair single other (d :: rest)
      by_cases hpair : c = '\r' ∧ d = '\n'
      · obtain ⟨rfl, rfl⟩ := hpair
        exact pair rest (lines_induction nil pair single other rest)
      · cases hc : isLineEnd c with
        | true =>
            refine single c (d :: rest) hc (fun h => hpair ⟨h.1, ?_⟩) hnext
            exact Option.some.inj h.2
        | false => exact other c (d :: rest) hc hnext

theorem lines_pair (rest : List Char) : lines ('\r' :: '\n' :: rest) = [] :: lines rest := by
  rw [lines]

theorem not_pairs_of_other (hc : isLineEnd c = false) : ¬ Pairs c rest := by
  rintro ⟨rfl, -⟩
  cases hc

theorem lines_cons (h : ¬ Pairs c rest) :
    lines (c :: rest) =
      if isLineEnd c then [] :: lines rest else (lines rest).modifyHead (c :: ·) := by
  rw [lines.eq_3 c rest fun tail hc hrest => h ⟨hc, by rw [hrest]; rfl⟩]
  split
  · rfl
  · cases hlines : lines rest with
    | nil => exact absurd hlines (lines_ne_nil rest)
    | cons line more => rfl

theorem lineStarts_pair (n : Nat) (rest : List Char) :
    lineStarts n ('\r' :: '\n' :: rest) = (n + 2) :: lineStarts (n + 2) rest := by
  rw [lineStarts]

theorem lineStarts_cons (h : ¬ Pairs c rest) (n : Nat) :
    lineStarts n (c :: rest) =
      if isLineEnd c then (n + 1) :: lineStarts (n + 1) rest else lineStarts (n + 1) rest :=
  lineStarts.eq_3 n c rest fun tail hc hrest => h ⟨hc, by rw [hrest]; rfl⟩

theorem apart_nil (y : List Char) : Apart [] y := fun _ h => by cases h

theorem Apart.tail (h : Apart (c :: x) y) : Apart x y := by
  intro d hd
  cases x with
  | nil => cases hd
  | cons e x => exact h d (by rw [List.getLast?_cons_cons]; exact hd)

theorem Apart.left {z : List Char} (h : Apart x (y ++ z)) : Apart x y := by
  rintro c hlast ⟨hc, hhead⟩
  refine h c hlast ⟨hc, ?_⟩
  rw [List.head?_append, hhead]
  rfl

/-- Behind a character that is not half of a pair, no pair begins with it in a longer text. -/
theorem Apart.not_pairs (h : Apart (c :: x) y) (hc : ¬ Pairs c x) : ¬ Pairs c (x ++ y) := by
  cases x with
  | nil => exact h c rfl
  | cons d x => exact hc

/-- Two texts are read on like one in which they stand in a row. -/
theorem apart_induction {P : List Char → Prop} (nil : P [])
    (pair : ∀ x, P x → P ('\r' :: '\n' :: x))
    (single : ∀ c x, isLineEnd c = true → ¬ Pairs c x → ¬ Pairs c (x ++ y) → P x → P (c :: x))
    (other : ∀ c x, isLineEnd c = false → P x → P (c :: x)) (h : Apart x y) : P x := by
  revert h
  refine lines_induction (P := fun x => Apart x y → P x) (fun _ => nil) ?_ ?_ ?_ x
  · intro x ih h
    exact pair x (ih h.tail.tail)
  · intro c x hc hx ih h
    exact single c x hc hx (h.not_pairs hx) (ih h.tail)
  · intro c x hc ih h
    exact other c x hc (ih h.tail)

end Steps

/-! ## Lines and where they begin -/

section Table

variable {x y : List Char}

theorem mem_lineStarts (x : List Char) :
    ∀ n, ∀ start ∈ lineStarts n x, n < start ∧ start ≤ n + x.length := by
  induction x using lines_induction with
  | nil => exact nofun
  | pair rest ih =>
      intro n start hstart
      rw [lineStarts_pair] at hstart
      simp only [List.length_cons]
      rcases List.mem_cons.1 hstart with rfl | hstart
      · omega
      · have := ih (n + 2) start hstart
        omega
  | single c rest hc hpair ih =>
      intro n start hstart
      rw [lineStarts_cons hpair, if_pos hc] at hstart
      simp only [List.length_cons]
      rcases List.mem_cons.1 hstart with rfl | hstart
      · omega
      · have := ih (n + 1) start hstart
        omega
  | other c rest hc ih =>
      intro n start hstart
      rw [lineStarts_cons (not_pairs_of_other hc), if_neg (by simp [hc])] at hstart
      have := ih (n + 1) start hstart
      simp only [List.length_cons]
      omega

/-- Each line reaches from where it begins to the next line end. -/
theorem lines_eq_map (x : List Char) :
    ∀ n, lines x = (n :: lineStarts n x).map fun start =>
      (x.drop (start - n)).takeWhile fun c => !isLineEnd c := by
  -- behind `k` characters lines begin, and go on, as in what is left of the text
  have hbehind : ∀ (front rest : List Char) (n : Nat),
      (lineStarts (n + front.length) rest).map (fun start =>
          (rest.drop (start - (n + front.length))).takeWhile fun c => !isLineEnd c) =
        (lineStarts (n + front.length) rest).map fun start =>
          ((front ++ rest).drop (start - n)).takeWhile fun c => !isLineEnd c := by
    intro front rest n
    refine List.map_congr_left fun start hstart => ?_
    have hlt := (mem_lineStarts rest (n + front.length) start hstart).1
    rw [show start - n = front.length + (start - (n + front.length)) by omega,
      List.drop_length_add_append]
  induction x using lines_induction with
  | nil => intro n; simp [lines, lineStarts]
  | pair rest ih =>
      intro n
      have htail := hbehind ['\r', '\n'] rest n
      rw [lines_pair, lineStarts_pair, ih (n + 2)]
      simpa [isLineEnd] using htail
  | single c rest hc hpair ih =>
      intro n
      have htail := hbehind [c] rest n
      rw [lines_cons hpair, lineStarts_cons hpair, if_pos hc, if_pos hc, ih (n + 1)]
      simpa [hc] using htail
  | other c rest hc ih =>
      intro n
      have htail := hbehind [c] rest n
      rw [lines_cons (not_pairs_of_other hc), lineStarts_cons (not_pairs_of_other hc),
        if_neg (by simp [hc]), if_neg (by simp [hc]), ih (n + 1)]
      simpa [hc] using htail

/-- There is a line more than there are line ends, and the last line reaches from where it
begins to the end. -/
theorem exists_last_line (x : List Char) :
    ∀ n, ∃ init last, lines x = init ++ [last] ∧ init.length = (lineStarts n x).length ∧
      (lineStarts n x).getLastD n + last.length = n + x.length := by
  induction x using lines_induction with
  | nil => exact fun n => ⟨[], [], rfl, rfl, rfl⟩
  | pair rest ih =>
      intro n
      obtain ⟨init, last, hlines, hinit, hlast⟩ := ih (n + 2)
      refine ⟨[] :: init, last, by rw [lines_pair, hlines]; rfl, ?_, ?_⟩
      · rw [lineStarts_pair, List.length_cons, List.length_cons, hinit]
      · rw [lineStarts_pair, List.getLastD_cons, hlast]
        simp only [List.length_cons]
        omega
  | single c rest hc hpair ih =>
      intro n
      obtain ⟨init, last, hlines, hinit, hlast⟩ := ih (n + 1)
      refine ⟨[] :: init, last, by rw [lines_cons hpair, if_pos hc, hlines]; rfl, ?_, ?_⟩
      · rw [lineStarts_cons hpair, if_pos hc, List.length_cons, List.length_cons, hinit]
      · rw [lineStarts_cons hpair, if_pos hc, List.getLastD_cons, hlast]
        simp only [List.length_cons]
        omega
  | other c rest hc ih =>
      intro n
      obtain ⟨init, last, hlines, hinit, hlast⟩ := ih (n + 1)
      rw [lines_cons (not_pairs_of_other hc), lineStarts_cons (not_pairs_of_other hc),
        if_neg (by simp [hc]), if_neg (by simp [hc]), hlines]
      cases init with
      | nil =>
          have hnone : lineStarts (n + 1) rest = [] := List.length_eq_zero_iff.1 hinit.symm
          rw [hnone] at hlast ⊢
          refine ⟨[], c :: last, rfl, rfl, ?_⟩
          simp only [List.getLastD_nil, List.length_cons] at hlast ⊢
          omega
      | cons first init =>
          refine ⟨(c :: first) :: init, last, rfl, hinit, ?_⟩
          cases hstarts : lineStarts (n + 1) rest with
          | nil => rw [hstarts] at hinit; cases hinit
          | cons start starts =>
              rw [hstarts, List.getLastD_cons] at hlast
              rw [List.getLastD_cons, hlast, List.length_cons]
              omega

end Table

/-! ## Parts of a text -/

section Parts

variable {x y : List Char}

theorem lineStarts_append (h : Apart x y) :
    ∀ n, lineStarts n (x ++ y) = lineStarts n x ++ lineStarts (n + x.length) y := by
  refine apart_induction (P := fun x =>
    ∀ n, lineStarts n (x ++ y) = lineStarts n x ++ lineStarts (n + x.length) y) ?_ ?_ ?_ ?_ h
  · exact fun n => rfl
  · intro x ih n
    rw [List.cons_append, List.cons_append, lineStarts_pair, lineStarts_pair, ih, List.cons_append]
    simp only [List.length_cons, Nat.add_assoc, Nat.add_comm 2]
  · intro c x hc hpair hpair' ih n
    rw [List.cons_append, lineStarts_cons hpair, lineStarts_cons hpair', if_pos hc, if_pos hc, ih,
      List.cons_append]
    simp only [List.length_cons, Nat.add_assoc, Nat.add_comm 1]
  · intro c x hc ih n
    rw [List.cons_append, lineStarts_cons (not_pairs_of_other hc),
      lineStarts_cons (not_pairs_of_other hc), if_neg (by simp [hc]), if_neg (by simp [hc]), ih]
    simp only [List.length_cons, Nat.add_assoc, Nat.add_comm 1]

/-- The last line of the one part and the first of the other are one line. -/
theorem lines_append (h : Apart x y) :
    ∃ init last first rest, lines x = init ++ [last] ∧ lines y = first :: rest ∧
      lines (x ++ y) = init ++ (last ++ first) :: rest := by
  obtain ⟨first, rest, hy⟩ := List.exists_cons_of_ne_nil (lines_ne_nil y)
  suffices hinit : ∃ init last, lines x = init ++ [last] ∧
      lines (x ++ y) = init ++ (last ++ first) :: rest by
    obtain ⟨init, last, hx, hxy⟩ := hinit
    exact ⟨init, last, first, rest, hx, hy, hxy⟩
  refine apart_induction (P := fun x => ∃ init last, lines x = init ++ [last] ∧
    lines (x ++ y) = init ++ (last ++ first) :: rest) ?_ ?_ ?_ ?_ h
  · exact ⟨[], [], rfl, hy⟩
  · rintro x ⟨init, last, hx, hxy⟩
    refine ⟨[] :: init, last, ?_, ?_⟩
    · rw [lines_pair, hx]
      rfl
    · rw [List.cons_append, List.cons_append, lines_pair, hxy]
      rfl
  · rintro c x hc hpair hpair' ⟨init, last, hx, hxy⟩
    refine ⟨[] :: init, last, ?_, ?_⟩
    · rw [lines_cons hpair, if_pos hc, hx]
      rfl
    · rw [List.cons_append, lines_cons hpair', if_pos hc, hxy]
      rfl
  · rintro c x hc ⟨init, last, hx, hxy⟩
    rw [List.cons_append, lines_cons (not_pairs_of_other hc), lines_cons (not_pairs_of_other hc),
      if_neg (by simp [hc]), if_neg (by simp [hc]), hx, hxy]
    cases init with
    | nil => exact ⟨[], c :: last, rfl, rfl⟩
    | cons line init => exact ⟨(c :: line) :: init, last, rfl, rfl⟩

end Parts

end Text

/-! ## Positions -/

namespace Position

variable {x y : List Char}

theorem advance_of_lines {init : List (List Char)} {last : List Char}
    (h : Text.lines x = init ++ [last]) (p : Position) :
    p.advance x =
      ⟨p.offset + x.length, p.line + init.length,
        (if init = [] then p.column else 1) + last.length⟩ := by
  unfold advance
  rw [h]
  cases init with
  | nil => rfl
  | cons first init =>
      -- behind the first line stands at least the last one
      obtain ⟨next, more, hmore⟩ : ∃ next more, init ++ [last] = next :: more :=
        List.exists_cons_of_ne_nil (by simp)
      have hlast : (init ++ [last]).getLastD [] = last := by simp
      rw [List.cons_append, hmore]
      simp only [← hmore, hlast, List.length_cons, List.length_append, List.length_nil]
      simp [Nat.add_comm]

/-- Lines and columns behind a text, by where its lines begin. -/
theorem advance_eq (p : Position) (x : List Char) :
    p.advance x =
      ⟨p.offset + x.length, p.line + (Text.lineStarts p.offset x).length,
        if Text.lineStarts p.offset x = [] then p.column + x.length
        else 1 + (p.offset + x.length - (Text.lineStarts p.offset x).getLastD p.offset)⟩ := by
  obtain ⟨init, last, hlines, hinit, hlast⟩ := Text.exists_last_line x p.offset
  have hnil : init = [] ↔ Text.lineStarts p.offset x = [] := by
    rw [← List.length_eq_zero_iff, hinit, List.length_eq_zero_iff]
  rw [advance_of_lines hlines, hinit]
  by_cases hnone : Text.lineStarts p.offset x = []
  · rw [hnone] at hlast
    rw [if_pos (hnil.2 hnone), if_pos hnone, Nat.add_left_cancel hlast]
  · rw [if_neg (mt hnil.1 hnone), if_neg hnone]
    congr 2
    omega

/-- Counting over two parts one after the other is counting over both. -/
theorem advance_append (p : Position) (h : Text.Apart x y) :
    p.advance (x ++ y) = (p.advance x).advance y := by
  rw [advance_eq p, advance_eq (p.advance x), advance_eq p x]
  simp only [Text.lineStarts_append h, List.length_append]
  have hbound := Text.mem_lineStarts x p.offset
  generalize Text.lineStarts p.offset x = front at hbound
  generalize Text.lineStarts (p.offset + x.length) y = back
  rcases List.eq_nil_or_concat back with rfl | ⟨starts, start, rfl⟩
  · rcases List.eq_nil_or_concat front with rfl | ⟨starts, start, rfl⟩
    · simp [Nat.add_assoc]
    · have hstart := hbound start (by simp)
      simp
      omega
  · simp [Nat.add_assoc]

/-- Counting forward over the front of a text finds the position that the whole text has
there. -/
theorem advance_origin (h : Text.Apart x y) :
    origin.advance x = Text.positionAt (x ++ y) x.length := by
  have hbegun : (Text.lineStarts 0 (x ++ y)).filter (· ≤ x.length) = Text.lineStarts 0 x := by
    rw [Text.lineStarts_append h, List.filter_append]
    have hfront : (Text.lineStarts 0 x).filter (· ≤ x.length) = Text.lineStarts 0 x := by
      refine List.filter_eq_self.2 fun start hstart => ?_
      have := Text.mem_lineStarts x 0 start hstart
      exact decide_eq_true (by omega)
    have hback : (Text.lineStarts (0 + x.length) y).filter (· ≤ x.length) = [] := by
      refine List.filter_eq_nil_iff.2 fun start hstart => ?_
      have := Text.mem_lineStarts y (0 + x.length) start hstart
      simp only [decide_eq_true_eq]
      omega
    rw [hfront, hback, List.append_nil]
  rw [advance_eq, Text.positionAt, hbegun]
  by_cases hnone : Text.lineStarts 0 x = []
  · simp [origin, hnone]
  · simp [origin, hnone]

/-- The line of a position, from its column on, begins with what stands behind it. -/
theorem line_behind (h : Text.Apart x y) :
    ∃ line, (Text.lines (x ++ y))[(origin.advance x).line - 1]? = some line ∧
      line.drop ((origin.advance x).column - 1) = (Text.lines y).headD [] := by
  obtain ⟨init, last, first, rest, hx, hy, hxy⟩ := Text.lines_append h
  have hcolumn : (origin.advance x).column - 1 = last.length := by
    rw [advance_of_lines hx]
    simp [origin]
  have hline : (origin.advance x).line - 1 = init.length := by
    rw [advance_of_lines hx]
    simp [origin]
  refine ⟨last ++ first, ?_, ?_⟩
  · rw [hline, hxy]
    simp
  · rw [hcolumn, List.drop_left, hy]
    rfl

end Position

/-- Counting over a whole text ends where its table of lines does. -/
theorem Source.endPosition_eq (source : Source) :
    source.endPosition = Position.origin.advance source.text.toList := by
  obtain ⟨init, last, hlines, -, -⟩ := Text.exists_last_line source.text.toList 0
  have htable : source.lines = init.map String.ofList ++ [String.ofList last] := by
    simp [Source.lines, hlines]
  rw [Position.advance_of_lines hlines, Source.endPosition, htable]
  simp [Position.origin, Nat.add_comm, String.length_toList]

end Scriptlet
