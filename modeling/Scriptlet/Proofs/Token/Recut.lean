/-
# Cutting a part of a text

A text is cut into pieces, each the longest lexeme at the front of what is left
(`Cut`).  Since the longest lexeme does not depend on what follows it, some pieces
in a row are also the pieces of the text that they make up by themselves
(`Cut.of_infix`), and their tokens mean the same there as in the whole text.

A span around tokens of a source begins and ends with a piece, so the text of that
span is one that pieces make up: as a source of its own it has the same tokens, in
other places (`tokenize_part`).

Pieces are what laws of the scanner are about.  They have no places, so that rows of them can be
joined and taken apart; `placed` puts them at places again, and `tokenize_eq_ok_iff` says that
a source has the tokens that the placed pieces of its text have.
-/
import Scriptlet.Token.Scan
import Scriptlet.Proofs.Token.Munch
import Scriptlet.Proofs.Token.Around

namespace Scriptlet

/-! ## Pieces -/

/-- A lexeme without its place. -/
structure Piece where
  rule : Rule
  chars : List Char

def Piece.place (x : Piece) (p : Position) : Lexeme := ⟨x.rule, x.chars, ⟨p, p.advance x.chars⟩⟩

/-- The text that the pieces make up. -/
def written (xs : List Piece) : List Char := xs.flatMap Piece.chars

/-- The position behind the pieces when the first of them is at `p`. -/
def behind (p : Position) (xs : List Piece) : Position :=
  xs.foldl (fun p x => p.advance x.chars) p

/-- The pieces one behind the other, the first of them at `p`. -/
def placed : Position → List Piece → List Lexeme
  | _, [] => []
  | p, x :: xs => x.place p :: placed (p.advance x.chars) xs

/-- Each of the pieces is the longest lexeme at the front of the text from there on. -/
inductive Cut : List Piece → Prop
  | nil : Cut []
  | cons {x : Piece} {xs : List Piece} :
      Rule.winner (x.chars ++ written xs) = some (x.rule, x.chars.length) →
      Cut xs → Cut (x :: xs)

section Pieces

variable {x : Piece} {xs ys mid : List Piece} {p q : Position}

theorem written_cons (x : Piece) (xs : List Piece) : written (x :: xs) = x.chars ++ written xs :=
  List.flatMap_cons

theorem written_append (xs ys : List Piece) : written (xs ++ ys) = written xs ++ written ys :=
  List.flatMap_append

theorem behind_append (p : Position) (xs ys : List Piece) :
    behind p (xs ++ ys) = behind (behind p xs) ys :=
  List.foldl_append

theorem offset_advance (p : Position) (chars : List Char) :
    (p.advance chars).offset = p.offset + chars.length := by
  unfold Position.advance
  split <;> rfl

theorem offset_behind (p : Position) (xs : List Piece) :
    (behind p xs).offset = p.offset + (written xs).length := by
  induction xs generalizing p with
  | nil => rfl
  | cons x xs ih =>
      rw [written_cons, List.length_append, ← Nat.add_assoc, ← offset_advance]
      exact ih _

theorem cut_cons :
    Cut (x :: xs) ↔
      Rule.winner (x.chars ++ written xs) = some (x.rule, x.chars.length) ∧ Cut xs := by
  refine ⟨fun h => ?_, fun h => .cons h.1 h.2⟩
  cases h with
  | cons hwin h => exact ⟨hwin, h⟩

instance Cut.decidable : (xs : List Piece) → Decidable (Cut xs)
  | [] => .isTrue .nil
  | _ :: xs => @decidable_of_iff' _ _ cut_cons (@instDecidableAnd _ _ _ (Cut.decidable xs))

theorem Cut.right (h : Cut (xs ++ ys)) : Cut ys := by
  induction xs with
  | nil => exact h
  | cons x xs ih =>
      cases h with
      | cons _ h => exact ih h

theorem Cut.left (h : Cut (xs ++ ys)) : Cut xs := by
  induction xs with
  | nil => exact .nil
  | cons x xs ih =>
      cases h with
      | cons hwin h =>
          have htext : x.chars ++ written (xs ++ ys) = (x.chars ++ written xs) ++ written ys := by
            rw [written_append, List.append_assoc]
          exact .cons (Rule.winner_append (htext ▸ hwin) (by simp)) (ih h)

/-- Some pieces in a row are the pieces of the text that they make up. -/
theorem Cut.of_infix (h : Cut xs) (hpart : mid <:+: xs) : Cut mid := by
  obtain ⟨pre, post, rfl⟩ := hpart
  exact h.left.right

/-! ## Segments -/

theorem segment_nil (p : Position) : segment [] p = ⟨[], p, []⟩ := by
  rw [segment.eq_def]

theorem segment_of_winner {text : List Char} {rule : Rule} {n : Nat}
    (h : Rule.winner text = some (rule, n)) (p : Position) :
    segment text p =
      let stop := p.advance (text.take n)
      { segment (text.drop n) stop with
        lexemes := ⟨rule, text.take n, ⟨p, stop⟩⟩ :: (segment (text.drop n) stop).lexemes } := by
  cases text with
  | nil =>
      have hpos := Rule.winner_pos h
      have hle : n ≤ 0 := Rule.winner_le h
      omega
  | cons c rest =>
      rw [segment.eq_def]
      simp only
      split
      · next hnone => rw [h] at hnone; cases hnone
      · next heq => rw [h] at heq; cases heq; rfl

/-- The pieces of a text are what it is cut into. -/
theorem segment_of_cut (h : Cut xs) (p : Position) :
    segment (written xs) p = ⟨placed p xs, behind p xs, []⟩ := by
  induction h generalizing p with
  | nil => exact segment_nil p
  | @cons x xs hwin _ ih =>
      rw [written_cons, segment_of_winner hwin, List.take_left, List.drop_left]
      simp only [ih]
      rfl

/-- A text of which nothing is left unread is cut into pieces. -/
theorem cut_of_segment {text : List Char} (h : (segment text p).unread = []) :
    ∃ xs, Cut xs ∧ written xs = text := by
  fun_induction segment text p with
  | case1 => exact ⟨[], .nil, rfl⟩
  | case2 p c rest hnone => cases h
  | case3 p c rest rule n hwin chars stop tail ih =>
      obtain ⟨xs, hcut, hwritten⟩ := ih h
      have hlength : chars.length = n := List.length_take_of_le (Rule.winner_le hwin)
      refine ⟨⟨rule, chars⟩ :: xs, .cons ?_ hcut, ?_⟩
      · rw [hwritten, List.take_append_drop, hwin, hlength]
      · rw [written_cons, hwritten, List.take_append_drop]

end Pieces

/-! ## Tokens of pieces -/

section Tokens

variable {lexeme : Lexeme} {lexemes : List Lexeme} {xs : List Piece} {p : Position}
  {t : Token} {us ts ws : List Token} {span : Span}

theorem tokensOf_cons_eq_ok :
    tokensOf (lexeme :: lexemes) = .ok ts ↔
      ∃ front back, lexeme.token? = .ok front ∧ tokensOf lexemes = .ok back ∧
        ts = front.toList ++ back := by
  rw [tokensOf]
  cases lexeme.token? with
  | error fault => simp
  | ok front =>
      cases front with
      | none => simp
      | some t =>
          cases tokensOf lexemes with
          | error fault => simp
          | ok back => simp [eq_comm]

theorem span_of_token? (h : lexeme.token? = .ok (some t)) : t.span = lexeme.span := by
  unfold Lexeme.token? at h
  cases hcontent : lexeme.content with
  | error fault => rw [hcontent] at h; cases h
  | ok content =>
      rw [hcontent] at h
      cases content with
      | none => cases h
      | some content => cases h; rfl

theorem ordered_of_cut (h : Cut xs) (hts : tokensOf (placed p xs) = .ok ts) :
    Ordered ts ∧ ∀ t ∈ ts, p.offset ≤ t.span.start.offset := by
  induction h generalizing p ts with
  | nil => cases hts; exact ⟨⟨.nil, by simp⟩, by simp⟩
  | @cons x xs hwin _ ih =>
      obtain ⟨front, back, hfront, hback, rfl⟩ := tokensOf_cons_eq_ok.1 hts
      obtain ⟨hordered, hfrom⟩ := ih hback
      have hpos := Rule.winner_pos hwin
      simp only [offset_advance] at hfrom
      cases front with
      | none => exact ⟨hordered, fun t ht => by have := hfrom t ht; omega⟩
      | some t =>
          have hspan : t.span = ⟨p, p.advance x.chars⟩ := span_of_token? hfront
          have hstart : t.span.start.offset = p.offset := by rw [hspan]
          have hstop : t.span.stop.offset = p.offset + x.chars.length := by
            rw [hspan, offset_advance]
          refine ⟨⟨List.pairwise_cons.2 ⟨fun u hu => ?_, hordered.apart⟩, ?_⟩, ?_⟩
          · rw [hstop]
            exact hfrom u hu
          · rintro u (_ | ⟨_, hu⟩)
            · omega
            · exact hordered.filled u hu
          · rintro u (_ | ⟨_, hu⟩)
            · exact Nat.le_of_eq hstart.symm
            · have := hfrom u hu
              omega

/-- A token is that of one of the pieces; the tokens in front of it are those of the
pieces in front, and the tokens behind it those of the pieces behind. -/
theorem exists_piece_of_token (h : tokensOf (placed p xs) = .ok (us ++ t :: ws)) :
    ∃ ys x zs, xs = ys ++ x :: zs ∧ tokensOf (placed p ys) = .ok us ∧
      (x.place (behind p ys)).token? = .ok (some t) ∧
      tokensOf (placed (behind p (ys ++ [x])) zs) = .ok ws := by
  induction xs generalizing p us with
  | nil => simp [placed, tokensOf] at h
  | cons x xs ih =>
      obtain ⟨front, back, hfront, hback, heq⟩ := tokensOf_cons_eq_ok.1 h
      have hlater : ∀ vs, back = vs ++ t :: ws → us = front.toList ++ vs →
          ∃ ys y zs, x :: xs = ys ++ y :: zs ∧ tokensOf (placed p ys) = .ok us ∧
            (y.place (behind p ys)).token? = .ok (some t) ∧
            tokensOf (placed (behind p (ys ++ [y])) zs) = .ok ws := by
        rintro vs rfl rfl
        obtain ⟨ys, y, zs, rfl, hys, hy, hzs⟩ := ih hback
        exact ⟨x :: ys, y, zs, rfl, tokensOf_cons_eq_ok.2 ⟨front, vs, hfront, hys, rfl⟩, hy, hzs⟩
      cases front with
      | none => exact hlater us heq.symm rfl
      | some u =>
          cases us with
          | nil =>
              cases heq
              exact ⟨[], x, xs, rfl, rfl, hfront, hback⟩
          | cons v vs =>
              cases heq
              exact hlater vs rfl rfl

theorem tokensOf_append_token {ys : List Piece} {x : Piece}
    (hys : tokensOf (placed p ys) = .ok us)
    (hx : (x.place (behind p ys)).token? = .ok (some t)) :
    tokensOf (placed p (ys ++ [x])) = .ok (us ++ [t]) := by
  induction ys generalizing p us with
  | nil =>
      cases hys
      exact tokensOf_cons_eq_ok.2 ⟨some t, [], hx, rfl, rfl⟩
  | cons y ys ih =>
      obtain ⟨front, back, hfront, hback, rfl⟩ := tokensOf_cons_eq_ok.1 hys
      exact tokensOf_cons_eq_ok.2 ⟨front, back ++ [t], hfront, ih hback hx, by simp⟩

/-- Tokens in a row are those of pieces in a row, and the span around them begins and
ends where these pieces do. -/
theorem exists_pieces_around (h : tokensOf (placed p xs) = .ok ts) (hpart : us <:+: ts)
    (haround : Around us span) :
    ∃ pre mid post, xs = pre ++ mid ++ post ∧
      tokensOf (placed (behind p pre) mid) = .ok us ∧
      span = ⟨behind p pre, behind p (pre ++ mid)⟩ := by
  obtain ⟨before, after, rfl⟩ := hpart
  obtain ⟨first, last, hfirst, hlast, rfl⟩ := haround
  obtain ⟨vs, rfl⟩ : ∃ vs, us = first :: vs := by
    cases us with
    | nil => cases hfirst
    | cons t vs => cases hfirst; exact ⟨vs, rfl⟩
  rw [List.append_assoc, List.cons_append] at h
  obtain ⟨pre, x, xs, rfl, -, hx, hxs⟩ := exists_piece_of_token h
  have htokens : tokensOf (placed (behind p pre) (x :: xs)) = .ok (first :: (vs ++ after)) := by
    rw [behind_append] at hxs
    exact tokensOf_cons_eq_ok.2 ⟨some first, vs ++ after, hx, hxs, rfl⟩
  obtain ⟨init, hinit⟩ := List.getLast?_eq_some_iff.1 hlast
  have hsplit : first :: (vs ++ after) = init ++ last :: after := by
    rw [← List.cons_append, hinit, List.append_assoc]
    rfl
  rw [hsplit] at htokens
  obtain ⟨ys, y, post, hcut, hys, hy, -⟩ := exists_piece_of_token htokens
  refine ⟨pre, ys ++ [y], post, ?_, ?_, ?_⟩
  · rw [hcut]
    simp
  · rw [hinit]
    exact tokensOf_append_token hys hy
  · rw [span_of_token? hx, span_of_token? hy, behind_append, behind_append]
    rfl

/-- The meaning of a piece does not depend on its place. -/
theorem token?_elsewhere {x : Piece} {front : Option Token}
    (h : (x.place p).token? = .ok front) (q : Position) :
    ∃ front', (x.place q).token? = .ok front' ∧
      front'.toList.map Token.content = front.toList.map Token.content := by
  have hcontent : (x.place q).content = (x.place p).content := rfl
  unfold Lexeme.token? at h ⊢
  rw [hcontent]
  cases hmeaning : (x.place p).content with
  | error fault => rw [hmeaning] at h; cases h
  | ok meaning =>
      rw [hmeaning] at h
      cases h
      refine ⟨_, rfl, ?_⟩
      cases meaning with
      | none => rfl
      | some content => rfl

theorem tokensOf_elsewhere (h : tokensOf (placed p xs) = .ok us) (q : Position) :
    ∃ vs, tokensOf (placed q xs) = .ok vs ∧ vs.map Token.content = us.map Token.content := by
  induction xs generalizing p q us with
  | nil => cases h; exact ⟨[], rfl, rfl⟩
  | cons x xs ih =>
      obtain ⟨front, back, hfront, hback, rfl⟩ := tokensOf_cons_eq_ok.1 h
      obtain ⟨front', hfront', hsame⟩ := token?_elsewhere hfront q
      obtain ⟨back', hback', hcontents⟩ := ih hback (q.advance x.chars)
      refine ⟨front'.toList ++ back', tokensOf_cons_eq_ok.2 ⟨_, _, hfront', hback', rfl⟩, ?_⟩
      rw [List.map_append, List.map_append, hsame, hcontents]

end Tokens

/-! ## Sources -/

theorem tokenize_eq_ok {source : Source} {tokens : List Token} :
    tokenize source = .ok tokens ↔
      (segment source.text.toList .origin).unread = [] ∧
        tokensOf (segment source.text.toList .origin).lexemes = .ok tokens := by
  simp only [tokenize]
  cases tokensOf (segment source.text.toList .origin).lexemes with
  | error fault => simp
  | ok ts =>
      cases (segment source.text.toList .origin).unread with
      | nil => simp
      | cons c rest => simp

/-- The tokens of a source are those of the pieces that its text is cut into. -/
theorem tokenize_eq_ok_iff {source : Source} {tokens : List Token} :
    tokenize source = .ok tokens ↔
      ∃ xs, Cut xs ∧ written xs = source.text.toList ∧
        tokensOf (placed .origin xs) = .ok tokens := by
  rw [tokenize_eq_ok]
  constructor
  · rintro ⟨hunread, htokens⟩
    obtain ⟨xs, hcut, hwritten⟩ := cut_of_segment hunread
    rw [← hwritten, segment_of_cut hcut] at htokens
    exact ⟨xs, hcut, hwritten, htokens⟩
  · rintro ⟨xs, hcut, hwritten, htokens⟩
    rw [← hwritten, segment_of_cut hcut]
    exact ⟨rfl, htokens⟩

theorem between_natCast {chars : List Char} {a b : Nat} (hab : a ≤ b) (hb : b ≤ chars.length) :
    Text.between chars a b = (chars.take b).drop a := by
  have hbound : ∀ k : Nat, k ≤ chars.length → Text.bound chars.length k = k := by
    intro k hk
    rw [Text.bound, if_neg (by omega), Int.toNat_natCast]
    exact Nat.min_eq_left hk
  rw [Text.between, hbound a (Nat.le_trans hab hb), hbound b hb]

theorem text_ofSpan (source : Source) {span : Span}
    (hspan : span.start.offset ≤ span.stop.offset)
    (hstop : span.stop.offset ≤ source.text.toList.length) :
    (Location.ofSpan source span).text =
      String.ofList ((source.text.toList.take span.stop.offset).drop span.start.offset) := by
  have hend : (Location.ofSpan source span).stop = (span.stop.offset : Int) := by
    simp only [Location.stop, Location.ofSpan, Span.length]
    omega
  rw [Location.text, hend]
  exact congrArg String.ofList (between_natCast hspan hstop)

theorem text_point (source : Source) (p : Position) :
    (Location.ofSpan source (.point p)).text = "" := by
  have hempty : (Location.ofSpan source (.point p)).stop =
      (Location.ofSpan source (.point p)).offset := by
    simp [Location.stop, Location.ofSpan, Span.length, Span.point]
  rw [Location.text, hempty, Text.between, List.drop_take, Nat.sub_self, List.take_zero]

theorem text_of_pieces {source : Source} {pre mid post : List Piece}
    (h : written (pre ++ mid ++ post) = source.text.toList) :
    (Location.ofSpan source ⟨behind .origin pre, behind .origin (pre ++ mid)⟩).text =
      String.ofList (written mid) := by
  have hstart : (behind .origin pre).offset = (written pre).length := by
    rw [offset_behind]
    exact Nat.zero_add _
  have hstop : (behind .origin (pre ++ mid)).offset = (written (pre ++ mid)).length := by
    rw [offset_behind]
    exact Nat.zero_add _
  rw [written_append] at h
  rw [text_ofSpan]
  · rw [hstart, hstop, ← h, List.take_left, written_append, List.drop_left]
  · rw [hstart, hstop, written_append, List.length_append]
    omega
  · rw [hstop, ← h, List.length_append]
    omega

/-- **The text of a span around tokens has the same tokens** when it is a source of
its own, in other places. -/
theorem tokenize_part {source fresh : Source} {tokens us : List Token} {span : Span}
    (h : tokenize source = .ok tokens) (hpart : us <:+: tokens)
    (hspan : Around us span ∨ us = [] ∧ ∃ p, span = .point p)
    (hfresh : fresh.text = (Location.ofSpan source span).text) :
    ∃ vs, tokenize fresh = .ok vs ∧ vs.map Token.content = us.map Token.content := by
  obtain ⟨xs, hcut, hwritten, htokens⟩ := tokenize_eq_ok_iff.1 h
  rcases hspan with haround | ⟨rfl, p, rfl⟩
  · obtain ⟨pre, mid, post, rfl, hmid, rfl⟩ := exists_pieces_around htokens hpart haround
    obtain ⟨vs, hvs, hcontents⟩ := tokensOf_elsewhere hmid .origin
    refine ⟨vs, tokenize_eq_ok_iff.2 ⟨mid, hcut.of_infix ⟨pre, post, rfl⟩, ?_, hvs⟩, hcontents⟩
    rw [hfresh, text_of_pieces hwritten, String.toList_ofList]
  · refine ⟨[], tokenize_eq_ok_iff.2 ⟨[], .nil, ?_, rfl⟩, rfl⟩
    rw [hfresh, text_point]
    rfl

end Scriptlet
