/-
# Boundaries of lexemes

Scanning a text goes from one boundary between lexemes to the next and collects tokens on
the way (`Scans`).  Whether or not it comes to the end of the text, the lexemes between two
boundaries are those of the text that lies between them, so that this text by itself has
the tokens which scanning found there, moved to the front (`scanning_is_local`).

## What makes it local

The longest lexeme at the front of a text does not depend on what follows it (`Munch`), and
so neither does the boundary behind it.  What stands in front of a boundary never mattered:
the scanner looks forward only, and carries nothing along but the position.  Moving tokens
to the front changes offsets, lines and columns, and nothing else (`Token.seenFrom`).

## Where scanning stops

Scanning that comes to no end stands in front of a character with which no rule begins a
lexeme (`Stopped`).  For a quote that means that nothing closes it: every other quote of its
kind behind it is escaped (`closes_iff`), which is a matter of the parity of backslashes in
front of it.  These are the reports of a string that does not end; every other report
names the character.

An integer of too many digits is another matter.  It is a lexeme like any other, and scanning
comes to the front of it; what it lacks is a meaning.
-/
import Scriptlet.Proofs.Token.Positions
import Scriptlet.Proofs.Token.DataText

namespace Scriptlet

/-! ## Pieces with something behind them -/

section Pieces

variable {x : Piece} {xs ys : List Piece} {tail rest : List Char}

theorem munchedTo_append :
    MunchedTo tail (xs ++ ys) ↔ MunchedTo (written ys ++ tail) xs ∧ MunchedTo tail ys := by
  constructor
  · intro h
    refine ⟨?_, h.right xs⟩
    rintro front x back rfl
    have hx := h front x (back ++ ys) (by simp)
    rwa [written_append, List.append_assoc] at hx
  · rintro ⟨hxs, hys⟩ front x back heq
    rcases List.append_eq_append_iff.1 heq with ⟨more, rfl, hys'⟩ | ⟨more, hxs', hback⟩
    · exact hys more x back hys'
    · cases more with
      | nil =>
          rw [List.nil_append] at hback
          exact hys [] x back hback.symm
      | cons y more =>
          obtain ⟨rfl, rfl⟩ := List.cons.inj hback
          have hx := hxs front x more hxs'
          rwa [← List.append_assoc, ← written_append] at hx

theorem MunchedTo.cut (h : MunchedTo tail xs) : Cut xs := by
  refine cut_iff_munched.2 fun front x back heq => ?_
  have hwinner := munched_iff_winner.1 (h front x back heq)
  rw [← List.append_assoc] at hwinner
  exact munched_iff_winner.2 (Rule.winner_append hwinner (by simp))

/-- Of two ways to cut a text the shorter is where the longer begins. -/
theorem MunchedTo.prefix_of_le (h : MunchedTo tail xs) (h' : MunchedTo rest ys)
    (htext : written xs ++ tail = written ys ++ rest)
    (hle : (written xs).length ≤ (written ys).length) : xs <+: ys := by
  induction xs generalizing ys with
  | nil => exact List.nil_prefix
  | cons x xs ih =>
      have hx := h [] x xs rfl
      cases ys with
      | nil =>
          have hfilled := List.length_pos_iff.2 hx.filled
          rw [written_cons, List.length_append] at hle
          simp only [written, List.flatMap_nil, List.length_nil] at hle
          omega
      | cons y ys =>
          have hy := h' [] y ys rfl
          simp only [written_cons, List.append_assoc] at htext
          have hwinners := munched_iff_winner.1 hx
          rw [htext, munched_iff_winner.1 hy] at hwinners
          obtain ⟨hrule, hlength⟩ := Prod.mk.inj (Option.some.inj hwinners)
          obtain ⟨hchars, htail⟩ := List.append_inj htext hlength.symm
          obtain rfl : y = x := by
            cases x
            cases y
            simp only at hrule hchars
            rw [hrule, hchars]
          rw [written_cons, written_cons, List.length_append, List.length_append] at hle
          exact List.prefix_cons_inj y |>.2
            (ih (MunchedTo.right [y] h) (MunchedTo.right [y] h') htail (by omega))

end Pieces

/-! ## Tokens at other places -/

/-- What is seen of a token when its text begins `n` characters further back. -/
def Token.seenFrom (n : Nat) (t : Token) : Content × String × Nat × Nat :=
  (t.content, t.lexeme, n + t.span.start.offset, n + t.span.stop.offset)

/-- The token lies between two offsets. -/
def Token.within (a b : Nat) (t : Token) : Bool :=
  decide (a ≤ t.span.start.offset) && decide (t.span.stop.offset ≤ b)

section Tokens

variable {x : Piece} {xs ys : List Piece} {p q : Position} {ts us : List Token}

theorem tokensOf_append_iff :
    tokensOf (placed p (xs ++ ys)) = .ok ts ↔
      ∃ us ws, tokensOf (placed p xs) = .ok us ∧ tokensOf (placed (behind p xs) ys) = .ok ws ∧
        ts = us ++ ws := by
  constructor
  · intro h
    induction xs generalizing p ts with
    | nil => exact ⟨[], ts, rfl, h, rfl⟩
    | cons x xs ih =>
        obtain ⟨front, back, hfront, hback, rfl⟩ := tokensOf_cons_eq_ok.1 h
        obtain ⟨us, ws, hus, hws, rfl⟩ := ih hback
        exact ⟨front.toList ++ us, ws, tokensOf_cons_eq_ok.2 ⟨front, us, hfront, hus, rfl⟩, hws,
          (List.append_assoc _ _ _).symm⟩
  · rintro ⟨us, ws, hus, hws, rfl⟩
    exact tokensOf_append hus hws

theorem tokensOf_single {front : Option Token} (h : (x.place p).token? = .ok front) :
    tokensOf (placed p [x]) = .ok front.toList :=
  tokensOf_cons_eq_ok.2 ⟨front, [], h, rfl, (List.append_nil _).symm⟩

/-- A piece that is moved is seen as it was, but for its offsets. -/
theorem token?_moved {front : Option Token} {n : Nat} (h : (x.place p).token? = .ok front)
    (hoffset : n + q.offset = p.offset) :
    ∃ front', (x.place q).token? = .ok front' ∧
      front'.toList.map (Token.seenFrom n) = front.toList.map (Token.seenFrom 0) := by
  have hcontent : (x.place q).content = (x.place p).content := rfl
  unfold Lexeme.token? at h ⊢
  rw [hcontent]
  cases hmeaning : (x.place p).content with
  | error fault => rw [hmeaning] at h; cases h
  | ok meaning =>
      rw [hmeaning] at h
      cases h
      refine ⟨_, rfl, ?_⟩
      cases meaning with
      | none => rfl
      | some content =>
          simp [Token.seenFrom, Piece.place, offset_advance, ← Nat.add_assoc, hoffset]

theorem tokensOf_moved {n : Nat} (h : tokensOf (placed p xs) = .ok us)
    (hoffset : n + q.offset = p.offset) :
    ∃ vs, tokensOf (placed q xs) = .ok vs ∧
      vs.map (Token.seenFrom n) = us.map (Token.seenFrom 0) := by
  induction xs generalizing p q us with
  | nil => cases h; exact ⟨[], rfl, rfl⟩
  | cons x xs ih =>
      obtain ⟨front, back, hfront, hback, rfl⟩ := tokensOf_cons_eq_ok.1 h
      obtain ⟨front', hfront', hsame⟩ := token?_moved hfront hoffset
      have hnext : n + (q.advance x.chars).offset = (p.advance x.chars).offset := by
        rw [offset_advance, offset_advance, ← hoffset, Nat.add_assoc]
      obtain ⟨back', hback', hsames⟩ := ih hback hnext
      refine ⟨front'.toList ++ back', tokensOf_cons_eq_ok.2 ⟨_, _, hfront', hback', rfl⟩, ?_⟩
      rw [List.map_append, List.map_append, hsame, hsames]

theorem between_of_tokensOf (hcut : Cut xs) (h : tokensOf (placed p xs) = .ok ts) :
    ∀ t ∈ ts, p.offset ≤ t.span.start.offset ∧ t.span.start.offset < t.span.stop.offset ∧
      t.span.stop.offset ≤ (behind p xs).offset := by
  intro t ht
  obtain ⟨hordered, hfrom⟩ := ordered_of_cut hcut h
  obtain ⟨us, ws, rfl⟩ := List.append_of_mem ht
  obtain ⟨front, x, back, rfl, -, hx, -⟩ := exists_piece_of_token h
  refine ⟨hfrom t ht, hordered.filled t ht, ?_⟩
  rw [span_of_token? hx]
  simp only [Piece.place, offset_advance, offset_behind, written_append, written_cons,
    List.length_append]
  omega

/-- Pieces of which one has no meaning all have one up to the first such. -/
theorem exists_piece_of_fault {fault : TooManyDigits} (h : tokensOf (placed p xs) = .error fault) :
    ∃ ys x zs us, xs = ys ++ x :: zs ∧ tokensOf (placed p ys) = .ok us ∧
      (x.place (behind p ys)).token? = .error fault := by
  induction xs generalizing p with
  | nil => cases h
  | cons x xs ih =>
      rw [placed, tokensOf] at h
      cases hx : (x.place p).token? with
      | error fault' =>
          rw [hx] at h
          cases h
          exact ⟨[], x, xs, [], rfl, rfl, hx⟩
      | ok front =>
          have hrest : tokensOf (placed (p.advance x.chars) xs) = .error fault := by
            rw [hx] at h
            cases front with
            | none => exact h
            | some t =>
                cases hback : tokensOf (placed (p.advance x.chars) xs) with
                | error fault' => rw [hback] at h; exact h
                | ok back => rw [hback] at h; cases h
          obtain ⟨ys, y, zs, us, rfl, hys, hy⟩ := ih hrest
          exact ⟨x :: ys, y, zs, front.toList ++ us, rfl,
            tokensOf_cons_eq_ok.2 ⟨front, us, hx, hys, rfl⟩, hy⟩

theorem filter_within {a b : Nat} {first inner after : List Token}
    (hfirst : ∀ t ∈ first, t.span.start.offset < a)
    (hinner : ∀ t ∈ inner, a ≤ t.span.start.offset ∧ t.span.stop.offset ≤ b)
    (hafter : ∀ t ∈ after, b < t.span.stop.offset) :
    (first ++ inner ++ after).filter (Token.within a b) = inner := by
  have hnone : first.filter (Token.within a b) = [] := by
    refine List.filter_eq_nil_iff.2 fun t ht => ?_
    simp [Token.within, hfirst t ht]
  have hall : inner.filter (Token.within a b) = inner := by
    refine List.filter_eq_self.2 fun t ht => ?_
    simp [Token.within, hinner t ht]
  have hnone' : after.filter (Token.within a b) = [] := by
    refine List.filter_eq_nil_iff.2 fun t ht => ?_
    simp [Token.within, hafter t ht]
  rw [List.filter_append, List.filter_append, hnone, hall, hnone', List.append_nil,
    List.nil_append]

end Tokens

/-! ## From boundary to boundary -/

/-- Scanning a text comes to a position, with the tokens found on the way. -/
inductive Scans (text : List Char) : Position → List Token → Prop
  | start : Scans text .origin []
  | step {p : Position} {found : List Token} {rule : Rule} {n : Nat} {front : Option Token} :
      Scans text p found →
      Rule.winner (text.drop p.offset) = some (rule, n) →
      (Piece.place ⟨rule, (text.drop p.offset).take n⟩ p).token? = .ok front →
      Scans text (p.advance ((text.drop p.offset).take n)) (found ++ front.toList)

section Scanning

variable {text rest : List Char} {xs : List Piece} {a b c p : Position}
  {before upTo found : List Token}

theorem drop_behind (h : written xs ++ rest = text) :
    text.drop (behind .origin xs).offset = rest := by
  rw [offset_behind, ← h]
  exact List.drop_left' (Nat.zero_add _).symm

/-- Scanning comes to where pieces of the text end that all have a meaning. -/
theorem scans_iff :
    Scans text p found ↔
      ∃ xs rest, written xs ++ rest = text ∧ MunchedTo rest xs ∧ p = behind .origin xs ∧
        tokensOf (placed .origin xs) = .ok found := by
  constructor
  · intro h
    induction h with
    | start => exact ⟨[], text, rfl, munchedTo_nil, rfl, rfl⟩
    | @step p found rule n front _ hwinner hfront ih =>
        obtain ⟨xs, rest, hwritten, hmunched, rfl, htokens⟩ := ih
        rw [drop_behind hwritten] at hwinner hfront ⊢
        have hx : Munched ⟨rule, rest.take n⟩ (rest.drop n) := by
          rw [munched_iff_winner, List.take_append_drop, hwinner,
            List.length_take_of_le (Rule.winner_le hwinner)]
        have hone : written [⟨rule, rest.take n⟩] = rest.take n := by simp [written]
        refine ⟨xs ++ [⟨rule, rest.take n⟩], rest.drop n, ?_, munchedTo_append.2 ⟨?_, ?_⟩, ?_, ?_⟩
        · rw [written_append, hone, List.append_assoc, List.take_append_drop, hwritten]
        · rwa [hone, List.take_append_drop]
        · exact munchedTo_cons hx munchedTo_nil
        · rw [behind_append]
          rfl
        · exact tokensOf_append htokens (tokensOf_single hfront)
  · rintro ⟨xs, rest, hwritten, hmunched, rfl, htokens⟩
    -- the last piece is the last step
    induction xs using List.reverseRecOn generalizing rest found with
    | nil =>
        cases htokens
        exact .start
    | append_singleton xs x ih =>
        have hone : written [x] = x.chars := by simp [written]
        obtain ⟨us, ws, hus, hws, rfl⟩ := tokensOf_append_iff.1 htokens
        obtain ⟨front, back, hfront, hback, rfl⟩ := tokensOf_cons_eq_ok.1 hws
        cases hback
        obtain ⟨hxs, hx⟩ := munchedTo_append.1 hmunched
        rw [written_append, hone, List.append_assoc] at hwritten
        rw [hone] at hxs
        have hdrop := drop_behind hwritten
        have hwinner : Rule.winner (text.drop (behind .origin xs).offset) =
            some (x.rule, x.chars.length) := by
          rw [hdrop]
          exact munched_iff_winner.1 (hx [] x [] rfl)
        have htoken : (Piece.place
            ⟨x.rule, (text.drop (behind .origin xs).offset).take x.chars.length⟩
            (behind .origin xs)).token? = .ok front := by
          rw [hdrop, List.take_left]
          exact hfront
        have hstep := (ih _ hwritten hxs hus).step hwinner htoken
        rw [hdrop, List.take_left] at hstep
        rw [behind_append, List.append_nil]
        exact hstep

/-- Scanning comes to the end of a source that has tokens, and only then has it any. -/
theorem tokenize_eq_ok_iff_scans {source : Source} {tokens : List Token} :
    tokenize source = .ok tokens ↔
      ∃ p, Scans source.text.toList p tokens ∧ p.offset = source.text.toList.length := by
  rw [tokenize_eq_ok_iff]
  constructor
  · rintro ⟨xs, hcut, hwritten, htokens⟩
    have hmunched : MunchedTo [] xs := by
      intro front x back heq
      rw [List.append_nil]
      exact cut_iff_munched.1 hcut front x back heq
    refine ⟨behind .origin xs, scans_iff.2 ⟨xs, [], ?_, hmunched, rfl, htokens⟩, ?_⟩
    · rw [List.append_nil, hwritten]
    · rw [offset_behind, hwritten]
      exact Nat.zero_add _
  · rintro ⟨p, hscans, hend⟩
    obtain ⟨xs, rest, hwritten, hmunched, rfl, htokens⟩ := scans_iff.1 hscans
    have hrest := drop_behind hwritten
    rw [hend, List.drop_length] at hrest
    refine ⟨xs, hmunched.cut, ?_, htokens⟩
    rw [← hwritten, ← hrest, List.append_nil]

/-- Between two boundaries scanning finds the tokens of the text that lies there. -/
theorem tokenize_between {part : Source} (ha : Scans text a before) (hb : Scans text b upTo)
    (hc : Scans text c found) (hab : a.offset ≤ b.offset) (hbc : b.offset ≤ c.offset)
    (hpart : part.text.toList = (text.take b.offset).drop a.offset) :
    ∃ us, tokenize part = .ok us ∧
      us.map (Token.seenFrom a.offset) =
        (found.filter (Token.within a.offset b.offset)).map (Token.seenFrom 0) := by
  obtain ⟨xs, _, hxs, hmunched, rfl, -⟩ := scans_iff.1 ha
  obtain ⟨ys, _, hys, hmunched', rfl, -⟩ := scans_iff.1 hb
  obtain ⟨zs, rest, hzs, hmunched'', rfl, htokens⟩ := scans_iff.1 hc
  have hlength (xs : List Piece) : (behind .origin xs).offset = (written xs).length := by
    rw [offset_behind]
    exact Nat.zero_add _
  rw [hlength, hlength] at hab hbc
  obtain ⟨mid, rfl⟩ := hmunched.prefix_of_le hmunched' (hxs.trans hys.symm) hab
  obtain ⟨post, rfl⟩ := hmunched'.prefix_of_le hmunched'' (hys.trans hzs.symm) hbc
  -- the tokens of what is in front, of what is between and of what is behind
  obtain ⟨_, after, hfront, hafter, rfl⟩ := tokensOf_append_iff.1 htokens
  obtain ⟨first, inner, hfirst, hinner, rfl⟩ := tokensOf_append_iff.1 hfront
  have hcut := hmunched''.cut
  have hwithin : (first ++ inner ++ after).filter
      (Token.within (behind .origin xs).offset (behind .origin (xs ++ mid)).offset) = inner := by
    have hinner' := between_of_tokensOf hcut.left.right hinner
    rw [← behind_append] at hinner'
    refine filter_within (fun t ht => ?_) (fun t ht => ?_) fun t ht => ?_
    · have := between_of_tokensOf hcut.left.left hfirst t ht
      omega
    · exact ⟨(hinner' t ht).1, (hinner' t ht).2.2⟩
    · have := between_of_tokensOf hcut.right hafter t ht
      omega
  obtain ⟨us, hus, hseen⟩ := tokensOf_moved hinner (q := .origin) (Nat.add_zero _)
  refine ⟨us, tokenize_eq_ok_iff.2 ⟨mid, hcut.left.right, ?_, hus⟩, ?_⟩
  · rw [hpart, hlength, hlength, ← hys, List.take_left, written_append, List.drop_left]
  · rw [hwithin, hseen]

/-- Up to a boundary scanning finds the very tokens of the text in front of it. -/
theorem tokenize_upTo {part : Source} (h : Scans text p found)
    (hpart : part.text.toList = text.take p.offset) : tokenize part = .ok found := by
  obtain ⟨xs, rest, hwritten, hmunched, rfl, htokens⟩ := scans_iff.1 h
  refine tokenize_eq_ok_iff.2 ⟨xs, hmunched.cut, ?_, htokens⟩
  rw [hpart, offset_behind, ← hwritten]
  exact (List.take_left' (Nat.zero_add _).symm).symm

end Scanning

/-! ## Where scanning stops -/

/-- No rule has a lexeme at the front of the text. -/
def NoLexeme (text : List Char) : Prop :=
  ∀ (rule : Rule) (y : List Char), y <+: text → y ≠ [] → y ∉ rule.pattern.language

/-- How many backslashes a text ends with. -/
def backslashes (text : List Char) : Nat := (text.reverse.takeWhile (· == '\\')).length

/-- A quote of the kind stands in the text, and no backslash escapes it: an even number of
them is in front of it, each taken by the one before. -/
def Closes (quote : Char) (text : List Char) : Prop :=
  ∃ inner after, text = inner ++ quote :: after ∧ backslashes inner % 2 = 0

section Quotes

variable {quote c : Char} {text : List Char}

theorem backslashes_le (text : List Char) : backslashes text ≤ text.length := by
  have hle := (List.takeWhile_prefix (l := text.reverse) (· == '\\')).length_le
  rwa [List.length_reverse] at hle

theorem backslashes_cons (c : Char) (text : List Char) :
    backslashes (c :: text) =
      if backslashes text = text.length ∧ c = '\\' then backslashes text + 1
      else backslashes text := by
  unfold backslashes
  rw [List.reverse_cons, List.takeWhile_append, List.length_reverse]
  by_cases hall : (text.reverse.takeWhile (· == '\\')).length = text.length
  · by_cases hc : c = '\\'
    · simp [hall, hc]
    · simp [hall, hc]
  · simp [hall]

/-- A backslash with the character that it takes does not change what is escaped behind. -/
theorem backslashes_escape (c : Char) (text : List Char) :
    backslashes ('\\' :: c :: text) % 2 = backslashes text % 2 := by
  have hle := backslashes_le text
  rw [backslashes_cons, backslashes_cons, List.length_cons]
  grind

/-- A string is closed by the first quote that no backslash escapes. -/
theorem closes_iff (hquote : quote ≠ '\\') :
    Closes quote text ↔ (Rule.closingLength quote text).isSome := by
  fun_induction Rule.closingLength quote text with
  | case1 =>
      simp [Closes]
  | case2 =>
      refine ⟨?_, fun h => by cases h⟩
      rintro ⟨inner, after, heq, -⟩
      cases inner with
      | nil => exact absurd (List.cons.inj heq).1.symm hquote
      | cons d inner => simp at heq
  | case3 c rest ih =>
      rw [Option.isSome_map, ← ih]
      constructor
      · rintro ⟨inner, after, heq, heven⟩
        cases inner with
        | nil => exact absurd (List.cons.inj heq).1.symm hquote
        | cons d inner =>
            cases inner with
            | nil =>
                obtain rfl := (List.cons.inj heq).1
                exact absurd heven (by decide)
            | cons e inner =>
                simp only [List.cons_append, List.cons.injEq] at heq
                obtain ⟨rfl, rfl, rfl⟩ := heq
                exact ⟨inner, after, rfl, by rw [← heven, backslashes_escape]⟩
      · rintro ⟨inner, after, rfl, heven⟩
        exact ⟨'\\' :: c :: inner, after, rfl, by rw [backslashes_escape, heven]⟩
  | case4 c rest hlone hescape hc =>
      refine ⟨fun _ => rfl, fun _ => ⟨[], rest, ?_, rfl⟩⟩
      rw [beq_iff_eq.1 hc]
      rfl
  | case5 c rest hlone hescape hc ih =>
      have hplain : c ≠ '\\' := Rule.ne_escape hlone hescape
      have hsame (inner : List Char) : backslashes (c :: inner) = backslashes inner := by
        rw [backslashes_cons, if_neg fun h => hplain h.2]
      rw [Option.isSome_map, ← ih]
      constructor
      · rintro ⟨inner, after, heq, heven⟩
        cases inner with
        | nil =>
            obtain rfl := (List.cons.inj heq).1
            exact absurd (beq_self_eq_true _) hc
        | cons d inner =>
            simp only [List.cons_append, List.cons.injEq] at heq
            obtain ⟨rfl, rfl⟩ := heq
            exact ⟨inner, after, rfl, by rw [← heven, hsame]⟩
      · rintro ⟨inner, after, rfl, heven⟩
        exact ⟨c :: inner, after, rfl, by rw [hsame, heven]⟩

end Quotes

section Stopping

variable {source : Source} {text : List Char} {p : Position} {d : Diagnostic}

theorem winner_eq_none_iff : Rule.winner text = none ↔ NoLexeme text := by
  have hleads := Rule.leads_winner text
  constructor
  · rintro h rule y ⟨z, rfl⟩ hne hy
    rw [h] at hleads
    have hbounds := rule.longest_reach.bounds y z hy
    rw [hleads rule (Rule.mem_all rule)] at hbounds
    exact hne (List.length_eq_zero_iff.1 (Nat.le_zero.1 hbounds))
  · intro h
    cases hwinner : Rule.winner text with
    | none => rfl
    | some winner =>
        obtain ⟨rule, n⟩ := winner
        rw [hwinner] at hleads
        have hpos := Rule.winner_pos hwinner
        have htakes := rule.longest_reach.takes text (by have := hleads.1; omega)
        have hfilled : text.take (rule.reach text) ≠ [] := by
          rw [← List.length_pos_iff, List.length_take_of_le (hleads.1 ▸ Rule.winner_le hwinner),
            hleads.1]
          exact hpos
        exact absurd htakes (h rule _ (List.take_prefix _ _) hfilled)

/-- A text is cut into pieces up to where no rule applies. -/
theorem segment_of_munchedTo {xs : List Piece} {c : Char} {rest : List Char}
    (hmunched : MunchedTo (c :: rest) xs) (hnone : Rule.winner (c :: rest) = none)
    (p : Position) :
    segment (written xs ++ c :: rest) p = ⟨placed p xs, behind p xs, c :: rest⟩ := by
  induction xs generalizing p with
  | nil => exact segment_stuck hnone p
  | cons x xs ih =>
      have hwinner := munched_iff_winner.1 (hmunched [] x xs rfl)
      rw [written_cons, List.append_assoc, segment_of_winner hwinner, List.take_left,
        List.drop_left]
      simp only [ih (MunchedTo.right [x] hmunched)]
      rfl

/-- Scanning refuses a source at a boundary where no rule has a lexeme. -/
theorem refused_iff_scans :
    tokenize source = .error (.refused d) ↔
      ∃ p found c rest, Scans source.text.toList p found ∧
        source.text.toList.drop p.offset = c :: rest ∧ NoLexeme (c :: rest) ∧
        d = strayCharacter source p c := by
  constructor
  · intro h
    obtain ⟨xs, hwritten, hlexemes, hstop, hmunched, hleft⟩ :=
      segment_munched source.text.toList .origin
    simp only [tokenize] at h
    split at h
    · cases h
    · cases h
    · next found c rest htokens hunread =>
        cases h
        rw [hlexemes] at htokens
        rw [hunread] at hwritten hmunched hleft
        have hnone := hleft.resolve_left (List.cons_ne_nil c rest)
        exact ⟨behind .origin xs, found, c, rest,
          scans_iff.2 ⟨xs, _, hwritten, hmunched, rfl, htokens⟩, drop_behind hwritten,
          winner_eq_none_iff.1 hnone, by rw [hstop]⟩
  · rintro ⟨p, found, c, rest, hscans, hdrop, hnone, rfl⟩
    obtain ⟨xs, tail, hwritten, hmunched, rfl, htokens⟩ := scans_iff.1 hscans
    obtain rfl := (drop_behind hwritten).symm.trans hdrop
    rw [tokenize, ← hwritten, segment_of_munchedTo hmunched (winner_eq_none_iff.2 hnone)]
    simp only [htokens]

theorem scans_of_tooManyDigits {fault : TooManyDigits}
    (h : tokenize source = .error (.tooManyDigits fault)) :
    ∃ p found x rest, Scans source.text.toList p found ∧
      source.text.toList.drop p.offset = x.chars ++ rest ∧ Munched x rest ∧
      (x.place p).token? = .error fault := by
  obtain ⟨xs, hwritten, hlexemes, -, hmunched, -⟩ := segment_munched source.text.toList .origin
  simp only [tokenize] at h
  split at h
  · next fault' htokens =>
      cases h
      rw [hlexemes] at htokens
      obtain ⟨ys, x, zs, us, rfl, hys, hx⟩ := exists_piece_of_fault htokens
      obtain ⟨hfront, -⟩ := munchedTo_append.1 hmunched
      rw [written_append, List.append_assoc] at hwritten
      refine ⟨behind .origin ys, us, x, _, scans_iff.2 ⟨ys, _, hwritten, hfront, rfl, hys⟩, ?_,
        hmunched ys x zs rfl, hx⟩
      rw [drop_behind hwritten, written_cons, List.append_assoc]
  · cases h
  · cases h

/-- A character with which no rule begins a lexeme is a quote only if nothing closes it. -/
theorem not_closes_of_noLexeme {c : Char} {rest : List Char} (h : NoLexeme (c :: rest))
    (hc : c = '"' ∨ c = '\'') : ¬ Closes c rest := by
  have hescape : c ≠ '\\' := by
    rcases hc with rfl | rfl <;> decide
  have hleads := Rule.leads_winner (c :: rest)
  rw [winner_eq_none_iff.2 h] at hleads
  have hreach : Rule.stringLength (c :: rest) = 0 := hleads .string (Rule.mem_all _)
  rw [closes_iff hescape]
  rw [Rule.stringLength_cons, if_pos hc] at hreach
  cases hclosing : Rule.closingLength c rest with
  | none => simp
  | some n => rw [hclosing] at hreach; cases hreach

theorem message_strayCharacter (source : Source) (p : Position) (c : Char) :
    (strayCharacter source p c).message = "Unterminated string literal" ↔ c = '"' ∨ c = '\'' := by
  have hother (s : String) : "Unexpected character " ++ s ≠ "Unterminated string literal" := by
    intro h
    have htext := congrArg (fun s => s.toList.take 3) h
    simp only [String.toList_append] at htext
    rw [List.take_append_of_le_length (by decide)] at htext
    exact absurd htext (by decide)
  simp only [strayCharacter, Diagnostic.message, Bool.or_eq_true, beq_iff_eq]
  split
  · next hc => exact ⟨fun _ => hc, fun _ => rfl⟩
  · next hc => exact ⟨fun h => absurd h (hother (Text.quoted _)), fun h => absurd h hc⟩

end Stopping

/-- A source is refused where scanning it comes to no end. -/
structure Stopped (source : Source) (d : Diagnostic) (p : Position) (found : List Token) : Prop where
  /-- Scanning comes to the position, with the tokens found in front of it. -/
  reached : Scans source.text.toList p found
  /-- The report of the scanner is on one character there. -/
  reported : d.stage = .scanning ∧ ∃ loc, d.location = some loc ∧ loc.source = source ∧
    loc.offset = p.offset ∧ loc.length = 1
  /-- There is such a character. -/
  inside : p.offset < source.text.toList.length
  /-- What is in front has exactly the tokens found. -/
  before : ∀ part : Source, part.text.toList = source.text.toList.take p.offset →
    tokenize part = .ok found
  /-- No rule has a lexeme there. -/
  stuck : NoLexeme (source.text.toList.drop p.offset)
  /-- The words tell a quote that nothing closes from other characters. -/
  worded : d.message = "Unterminated string literal" ↔
    ∃ quote rest, source.text.toList.drop p.offset = quote :: rest ∧
      (quote = '"' ∨ quote = '\'') ∧ ¬ Closes quote rest

/-- **Scanning is local at the boundaries of lexemes.**  The text between two of them by
itself has the tokens that scanning the whole found there, moved to the front, however the
scanning went on; and a source that is refused is refused at a boundary. -/
theorem scanning_is_local (source : Source) :
    (∀ tokens, tokenize source = .ok tokens ↔
      ∃ p, Scans source.text.toList p tokens ∧ p.offset = source.text.toList.length) ∧
    (∀ a b c before upTo found, Scans source.text.toList a before →
      Scans source.text.toList b upTo → Scans source.text.toList c found →
      a.offset ≤ b.offset → b.offset ≤ c.offset →
      ∀ part : Source, part.text.toList = (source.text.toList.take b.offset).drop a.offset →
        ∃ us, tokenize part = .ok us ∧
          us.map (Token.seenFrom a.offset) =
            (found.filter (Token.within a.offset b.offset)).map (Token.seenFrom 0)) ∧
    (∀ d, tokenize source = .error (.refused d) → ∃ p found, Stopped source d p found) ∧
    (∀ fault, tokenize source = .error (.tooManyDigits fault) →
      ∃ p found x rest, Scans source.text.toList p found ∧
        source.text.toList.drop p.offset = x.chars ++ rest ∧ Munched x rest ∧
        (x.place p).token? = .error fault) := by
  refine ⟨fun _ => tokenize_eq_ok_iff_scans, ?_, ?_, fun _ => scans_of_tooManyDigits⟩
  · intro a b c before upTo found ha hb hc hab hbc part hpart
    exact tokenize_between ha hb hc hab hbc hpart
  · intro d h
    obtain ⟨p, found, c, rest, hscans, hdrop, hnone, rfl⟩ := refused_iff_scans.1 h
    refine ⟨p, found, hscans, ⟨rfl, _, rfl, rfl, rfl, ?_⟩, ?_, fun part => tokenize_upTo hscans,
      hdrop ▸ hnone, ?_⟩
    · simp [Location.ofSpan, Span.length]
    · refine Nat.lt_of_not_le fun hle => ?_
      rw [List.drop_eq_nil_of_le hle] at hdrop
      cases hdrop
    · rw [message_strayCharacter, hdrop]
      constructor
      · intro hc
        exact ⟨c, rest, rfl, hc, not_closes_of_noLexeme hnone hc⟩
      · rintro ⟨quote, rest', heq, hquote, -⟩
        cases heq
        exact hquote

/-- A decimal that ends with its point, a string with an escaped quote, an operator that
begins with another, and a quote behind which the only other quote is escaped. -/
def halfQuoted : Source := { text := "1. \"\\\"\"=>'\\'" }

/-- The tokens in front of the open quote. -/
def halfQuotedTokens : List Token :=
  [⟨.literal (.float (Lexeme.floatValue ['1', '.'])), "1.", inFirstLine 0 2⟩,
   ⟨.literal (.text "\""), "\"\\\"\"", inFirstLine 3 4⟩, ⟨.operator "=>", "=>", inFirstLine 7 2⟩]

theorem halfQuoted_local :
    tokenize halfQuoted = .error (.refused (strayCharacter halfQuoted ⟨9, 1, 10⟩ '\'')) ∧
      (∃ p found, Stopped halfQuoted (strayCharacter halfQuoted ⟨9, 1, 10⟩ '\'') p found) ∧
      Scans halfQuoted.text.toList ⟨9, 1, 10⟩ halfQuotedTokens ∧
      ∃ us, tokenize { text := "\"\\\"\"" } = .ok us ∧
        us.map (Token.seenFrom 3) =
          (halfQuotedTokens.filter (Token.within 3 7)).map (Token.seenFrom 0) := by
  have hdecimal : Rule.winner halfQuoted.text.toList = some (.float, 2) := by decide +kernel
  have hblank : Rule.winner (halfQuoted.text.toList.drop 2) = some (.whitespace, 1) := by
    decide +kernel
  have hstring : Rule.winner (halfQuoted.text.toList.drop 3) = some (.string, 4) := by
    decide +kernel
  have harrow : Rule.winner (halfQuoted.text.toList.drop 7) = some (.operator, 2) := by
    decide +kernel
  have hstuck : Rule.winner (halfQuoted.text.toList.drop 9) = none := by decide +kernel
  have hfirst : Scans halfQuoted.text.toList ⟨2, 1, 3⟩ (halfQuotedTokens.take 1) :=
    Scans.start.step hdecimal rfl
  have ha : Scans halfQuoted.text.toList ⟨3, 1, 4⟩ (halfQuotedTokens.take 1) :=
    hfirst.step hblank rfl
  have hb : Scans halfQuoted.text.toList ⟨7, 1, 8⟩ (halfQuotedTokens.take 2) :=
    ha.step hstring rfl
  have hc : Scans halfQuoted.text.toList ⟨9, 1, 10⟩ halfQuotedTokens := hb.step harrow rfl
  have hrefused : tokenize halfQuoted =
      .error (.refused (strayCharacter halfQuoted ⟨9, 1, 10⟩ '\'')) :=
    refused_iff_scans.2
      ⟨_, _, _, ['\\', '\''], hc, by decide +kernel, winner_eq_none_iff.1 hstuck, rfl⟩
  obtain ⟨-, hlocal, hstopped, -⟩ := scanning_is_local halfQuoted
  exact ⟨hrefused, hstopped _ hrefused, hc,
    hlocal _ _ _ _ _ _ ha hb hc (by decide) (by decide) _ (by decide +kernel)⟩

end Scriptlet
