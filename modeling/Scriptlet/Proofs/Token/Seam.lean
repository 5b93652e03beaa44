/-
# Texts joined by a line feed

A line feed between two texts keeps their tokens apart.  No lexeme but a string
runs over it, and a string that is closed needs no character behind it; so what
was the longest lexeme at the end of a text still is when a line feed follows.
The one exception is a carriage return, which takes the line feed with it, and
neither of the two line ends is a token.
-/
import Scriptlet.Proofs.Token.DataText

namespace Scriptlet

namespace Rule

/-! ## A line feed behind a text -/

section LineFeed

variable {rule : Rule} {y : List Char} {n : Nat}

/-- A rule whose lexemes hold no line feed stops in front of one. -/
theorem reach_before_lineFeed (h : rule.pattern.mayHold '\n' = false) (y z : List Char) :
    rule.reach (y ++ '\n' :: z) = rule.reach y := by
  refine ((cautious_reach rule).append ?_).symm
  refine Nat.le_of_not_lt fun hlong => ?_
  have htaken := (longest_reach rule).takes (y ++ '\n' :: z) (by omega)
  have hheld : '\n' ∈ (y ++ '\n' :: z).take (rule.reach (y ++ '\n' :: z)) := by
    refine List.mem_take_iff_getElem.2 ⟨y.length, ?_, ?_⟩
    · rw [List.length_append, List.length_cons]
      omega
    · rw [List.getElem_append_right (Nat.le_refl _)]
      simp only [Nat.sub_self, List.getElem_cons_zero]
  rw [Text.Pattern.mayHold_of_mem htaken hheld] at h
  cases h

/-- A string that is closed stays as it is, whatever stands behind it. -/
theorem stringLength_append_of_closed (h : stringLength y ≠ 0) (z : List Char) :
    stringLength (y ++ z) = stringLength y := by
  have htaken := longest_stringLength.takes y h
  have hlength : (y.take (stringLength y)).length = stringLength y :=
    List.length_take_of_le (cautious_stringLength.le y)
  have hsame {quote : Char} (hquote : quote = '"' ∨ quote = '\'')
      (hin : y.take (stringLength y) ∈ (quotation quote).language) :
      stringLength (y ++ z) = stringLength y := by
    have hread := stringLength_of_quotation hquote hin (y.drop (stringLength y) ++ z)
    rwa [← List.append_assoc, List.take_append_drop, hlength] at hread
  rcases htaken with htaken | htaken
  · exact hsame (.inl rfl) htaken
  · exact hsame (.inr rfl) htaken

theorem reach_quote {c : Char} (hc : c = '"' ∨ c = '\'') (h : rule ≠ .string) (rest : List Char) :
    rule.reach (c :: rest) = 0 := by
  rcases hc with rfl | rfl <;> cases rule <;> first | rfl | exact absurd rfl h

/-- Where some rule applies, a quote at the front is one that is closed. -/
theorem stringLength_append (h : winner y = some (rule, n)) (z : List Char) :
    stringLength (y ++ z) = stringLength y := by
  obtain ⟨hpos, hreach, -, -⟩ := winner_eq_some_iff.1 h
  by_cases hclosed : stringLength y = 0
  · cases y with
    | nil =>
        have hnone := (cautious_reach rule).le []
        simp only [List.length_nil] at hnone
        omega
    | cons c rest =>
        by_cases hc : c = '"' ∨ c = '\''
        · by_cases hrule : rule = .string
          · subst hrule
            have hzero : n = 0 := hreach.symm.trans hclosed
            omega
          · rw [reach_quote hc hrule] at hreach
            omega
        · rw [List.cons_append, stringLength_cons, stringLength_cons, if_neg hc, if_neg hc]
  · exact stringLength_append_of_closed hclosed z

theorem newlineLength_before_lineFeed (hy : y ≠ []) (hlone : y ≠ ['\r']) (z : List Char) :
    newlineLength (y ++ '\n' :: z) = newlineLength y := by
  match y with
  | [] => exact absurd rfl hy
  | [c] =>
      have hc : ¬ (c = '\r' ∧ '\n' = '\n') := fun h => hlone (by rw [h.1])
      rw [List.singleton_append, newlineLength_cons_cons, newlineLength_single, if_neg hc]
  | c :: d :: rest =>
      rw [List.cons_append, List.cons_append, newlineLength_cons_cons, newlineLength_cons_cons]

/-- The longest lexeme at the front stays the longest when a line feed follows the text,
unless the text is a carriage return. -/
theorem winner_before_lineFeed (h : winner y = some (rule, n)) (hlone : y ≠ ['\r'])
    (z : List Char) : winner (y ++ '\n' :: z) = some (rule, n) := by
  have hy : y ≠ [] := by
    rintro rfl
    cases h
  have hreach (r : Rule) : r.reach (y ++ '\n' :: z) = r.reach y := by
    cases r with
    | string => exact stringLength_append h ('\n' :: z)
    | newline => exact newlineLength_before_lineFeed hy hlone z
    | _ => exact reach_before_lineFeed (by decide) y z
  have hfurther : further (y ++ '\n' :: z) = further y := by
    funext best r
    unfold further
    rw [hreach]
  rw [← h, winner, winner, hfurther]

end LineFeed

end Rule

/-! ## Pieces and tokens -/

section Joined

variable {xs ys : List Piece}

theorem Cut.chars_ne_nil {x : Piece} (h : Cut (x :: xs)) : x.chars ≠ [] := by
  cases h with
  | cons hwin _ =>
      have hpos := Rule.winner_pos hwin
      exact List.length_pos_iff.1 hpos

/-- A text that is a carriage return is one line end. -/
theorem Cut.eq_lone {x : Piece} (h : Cut (x :: xs)) (hlone : x.chars ++ written xs = ['\r']) :
    x = ⟨.newline, ['\r']⟩ ∧ xs = [] := by
  obtain ⟨rule, chars⟩ := x
  obtain ⟨rfl, hrest⟩ : chars = ['\r'] ∧ written xs = [] := by
    rcases List.append_eq_singleton_iff.1 hlone with ⟨hnil, -⟩ | h'
    · exact absurd hnil h.chars_ne_nil
    · exact h'
  cases h with
  | cons hwin hcut =>
      obtain rfl : xs = [] := by
        cases xs with
        | nil => rfl
        | cons y xs =>
            rw [written_cons] at hrest
            exact absurd (List.append_eq_nil_iff.1 hrest).1 hcut.chars_ne_nil
      cases hwin
      exact ⟨rfl, rfl⟩

theorem tokensOf_newline (chars : List Char) {q : Position} {us : List Token}
    (h : tokensOf (placed q ys) = .ok us) (p : Position) :
    ∃ ws, tokensOf (placed p (⟨.newline, chars⟩ :: ys)) = .ok ws ∧
      ws.map Token.content = us.map Token.content := by
  obtain ⟨ws, hws, hcontents⟩ := tokensOf_elsewhere h (p.advance chars)
  exact ⟨ws, tokensOf_cons_eq_ok.2 ⟨none, ws, rfl, hws, rfl⟩, hcontents⟩

/-- Pieces of two texts, with a line feed between the texts: one piece holds the line feed,
and the others are as they were. -/
theorem Cut.join (hxs : Cut xs) (hys : Cut ys) :
    ∃ zs, Cut zs ∧ written zs = written xs ++ '\n' :: written ys ∧
      ∀ {p q ts us}, tokensOf (placed p xs) = .ok ts → tokensOf (placed q ys) = .ok us →
        ∃ vs ws, tokensOf (placed p zs) = .ok (vs ++ ws) ∧
          vs.map Token.content = ts.map Token.content ∧
          ws.map Token.content = us.map Token.content := by
  induction hxs with
  | nil =>
      refine ⟨⟨.newline, ['\n']⟩ :: ys, .cons rfl hys, rfl, ?_⟩
      intro p q ts us hts hus
      cases hts
      obtain ⟨ws, hws, hcontents⟩ := tokensOf_newline ['\n'] hus p
      exact ⟨[], ws, hws, rfl, hcontents⟩
  | @cons x xs hwin hcut ih =>
      by_cases hlone : x.chars ++ written xs = ['\r']
      · -- The carriage return and the line feed are one line end.
        obtain ⟨rfl, rfl⟩ := (Cut.cons hwin hcut).eq_lone hlone
        refine ⟨⟨.newline, ['\r', '\n']⟩ :: ys, .cons rfl hys, rfl, ?_⟩
        intro p q ts us hts hus
        cases hts
        obtain ⟨ws, hws, hcontents⟩ := tokensOf_newline ['\r', '\n'] hus p
        exact ⟨[], ws, hws, rfl, hcontents⟩
      · obtain ⟨zs, hzs, hwritten, htokens⟩ := ih
        have hlonger := Rule.winner_before_lineFeed hwin hlone (written ys)
        refine ⟨x :: zs, .cons ?_ hzs, ?_, ?_⟩
        · rwa [hwritten, ← List.append_assoc]
        · rw [written_cons, written_cons, hwritten, List.append_assoc]
        · intro p q ts us hts hus
          obtain ⟨front, back, hfront, hback, rfl⟩ := tokensOf_cons_eq_ok.1 hts
          obtain ⟨vs, ws, hvs, hcontents, hcontents'⟩ := htokens hback hus
          refine ⟨front.toList ++ vs, ws, ?_, ?_, hcontents'⟩
          · rw [List.append_assoc]
            exact tokensOf_cons_eq_ok.2 ⟨front, vs ++ ws, hfront, hvs, rfl⟩
          · rw [List.map_append, List.map_append, hcontents]

end Joined

/-- **The tokens of two texts with a line feed between them** are those of the first and
then those of the second, in other places. -/
theorem tokenize_joined {a b c : Source} (hc : c.text = a.text ++ "\n" ++ b.text)
    {ts us : List Token} (ha : tokenize a = .ok ts) (hb : tokenize b = .ok us) :
    ∃ vs ws, tokenize c = .ok (vs ++ ws) ∧ vs.map Token.content = ts.map Token.content ∧
      ws.map Token.content = us.map Token.content := by
  obtain ⟨xs, hxs, hwrittena, hts⟩ := tokenize_eq_ok_iff.1 ha
  obtain ⟨ys, hys, hwrittenb, hus⟩ := tokenize_eq_ok_iff.1 hb
  obtain ⟨zs, hzs, hwritten, htokens⟩ := hxs.join hys
  obtain ⟨vs, ws, hvs, hcontents, hcontents'⟩ := htokens hts hus
  refine ⟨vs, ws, tokenize_eq_ok_iff.2 ⟨zs, hzs, ?_, hvs⟩, hcontents, hcontents'⟩
  rw [hwritten, hwrittena, hwrittenb, hc]
  simp

end Scriptlet
