/-
# A rule reaches as far as its language allows

Each lexical rule stands for a regular pattern, and the pattern for a set of texts.
How far the rule reaches in a text is found by looking for the first word of a list
that is there, or by running over characters of some kind, and never by trying all
lengths.  Still it is the length of the longest text of that set at the front of the
text (`longest_reach`): no word of a list begins with an earlier one, and whatever a
run is followed by does not belong to the run.

The winner of all rules is therefore the longest lexeme that any of the patterns
allows, and of several rules that allow it the first (`winner_eq_some_iff`).
-/
import Scriptlet.Proofs.Text.Language
import Scriptlet.Proofs.Token.Munch

namespace Scriptlet

open Text (Pattern)

namespace Rule

/-! ## Patterns -/

def digit : Pattern := .one Text.isAsciiDigit

/-- Digits and underscores, or nothing. -/
def digits : Pattern := .star (.one isDigitOrUnderscore)

def point : Pattern := .one (· == '.')

/-- What may stand between quotes: a character that is neither the quote nor a
backslash, or a backslash and any character. -/
def unit (quote : Char) : Pattern :=
  .alt (.one fun c => c != quote && c != '\\') (.seq (.one (· == '\\')) (.one fun _ => true))

/-- Units up to a quote. -/
def closing (quote : Char) : Pattern := .seq (.star (unit quote)) (.one (· == quote))

/-- Units between two quotes. -/
def quotation (quote : Char) : Pattern := .seq (.one (· == quote)) (closing quote)

/-- The line ends; the pair comes before its first half. -/
def lineEnds : List String := ["\r\n", "\r", "\n"]

def pattern : Rule → Pattern
  | boolean => .words ["true", "false"]
  | float => .alt (.seq (.seq digit digits) (.seq point digits)) (.seq point (.seq digit digits))
  | integer => .seq digit digits
  | string => .alt (quotation '"') (quotation '\'')
  | comment => .seq (.one (· == '#')) (.star (.one fun c => !Text.isLineEnd c))
  | identifier =>
    .seq (.alt (.one fun c => Text.isWordChar c && !Text.isDecimalDigit c) (.one (· == '$')))
      (.star (.alt (.one Text.isWordChar) (.one (· == '$'))))
  | operator => .words operators
  | newline => .words lineEnds
  | whitespace => .plus (.one fun c => Text.isBlank c && !Text.isLineEnd c)

/-! ## Lengths that are the longest -/

/-- The length is that of the longest text of the language at the front, and zero
where there is none. -/
structure Longest (L : Language Char) (f : List Char → Nat) : Prop where
  takes (text : List Char) : f text ≠ 0 → text.take (f text) ∈ L
  bounds (y z : List Char) : y ∈ L → y.length ≤ f (y ++ z)

section Lengths

variable {L M : Language Char} {f g : List Char → Nat} {p : Char → Bool}

theorem Longest.takes_of_nil (h : Longest L f) (hnil : [] ∈ L) (text : List Char) :
    text.take (f text) ∈ L := by
  by_cases hzero : f text = 0
  · rw [hzero, List.take_zero]
    exact hnil
  · exact h.takes text hzero

theorem Longest.max (hf : Longest L f) (hg : Longest M g) :
    Longest (L + M) fun text => Max.max (f text) (g text) where
  takes text hne := by
    rcases Nat.le_total (f text) (g text) with hle | hle
    · rw [Nat.max_eq_right hle] at hne ⊢
      exact .inr (hg.takes text hne)
    · rw [Nat.max_eq_left hle] at hne ⊢
      exact .inl (hf.takes text hne)
  bounds y z hy := by
    rcases hy with hy | hy
    · exact Nat.le_trans (hf.bounds y z hy) (Nat.le_max_left _ _)
    · exact Nat.le_trans (hg.bounds y z hy) (Nat.le_max_right _ _)

/-- The longest of two languages in a row, where what belongs to the first ends where
its longest does as soon as something of the second follows. -/
theorem longest_inTurn (hf : Longest L f) (hg : Longest M g) (hgnil : [] ∉ M)
    (hends : ∀ y z rest, y ∈ L → z ∈ M → f (y ++ (z ++ rest)) = y.length) (hfnil : [] ∉ L) :
    Longest (L * M) (inTurn f g) where
  takes text hne := by
    unfold inTurn at hne ⊢
    split at hne
    · exact absurd rfl hne
    · next hboth =>
        obtain ⟨hfne, hgne⟩ := not_or.1 hboth
        rw [if_neg hboth, List.take_add]
        exact Language.mem_mul.2 ⟨_, hf.takes text hfne, _, hg.takes _ hgne, rfl⟩
  bounds y z hy := by
    obtain ⟨y, hL, w, hM, rfl⟩ := Language.mem_mul.1 hy
    have hreach : f (y ++ (w ++ z)) = y.length := hends y w z hL hM
    have hrest : w.length ≤ g (w ++ z) := hg.bounds w z hM
    have hy : y ≠ [] := fun h => hfnil (h ▸ hL)
    have hw : w ≠ [] := fun h => hgnil (h ▸ hM)
    have hylen := List.length_pos_iff.2 hy
    have hwlen := List.length_pos_iff.2 hw
    unfold inTurn
    rw [List.append_assoc, hreach, List.drop_left, if_neg (by omega), List.length_append]
    omega

end Lengths

/-! ## Runs -/

section Runs

variable {p q : Char → Bool} {f g : List Char → Nat} {r : Pattern}

theorem runLength_append {y : List Char} (h : ∀ c ∈ y, p c = true) (z : List Char) :
    runLength p (y ++ z) = y.length + runLength p z := by
  unfold runLength
  rw [List.takeWhile_append_of_pos h, List.length_append]

theorem runLength_cons (p : Char → Bool) (c : Char) (rest : List Char) :
    runLength p (c :: rest) = if p c then 1 + runLength p rest else 0 := by
  unfold runLength
  rw [List.takeWhile_cons]
  split
  · rw [List.length_cons, Nat.add_comm]
  · rfl

theorem longest_runLength (p : Char → Bool) :
    Longest (Pattern.star (.one p)).language (runLength p) where
  takes text _ := by
    have hfront : text.take (runLength p text) = text.takeWhile p :=
      (List.prefix_iff_eq_take.1 (List.takeWhile_prefix p)).symm
    rw [hfront]
    exact Pattern.mem_star_one.2 fun c hc => List.all_eq_true.1 List.all_takeWhile c hc
  bounds y z hy := by
    rw [runLength_append (Pattern.mem_star_one.1 hy)]
    exact Nat.le_add_right _ _

/-- A first character of some kind, and the longest behind it. -/
theorem longest_of_cons (hnil : f [] = 0)
    (hcons : ∀ c rest, f (c :: rest) = if p c then 1 + g rest else 0)
    (hg : Longest r.language g) (hr : [] ∈ r.language) :
    Longest (Pattern.seq (.one p) r).language f where
  takes text hne := by
    cases text with
    | nil => exact absurd hnil hne
    | cons c rest =>
        rw [hcons] at hne ⊢
        split at hne
        · next hc =>
            rw [if_pos hc, Nat.add_comm, List.take_succ_cons]
            exact Pattern.mem_one_seq.2 ⟨c, _, hc, hg.takes_of_nil hr rest, rfl⟩
        · exact absurd rfl hne
  bounds y z hy := by
    obtain ⟨c, t, hc, ht, rfl⟩ := Pattern.mem_one_seq.1 hy
    have hrest := hg.bounds t z ht
    rw [List.cons_append, hcons, if_pos hc, List.length_cons]
    omega

theorem longest_integerLength : Longest (Pattern.seq digit digits).language integerLength :=
  longest_of_cons rfl (fun _ _ => rfl) (longest_runLength _) Pattern.nil_mem_star

theorem longest_commentLength : Longest (pattern comment).language commentLength :=
  longest_of_cons rfl commentLength_cons (longest_runLength _) Pattern.nil_mem_star

theorem longest_whitespace : Longest (pattern whitespace).language (runLength isInlineBlank) :=
  longest_of_cons rfl (runLength_cons _) (longest_runLength _) Pattern.nil_mem_star

theorem language_alt_one (p q : Char → Bool) :
    (Pattern.alt (.one p) (.one q)).language = (Pattern.one fun c => p c || q c).language := by
  ext s
  simp only [Pattern.mem_alt, Pattern.mem_one, Bool.or_eq_true]
  constructor
  · rintro (⟨c, hc, rfl⟩ | ⟨c, hc, rfl⟩)
    · exact ⟨c, .inl hc, rfl⟩
    · exact ⟨c, .inr hc, rfl⟩
  · rintro ⟨c, hc | hc, rfl⟩
    · exact .inl ⟨c, hc, rfl⟩
    · exact .inr ⟨c, hc, rfl⟩

theorem longest_identifierLength : Longest (pattern identifier).language identifierLength := by
  have hlanguage : (pattern identifier).language =
      (Pattern.seq (.one isNameStart) (.star (.one isNamePart))).language := by
    have hstart := language_alt_one
      (fun c => Text.isWordChar c && !Text.isDecimalDigit c) (· == '$')
    have hpart := language_alt_one Text.isWordChar (· == '$')
    simp only [Bool.or_comm _ (_ == '$')] at hstart hpart
    simp only [pattern, Pattern.language] at hstart hpart ⊢
    rw [hstart, hpart]
    rfl
  rw [hlanguage]
  exact longest_of_cons rfl (fun _ _ => rfl) (longest_runLength _) Pattern.nil_mem_star

end Runs

/-! ## Words -/

/-- The first word of a list is the longest if none begins with an earlier one. -/
theorem longest_firstWordLength {words : List String}
    (h : words.Pairwise fun a b => ¬ a.toList <+: b.toList) :
    Longest (Pattern.words words).language (firstWordLength words) := by
  induction words with
  | nil => exact ⟨fun _ hne => absurd rfl hne, fun _ _ hy => hy.elim⟩
  | cons word words ih =>
      obtain ⟨hword, hwords⟩ := List.pairwise_cons.1 h
      have hrest := ih hwords
      refine ⟨fun text hne => ?_, fun y z hy => ?_⟩
      · rw [firstWordLength_cons] at hne ⊢
        split at hne
        · next hfirst =>
            rw [if_pos hfirst, ← String.length_toList, ← List.prefix_iff_eq_take.1 hfirst]
            exact .inl (Pattern.mem_word.2 rfl)
        · next hfirst =>
            rw [if_neg hfirst]
            exact .inr (hrest.takes text hne)
      · rw [firstWordLength_cons]
        rcases hy with hy | hy
        · rw [Pattern.mem_word.1 hy, if_pos (List.prefix_append _ z), String.length_toList]
        · split
          · next hfirst =>
              -- the word is not shorter, or else the text would begin with both
              obtain ⟨other, hother, rfl⟩ := Pattern.mem_words.1 hy
              refine Nat.le_of_not_lt fun hlt => hword other hother ?_
              refine List.prefix_of_prefix_length_le hfirst (List.prefix_append _ z) ?_
              rw [String.length_toList]
              exact Nat.le_of_lt hlt
          · exact hrest.bounds y z hy

theorem newlineLength_eq (text : List Char) :
    newlineLength text = firstWordLength lineEnds text := by
  have hwords : firstWordLength lineEnds text =
      if ['\r', '\n'] <+: text then 2
      else if ['\r'] <+: text then 1 else if ['\n'] <+: text then 1 else 0 := by
    simp only [lineEnds, firstWordLength_cons]
    rfl
  rw [hwords]
  match text with
  | [] => rfl
  | [c] =>
      rw [newlineLength_single]
      simp only [List.cons_prefix_cons, List.prefix_nil, and_true]
      grind [Text.isLineEnd]
  | c :: d :: rest =>
      rw [newlineLength_cons_cons]
      simp only [List.cons_prefix_cons, List.nil_prefix, and_true]
      grind [Text.isLineEnd]

/-! ## Decimals with a point -/

theorem nil_notMem_of_nullable {r : Pattern} (h : r.nullable = false) : [] ∉ r.language := by
  rw [← Pattern.nullable_iff, h]
  exact Bool.false_ne_true

theorem longest_floatLength : Longest (pattern float).language floatLength := by
  have hpoint : Longest point.language (pointLength fun _ => 0) := by
    have hone : Longest (Pattern.seq point .empty).language (pointLength fun _ => 0) :=
      longest_of_cons rfl (pointLength_cons _)
        ⟨fun _ hne => absurd rfl hne,
          fun y z hy => by rw [Pattern.mem_empty.1 hy]; exact Nat.le_refl 0⟩
        (Pattern.mem_empty.2 rfl)
    exact (mul_one point.language) ▸ hone
  have hfraction : Longest (Pattern.seq point digits).language
      (pointLength (runLength isDigitOrUnderscore)) :=
    longest_of_cons rfl (pointLength_cons _) (longest_runLength _) Pattern.nil_mem_star
  have hleft : Longest (Pattern.seq (.seq digit digits) (.seq point digits)).language
      (inTurn integerLength (pointLength (runLength isDigitOrUnderscore))) := by
    refine longest_inTurn longest_integerLength hfraction ?_ ?_ (nil_notMem_of_nullable rfl)
    · exact nil_notMem_of_nullable rfl
    · intro y z rest hy hz
      obtain ⟨c, t, hc, ht, rfl⟩ := Pattern.mem_one_seq.1 hy
      obtain ⟨d, w, hd, -, rfl⟩ := Pattern.mem_one_seq.1 hz
      rw [beq_iff_eq.1 hd]
      have hrun := runLength_append (Pattern.mem_star_one.1 ht) ('.' :: (w ++ rest))
      have hstop : runLength isDigitOrUnderscore ('.' :: (w ++ rest)) = 0 := rfl
      rw [List.cons_append, List.cons_append, integerLength, if_pos hc, hrun, hstop]
      simp only [List.length_cons]
      omega
  have hright : Longest (Pattern.seq point (.seq digit digits)).language
      (inTurn (pointLength fun _ => 0) integerLength) := by
    refine longest_inTurn hpoint longest_integerLength ?_ ?_ (nil_notMem_of_nullable rfl)
    · exact nil_notMem_of_nullable rfl
    · rintro y z rest ⟨c, hc, rfl⟩ -
      rw [beq_iff_eq.1 hc]
      rfl
  have hlength : floatLength = fun text =>
      Max.max (inTurn integerLength (pointLength (runLength isDigitOrUnderscore)) text)
        (inTurn (pointLength fun _ => 0) integerLength text) := by
    funext text
    rw [floatLength_eq, Nat.max_comm]
  rw [hlength]
  exact hleft.max hright

/-! ## Strings -/

section Strings

variable {quote : Char}

theorem closingLength_of_units {body : List Char} (hquote : quote ≠ '\\')
    (h : body ∈ (Pattern.star (unit quote)).language) (rest : List Char) :
    closingLength quote (body ++ quote :: rest) = some (body.length + 1) := by
  refine Pattern.star_induction (P := fun body =>
    closingLength quote (body ++ quote :: rest) = some (body.length + 1)) h ?_ ?_
  · rw [List.nil_append, closingLength_cons_of_ne hquote, if_pos (beq_self_eq_true quote)]
    rfl
  · intro one more hone _ ih
    rcases hone with ⟨c, hc, rfl⟩ | hescape
    · simp only [Bool.and_eq_true, bne_iff_ne, ne_eq] at hc
      rw [List.append_assoc, List.singleton_append, closingLength_cons_of_ne hc.2,
        if_neg (by simpa using hc.1), ih]
      simp
    · obtain ⟨c, t, hc, ⟨d, -, rfl⟩, rfl⟩ := Pattern.mem_one_seq.1 hescape
      rw [beq_iff_eq.1 hc]
      show closingLength quote ('\\' :: d :: (more ++ quote :: rest)) = _
      rw [closingLength, ih]
      simp

theorem units_of_closingLength {text : List Char} {n : Nat}
    (h : closingLength quote text = some n) : text.take n ∈ (closing quote).language := by
  have hunit : ∀ one more : List Char, one ∈ (unit quote).language →
      more ∈ (closing quote).language → one ++ more ∈ (closing quote).language := by
    intro one more hone hmore
    obtain ⟨units, hunits, last, hlast, rfl⟩ := Pattern.mem_seq.1 hmore
    rw [← List.append_assoc]
    exact Pattern.mem_seq.2 ⟨_, Pattern.append_mem_star hone hunits, last, hlast, rfl⟩
  fun_induction closingLength quote text generalizing n with
  | case1 => cases h
  | case2 => cases h
  | case3 c rest ih =>
      obtain ⟨m, hm, rfl⟩ := Option.map_eq_some_iff.1 h
      have hescape : ['\\', c] ∈ (unit quote).language :=
        .inr (Pattern.mem_one_seq.2 ⟨'\\', [c], rfl, ⟨c, rfl, rfl⟩, rfl⟩)
      exact hunit ['\\', c] _ hescape (ih hm)
  | case4 c rest hlone hescape hquote =>
      cases h
      rw [List.take_succ_cons, List.take_zero]
      exact Pattern.mem_seq.2 ⟨[], Pattern.nil_mem_star, [c], ⟨c, hquote, rfl⟩, rfl⟩
  | case5 c rest hlone hescape hquote ih =>
      obtain ⟨m, hm, rfl⟩ := Option.map_eq_some_iff.1 h
      have hplain : [c] ∈ (unit quote).language := by
        refine .inl ⟨c, ?_, rfl⟩
        simp only [Bool.and_eq_true, bne_iff_ne]
        exact ⟨by simpa using hquote, ne_escape hlone hescape⟩
      exact hunit [c] _ hplain (ih hm)

theorem stringLength_of_quotation {y : List Char} (hquote : quote = '"' ∨ quote = '\'')
    (h : y ∈ (quotation quote).language) (rest : List Char) :
    stringLength (y ++ rest) = y.length := by
  have hne : quote ≠ '\\' := by
    rcases hquote with rfl | rfl <;> decide
  obtain ⟨c, t, hc, ht, rfl⟩ := Pattern.mem_one_seq.1 h
  obtain ⟨units, hunits, _, ⟨d, hd, rfl⟩, rfl⟩ := Pattern.mem_seq.1 ht
  rw [beq_iff_eq.1 hc, beq_iff_eq.1 hd]
  rw [List.cons_append, List.append_assoc, List.singleton_append, stringLength_cons, if_pos hquote,
    closingLength_of_units hne hunits]
  simp

theorem longest_stringLength : Longest (pattern string).language stringLength where
  takes text hne := by
    cases text with
    | nil => exact absurd rfl hne
    | cons c rest =>
        rw [stringLength_cons] at hne ⊢
        split at hne
        · next hquote =>
            rw [if_pos hquote]
            cases hclosing : closingLength c rest with
            | none => rw [hclosing] at hne; exact absurd rfl hne
            | some n =>
                have hmem : c :: rest.take n ∈ (quotation c).language :=
                  Pattern.mem_one_seq.2
                    ⟨c, _, beq_self_eq_true c, units_of_closingLength hclosing, rfl⟩
                rcases hquote with rfl | rfl
                · exact .inl hmem
                · exact .inr hmem
        · exact absurd rfl hne
  bounds y z hy := by
    rcases hy with hy | hy
    · exact Nat.le_of_eq (stringLength_of_quotation (.inl rfl) hy z).symm
    · exact Nat.le_of_eq (stringLength_of_quotation (.inr rfl) hy z).symm

end Strings

/-! ## Rules -/

/-- **A rule reaches as far as its language allows.** -/
theorem longest_reach (rule : Rule) : Longest rule.pattern.language rule.reach := by
  cases rule with
  | boolean => exact longest_firstWordLength (by decide)
  | float => exact longest_floatLength
  | integer => exact longest_integerLength
  | string => exact longest_stringLength
  | comment => exact longest_commentLength
  | identifier => exact longest_identifierLength
  | operator => exact longest_firstWordLength (by decide)
  | newline =>
      have hwords : reach newline = firstWordLength lineEnds := funext newlineLength_eq
      rw [hwords]
      exact longest_firstWordLength (by decide)
  | whitespace => exact longest_whitespace

/-! ## The winner -/

/-- The first rule is declared before the second. -/
def Before (r rule : Rule) : Prop := all.idxOf r < all.idxOf rule

instance (r rule : Rule) : Decidable (Before r rule) :=
  inferInstanceAs (Decidable (all.idxOf r < all.idxOf rule))

section Winner

variable {text : List Char} {rule : Rule} {n : Nat}

/-- Where there is a leader among the rules, the rules in front of it fall short of it. -/
def Ahead (text : List Char) (rules : List Rule) (best : Option (Rule × Nat)) : Prop :=
  ∀ rule n, best = some (rule, n) →
    ∃ front back, rules = front ++ rule :: back ∧ ∀ r ∈ front, r.reach text < n

theorem ahead_further {rules : List Rule} {best : Option (Rule × Nat)}
    (hleads : Leads text rules best) (h : Ahead text rules best) (rule : Rule) :
    Ahead text (rules ++ [rule]) (further text best rule) := by
  intro winner n hwinner
  unfold further at hwinner
  cases best with
  | none =>
      simp only [Option.ite_none_right_eq_some, Option.some.injEq, Prod.mk.injEq] at hwinner
      obtain ⟨hpos, rfl, rfl⟩ := hwinner
      exact ⟨rules, [], rfl, fun r hr => by rw [hleads r hr]; exact hpos⟩
  | some best =>
      obtain ⟨leader, m⟩ := best
      simp only at hwinner
      split at hwinner
      · next hlt =>
          cases hwinner
          exact ⟨rules, [], rfl, fun r hr => Nat.lt_of_le_of_lt (hleads.2 r hr) hlt⟩
      · cases hwinner
        obtain ⟨front, back, rfl, hfront⟩ := h winner n rfl
        exact ⟨front, back ++ [rule], by simp, hfront⟩

theorem ahead_winner (text : List Char) : Ahead text all (winner text) := by
  have hfold : ∀ (rules tried : List Rule) (best : Option (Rule × Nat)),
      Leads text tried best → Ahead text tried best →
        Ahead text (tried ++ rules) (rules.foldl (further text) best) := by
    intro rules
    induction rules with
    | nil =>
        intro tried best _ h
        rw [List.append_nil]
        exact h
    | cons rule rules ih =>
        intro tried best hleads h
        rw [List.append_cons]
        exact ih _ _ (leads_further hleads rule) (ahead_further hleads h rule)
  exact hfold all [] none (fun r hr => by cases hr) nofun

theorem reach_lt_of_before {r : Rule} (h : winner text = some (rule, n)) (hbefore : Before r rule) :
    r.reach text < n := by
  obtain ⟨front, back, hall, hfront⟩ := ahead_winner text rule n h
  have hreach : rule.reach text = n := by
    have hleads := leads_winner text
    rw [h] at hleads
    exact hleads.1
  have hrule : rule ∉ front := fun hmem => by
    have := hfront rule hmem
    omega
  refine hfront r (Decidable.byContradiction fun hr => ?_)
  unfold Before at hbefore
  rw [hall, List.idxOf_append_of_notMem hr, List.idxOf_append_of_notMem hrule,
    List.idxOf_cons_self] at hbefore
  omega

/-- The winner reaches furthest of all rules, and further than those before it. -/
theorem winner_eq_some_iff :
    winner text = some (rule, n) ↔
      0 < n ∧ rule.reach text = n ∧ (∀ r : Rule, r.reach text ≤ n) ∧
        ∀ r : Rule, Before r rule → r.reach text < n := by
  have hleads := leads_winner text
  constructor
  · intro h
    rw [h] at hleads
    exact ⟨winner_pos h, hleads.1, fun r => hleads.2 r (mem_all r),
      fun r hr => reach_lt_of_before h hr⟩
  · rintro ⟨hpos, hreach, hmost, hfirst⟩
    cases hwinner : winner text with
    | none =>
        rw [hwinner] at hleads
        have := hleads rule (mem_all rule)
        omega
    | some best =>
        obtain ⟨leader, m⟩ := best
        rw [hwinner] at hleads
        have hleader := hleads.2 rule (mem_all rule)
        have hm := hmost leader
        rw [hleads.1] at hm
        obtain rfl : m = n := by omega
        have hnot : ¬ Before leader rule := fun hbefore => by
          have := hfirst leader hbefore
          rw [hleads.1] at this
          omega
        have hnot' : ¬ Before rule leader := fun hbefore => by
          have := reach_lt_of_before hwinner hbefore
          omega
        unfold Before at hnot hnot'
        have hsame : leader = rule := (List.idxOf_inj (mem_all leader)).1 (by omega)
        rw [hsame]

end Winner

end Rule

end Scriptlet
