/-
# The text of data as tokens

The text of data is cut into the lexemes it was put together from, whatever data it is
(`cut_pieces`): a name, a truth value or a number ends where a comma, a bracket or the end
of the text follows, a text ends with its closing quote because every quote and every
backslash inside it is escaped, and a bracket or a comma is a lexeme by itself.  The tokens
mean what was written (`means_pieces`): escapes stand for the characters they were written
for, and digits for the number.
-/
import Scriptlet.Proofs.Token.Lexemes
import Scriptlet.Proofs.Value.Data

namespace Scriptlet

/-- What may stand behind data in the text of a list. -/
inductive Behind : List Char → Prop
  | nil : Behind []
  | comma (rest : List Char) : Behind (',' :: rest)
  | bracket (rest : List Char) : Behind (']' :: rest)

namespace Rule

/-! ## Winners -/

section Winners

variable {text rest : List Char} {rule : Rule} {n : Nat}

theorem winner_of_only (hreach : rule.reach text = n) (hpos : 0 < n)
    (hothers : ∀ r : Rule, r ≠ rule → r.reach text = 0) : winner text = some (rule, n) := by
  refine winner_eq_some_iff.2 ⟨hpos, hreach, fun r => ?_, fun r hbefore => ?_⟩
  · by_cases hr : r = rule
    · rw [hr, hreach]
    · rw [hothers r hr]
      exact Nat.zero_le n
  · rw [hothers r fun hr => Nat.lt_irrefl _ (hr ▸ hbefore)]
    exact hpos

theorem runLength_behind {p : Char → Bool} (hcomma : p ',' = false) (hbracket : p ']' = false)
    (h : Behind rest) : runLength p rest = 0 := by
  cases h with
  | nil => rfl
  | comma rest => simp [runLength, hcomma]
  | bracket rest => simp [runLength, hbracket]

theorem winner_nothing (h : Behind rest) :
    winner (['n', 'o', 'n', 'e'] ++ rest) = some (.identifier, 4) := by
  cases h <;> rfl

theorem winner_true (h : Behind rest) :
    winner (['t', 'r', 'u', 'e'] ++ rest) = some (.boolean, 4) := by
  cases h <;> rfl

theorem winner_false (h : Behind rest) :
    winner (['f', 'a', 'l', 's', 'e'] ++ rest) = some (.boolean, 5) := by
  cases h <;> rfl

theorem winner_blank (h : ∀ c, rest.head? = some c → isInlineBlank c = false) :
    winner (' ' :: rest) = some (.whitespace, 1) := by
  have hrun : runLength isInlineBlank rest = 0 := by
    cases rest with
    | nil => rfl
    | cons c rest => simp [runLength, h c rfl]
  have hreach : runLength isInlineBlank (' ' :: rest) = 1 := by
    rw [runLength_cons, hrun]
    rfl
  refine winner_of_only hreach Nat.one_pos fun r hr => ?_
  cases r <;> first | rfl | exact absurd rfl hr

/-- The digits of decimal numbers. -/
def decimals : List Char := ['0', '1', '2', '3', '4', '5', '6', '7', '8', '9']

theorem mem_decimals {c : Char} (h : c.isDigit = true) : c ∈ decimals := by
  have hbounds : 48 ≤ c.toNat ∧ c.toNat ≤ 57 := by
    simpa [Char.isDigit, UInt32.le_iff_toNat_le] using h
  have hall : ∀ n, n < 58 → 48 ≤ n → Char.ofNat n ∈ decimals := by decide
  rw [← Char.ofNat_toNat c]
  exact hall c.toNat (Nat.lt_succ_of_le hbounds.2) hbounds.1

theorem of_isDigit (p : Char → Bool) (hp : decimals.all p = true) {c : Char}
    (hc : c.isDigit = true) : p c = true :=
  List.all_eq_true.1 hp c (mem_decimals hc)

theorem reach_decimal {c : Char} (hc : c ∈ decimals) {r : Rule} (hinteger : r ≠ .integer)
    (hfloat : r ≠ .float) (rest : List Char) : r.reach (c :: rest) = 0 := by
  simp only [decimals, List.mem_cons, List.not_mem_nil, or_false] at hc
  rcases hc with rfl | rfl | rfl | rfl | rfl | rfl | rfl | rfl | rfl | rfl <;> cases r <;>
    first | rfl | exact absurd rfl hinteger | exact absurd rfl hfloat

theorem winner_digits {digits : List Char} (hne : digits ≠ [])
    (hdigits : ∀ c ∈ digits, c.isDigit = true) (h : Behind rest) :
    winner (digits ++ rest) = some (.integer, digits.length) := by
  obtain ⟨c, more, rfl⟩ := List.exists_cons_of_ne_nil hne
  have hc := hdigits c (List.mem_cons_self ..)
  have hascii : Text.isAsciiDigit c = true := of_isDigit _ (by decide) hc
  have hpoint : (c != '.') = true := of_isDigit (· != '.') (by decide) hc
  have hinteger : integerLength (c :: more ++ rest) = (c :: more).length := by
    have hmore : ∀ c ∈ more, isDigitOrUnderscore c = true := fun c hc =>
      of_isDigit _ (by decide) (hdigits c (List.mem_cons_of_mem _ hc))
    rw [List.cons_append, integerLength, if_pos hascii, runLength_append hmore,
      runLength_behind rfl rfl h, List.length_cons]
    omega
  have hfloat : floatLength (c :: more ++ rest) = 0 := by
    have hfirst : ∀ g, pointLength g (c :: more ++ rest) = 0 := fun g =>
      pointLength_eq_zero (fun tail heq => bne_iff_ne.1 hpoint (List.cons.inj heq).1) g
    have hrest : ∀ g, pointLength g rest = 0 := by
      intro g
      cases h <;> rfl
    rw [floatLength_eq, inTurn, inTurn, hfirst, hinteger, List.drop_left, hrest]
    simp
  refine winner_of_only hinteger (Nat.succ_pos _) fun r hr => ?_
  by_cases hr' : r = .float
  · rw [hr']
    exact hfloat
  · exact reach_decimal (mem_decimals hc) hr hr' _

/-- A text in double quotes, in which every quote and every backslash is escaped. -/
theorem winner_quoted {body : List Char} (hbody : body ∈ (Text.Pattern.star (unit '"')).language)
    (rest : List Char) :
    winner ('"' :: (body ++ '"' :: rest)) = some (.string, body.length + 2) := by
  have hreach : stringLength ('"' :: (body ++ '"' :: rest)) = body.length + 2 := by
    rw [stringLength_cons, if_pos (.inl rfl), closingLength_of_units (by decide) hbody]
    rfl
  refine winner_of_only hreach (Nat.succ_pos _) fun r hr => ?_
  cases r <;> first | rfl | exact absurd rfl hr

end Winners

end Rule

/-! ## Quoted text -/

theorem quoteChar_mem_unit (c : Char) : Store.quoteChar c ∈ (Rule.unit '"').language := by
  have hescape : ∀ d, ['\\', d] ∈ (Rule.unit '"').language := fun d =>
    .inr (Text.Pattern.mem_one_seq.2 ⟨'\\', [d], rfl, ⟨d, rfl, rfl⟩, rfl⟩)
  unfold Store.quoteChar
  split
  · exact hescape _
  · next hbackslash =>
      split
      · exact hescape _
      · next hquote =>
          split
          · exact hescape _
          · split
            · exact hescape _
            · exact .inl ⟨c, by simp_all, rfl⟩

theorem quoted_mem_units (t : List Char) :
    t.flatMap Store.quoteChar ∈ (Text.Pattern.star (Rule.unit '"')).language := by
  induction t with
  | nil => exact Text.Pattern.nil_mem_star
  | cons c t ih => exact Text.Pattern.append_mem_star (quoteChar_mem_unit c) ih

namespace Lexeme

theorem unescape_cons {c : Char} (hc : c ≠ '\\') (rest : List Char) :
    unescape (c :: rest) = c :: unescape rest := by
  rw [unescape]
  rintro d more rfl
  exact absurd rfl hc

/-- Each escape stands for the character that it was written for. -/
theorem unescape_quoteChar (c : Char) (rest : List Char) :
    unescape (Store.quoteChar c ++ rest) = c :: unescape rest := by
  unfold Store.quoteChar
  split
  · next h => rw [beq_iff_eq.1 h]; rfl
  · next hbackslash =>
      split
      · next h => rw [beq_iff_eq.1 h]; rfl
      · split
        · next h => rw [beq_iff_eq.1 h]; rfl
        · split
          · next h => rw [beq_iff_eq.1 h]; rfl
          · exact unescape_cons (by simpa using hbackslash) rest

theorem unescape_quoted (t : List Char) : unescape (t.flatMap Store.quoteChar) = t := by
  induction t with
  | nil => rfl
  | cons c t ih => rw [List.flatMap_cons, unescape_quoteChar, ih]

end Lexeme

namespace Data

/-! ## Lexemes -/

section Cutting

variable {d : Data} {items : List Data} {rest : List Piece}

theorem piecesAll_cons (d : Data) (items : List Data) :
    ∃ more, piecesAll (d :: items) = d.pieces ++ more := by
  cases items with
  | nil => exact ⟨[], by rw [piecesAll, List.append_nil]⟩
  | cons e items => exact ⟨_, by rw [piecesAll]⟩

theorem chars_head (d : Data) :
    ∃ c more, d.chars = c :: more ∧ Rule.isInlineBlank c = false := by
  cases d with
  | nothing => exact ⟨_, _, rfl, rfl⟩
  | bool b => cases b <;> exact ⟨_, _, rfl, rfl⟩
  | int n =>
      obtain ⟨c, more, hdigits⟩ :=
        List.exists_cons_of_ne_nil (Nat.toDigits_ne_nil (n := n) (b := 10))
      have hc : c.isDigit = true :=
        Nat.isDigit_of_mem_toDigits (by decide) (by decide) (hdigits ▸ List.mem_cons_self ..)
      have hblank : (!Rule.isInlineBlank c) = true :=
        Rule.of_isDigit (fun c => !Rule.isInlineBlank c) (by decide) hc
      refine ⟨c, more, ?_, by simpa using hblank⟩
      simp [chars, pieces, written, hdigits]
  | text t => exact ⟨_, _, rfl, rfl⟩
  | list items => exact ⟨_, _, rfl, rfl⟩

theorem cut_separator (h : Cut (piecesAll (d :: items) ++ rest)) :
    Cut (separator ++ (piecesAll (d :: items) ++ rest)) := by
  refine .cons rfl (.cons (Rule.winner_blank ?_) h)
  intro c hc
  obtain ⟨more, hmore⟩ := piecesAll_cons d items
  obtain ⟨e, tail, hchars, hblank⟩ := chars_head d
  have hhead : (written (piecesAll (d :: items) ++ rest)).head? = some e := by
    rw [hmore, written_append, written_append, show written d.pieces = e :: tail from hchars]
    rfl
  obtain rfl : e = c := Option.some.inj (hhead.symm.trans hc)
  exact hblank

/-- Items with separators between them are cut into their lexemes if each item is. -/
theorem cut_piecesAll
    (hitems : ∀ d ∈ items, ∀ rest, Cut rest → Behind (written rest) → Cut (d.pieces ++ rest))
    (hrest : Cut rest) (hbehind : Behind (written rest)) : Cut (piecesAll items ++ rest) := by
  induction items with
  | nil => exact hrest
  | cons d items ih =>
      obtain ⟨hd, hitems⟩ := List.forall_mem_cons.1 hitems
      cases items with
      | nil =>
          rw [piecesAll]
          exact hd rest hrest hbehind
      | cons e items =>
          rw [piecesAll, List.append_assoc, List.append_assoc]
          exact hd _ (cut_separator (ih hitems)) (.comma _)

/-- **The text of data is cut into its lexemes**, whatever ends the data. -/
theorem cut_pieces (d : Data) :
    ∀ rest, Cut rest → Behind (written rest) → Cut (d.pieces ++ rest) := by
  induction d using Data.induct with
  | nothing =>
      intro rest hrest hbehind
      exact .cons (Rule.winner_nothing hbehind) hrest
  | bool b =>
      intro rest hrest hbehind
      cases b with
      | true => exact .cons (Rule.winner_true hbehind) hrest
      | false => exact .cons (Rule.winner_false hbehind) hrest
  | int n =>
      intro rest hrest hbehind
      refine .cons (Rule.winner_digits Nat.toDigits_ne_nil ?_ hbehind) hrest
      intro c hc
      exact Nat.isDigit_of_mem_toDigits (by decide) (by decide) hc
  | text t =>
      intro rest hrest _
      have hwinner := Rule.winner_quoted (quoted_mem_units t.toList) (written rest)
      generalize hbody : t.toList.flatMap Store.quoteChar = body at hwinner
      have htext : ('"' :: body ++ ['"']) ++ written rest =
          '"' :: (body ++ '"' :: written rest) := by
        simp
      have hlength : ('"' :: body ++ ['"']).length = body.length + 2 := by
        simp
      rw [← htext, ← hlength] at hwinner
      rw [pieces, hbody]
      exact .cons hwinner hrest
  | list items ih =>
      intro rest hrest _
      have hclose : Cut (⟨.operator, [']']⟩ :: rest) := .cons rfl hrest
      have hrow := cut_piecesAll ih hclose (.bracket _)
      rw [pieces, List.cons_append, List.append_assoc]
      exact .cons rfl hrow

end Cutting

/-! ## Meanings -/

mutual

/-- The meanings of the tokens of data. -/
def contents : Data → List Content
  | nothing => [.identifier "none"]
  | bool b => [.literal (.boolean b)]
  | int n => [.literal (.integer n)]
  | text t => [.literal (.text t)]
  | list items => .operator "[" :: (contentsAll items ++ [.operator "]"])

/-- The meanings of items with commas between them. -/
def contentsAll : List Data → List Content
  | [] => []
  | [d] => contents d
  | d :: e :: rest => contents d ++ .operator "," :: contentsAll (e :: rest)

end

end Data

/-- Wherever they stand, the pieces have tokens with these meanings. -/
def Means (xs : List Piece) (cs : List Content) : Prop :=
  ∀ p, ∃ ts, tokensOf (placed p xs) = .ok ts ∧ ts.map Token.content = cs

section Meanings

variable {xs ys : List Piece} {cs ds : List Content}

theorem means_nil : Means [] [] := fun _ => ⟨[], rfl, rfl⟩

theorem Means.token {x : Piece} {c : Content} (hx : ∀ p, (x.place p).content = .ok (some c))
    (h : Means xs cs) : Means (x :: xs) (c :: cs) := by
  intro p
  obtain ⟨ts, hts, rfl⟩ := h (p.advance x.chars)
  have htoken : (x.place p).token? =
      .ok (some ⟨c, String.ofList x.chars, (x.place p).span⟩) := by
    rw [Lexeme.token?, hx]
    rfl
  exact ⟨_, tokensOf_cons_eq_ok.2 ⟨_, ts, htoken, hts, rfl⟩, rfl⟩

theorem Means.skipped {x : Piece} (hx : ∀ p, (x.place p).content = .ok none) (h : Means xs cs) :
    Means (x :: xs) cs := by
  intro p
  obtain ⟨ts, hts, rfl⟩ := h (p.advance x.chars)
  have htoken : (x.place p).token? = .ok none := by
    rw [Lexeme.token?, hx]
    rfl
  exact ⟨ts, tokensOf_cons_eq_ok.2 ⟨_, ts, htoken, hts, rfl⟩, rfl⟩

theorem tokensOf_append {p : Position} {us ws : List Token} (hxs : tokensOf (placed p xs) = .ok us)
    (hys : tokensOf (placed (behind p xs) ys) = .ok ws) :
    tokensOf (placed p (xs ++ ys)) = .ok (us ++ ws) := by
  induction xs generalizing p us with
  | nil =>
      cases hxs
      exact hys
  | cons x xs ih =>
      obtain ⟨front, back, hfront, hback, rfl⟩ := tokensOf_cons_eq_ok.1 hxs
      exact tokensOf_cons_eq_ok.2 ⟨front, back ++ ws, hfront, ih hback hys, List.append_assoc _ _ _⟩

theorem Means.append (h : Means xs cs) (h' : Means ys ds) : Means (xs ++ ys) (cs ++ ds) := by
  intro p
  obtain ⟨us, hus, rfl⟩ := h p
  obtain ⟨ws, hws, rfl⟩ := h' (behind p xs)
  exact ⟨us ++ ws, tokensOf_append hus hws, List.map_append⟩

theorem digitsValue_toDigits (n : Nat) : Decimal.digitsValue (Nat.toDigits 10 n) = n := by
  -- no character is skipped, since all of them are digits
  have hfold : ∀ (digits : List Char) (m : Nat), (∀ c ∈ digits, c.isDigit = true) →
      digits.foldl (fun n c => if c.isDigit then 10 * n + (c.toNat - '0'.toNat) else n) m =
        Nat.ofDigitChars 10 digits m := by
    intro digits
    induction digits with
    | nil => intro m _; rfl
    | cons c digits ih =>
        intro m h
        obtain ⟨hc, hdigits⟩ := List.forall_mem_cons.1 h
        rw [List.foldl_cons, if_pos hc, ih _ hdigits]
        rfl
  rw [Decimal.digitsValue,
    hfold _ 0 fun c hc => Nat.isDigit_of_mem_toDigits (by decide) (by decide) hc]
  exact Nat.ofDigitChars_toDigits (by decide) (by decide)

/-- The digits of a number are those that it is written with. -/
theorem digits_toDigits (n : Nat) : Lexeme.digits (Nat.toDigits 10 n) = Nat.toDigits 10 n := by
  refine List.filter_eq_self.2 fun c hc => ?_
  have hdigit : c.isDigit = true := Nat.isDigit_of_mem_toDigits (by decide) (by decide) hc
  exact Rule.of_isDigit (· != '_') (by decide) hdigit

namespace Data

theorem means_piecesAll {items : List Data} (hitems : ∀ d ∈ items, Means d.pieces d.contents) :
    Means (piecesAll items) (contentsAll items) := by
  induction items with
  | nil => exact means_nil
  | cons d items ih =>
      obtain ⟨hd, hitems⟩ := List.forall_mem_cons.1 hitems
      cases items with
      | nil =>
          rw [piecesAll, contentsAll]
          exact hd
      | cons e items =>
          have hcomma : Means (separator ++ piecesAll (e :: items))
              (.operator "," :: contentsAll (e :: items)) :=
            .token (fun _ => rfl) (.skipped (fun _ => rfl) (ih hitems))
          rw [piecesAll, contentsAll]
          exact hd.append hcomma

theorem inside_quoted (body : List Char) : Lexeme.inside ('"' :: body ++ ['"']) = body := by
  simp [Lexeme.inside]

/-- **The tokens of the text of data mean the data.** -/
theorem means_pieces {d : Data} (hshort : d.Short) : Means d.pieces d.contents := by
  induction d using Data.induct with
  | nothing =>
      rw [pieces, contents]
      exact .token (fun _ => rfl) means_nil
  | bool b =>
      cases b with
      | true =>
          rw [pieces, contents]
          exact .token (fun _ => rfl) means_nil
      | false =>
          rw [pieces, contents]
          exact .token (fun _ => rfl) means_nil
  | int n =>
      cases hshort with
      | int hdigits =>
          rw [pieces, contents]
          refine .token (fun p => ?_) means_nil
          simp only [Piece.place, Lexeme.content, digits_toDigits, digitsValue_toDigits,
            Nat.not_lt.2 hdigits, if_false]
  | text t =>
      rw [pieces, contents]
      refine .token (fun p => ?_) means_nil
      simp only [Piece.place, Lexeme.content, inside_quoted, Lexeme.unescape_quoted,
        String.ofList_toList]
  | list items ih =>
      cases hshort with
      | list hshort =>
          have hrow := means_piecesAll fun d hd => ih d hd (hshort d hd)
          have hclose : Means [⟨.operator, [']']⟩] [.operator "]"] :=
            .token (fun _ => rfl) means_nil
          rw [pieces, contents]
          exact .token (fun _ => rfl) (hrow.append hclose)

/-- The text of data has tokens, and they mean the data. -/
theorem tokenize_chars {d : Data} (hshort : d.Short) {source : Source}
    (htext : source.text = String.ofList d.chars) :
    ∃ tokens, tokenize source = .ok tokens ∧ tokens.map Token.content = d.contents := by
  obtain ⟨tokens, htokens, hcontents⟩ := means_pieces hshort .origin
  have hcut : Cut d.pieces := by
    have h := cut_pieces d [] .nil .nil
    rwa [List.append_nil] at h
  refine ⟨tokens, tokenize_eq_ok_iff.2 ⟨d.pieces, hcut, ?_, htokens⟩, hcontents⟩
  rw [htext, String.toList_ofList]
  rfl

end Data

end Meanings

end Scriptlet
