/-
# Strings unit by unit

Between its quotes a string is a row of units: characters that are neither its quote nor a
backslash, and backslashes with the character that each of them takes.  A string literal is
one token, whose value is what its units stand for, and each string token is one literal
only (`strings_by_units`).

## Two walks

Two walks go over such a row, and neither knows of the other.

    one finds where the string ends      it skips what a backslash takes
    one replaces the escapes             it maps what a backslash takes

Were they to cut a run of backslashes and quotes into different units, a string could end
behind a quote that the other walk takes for escaped.  They do not: both are given by the
units (`flatMap_mem_units`, `unescape_flatMap`), and a row of characters is made up of units
in one way only (`flatMap_chars_inj`).

## Both directions

A literal that stands anywhere in a text, at a boundary, is read as that literal, whatever
stands behind it.  In return, a token whose value is a text came of exactly one literal, for
the characters of a literal tell its quote and its units (`chars_inj`).
-/
import Scriptlet.Proofs.Token.Boundaries
import Scriptlet.Proofs.Token.Seam

namespace Scriptlet

/-! ## Literals -/

/-- The quotes that strings stand in. -/
inductive Quote where
  | double
  | single
  deriving DecidableEq

def Quote.char : Quote → Char
  | double => '"'
  | single => '\''

/-- The letters that stand for another character behind a backslash. -/
def escapeLetters : List (Char × Char) :=
  [('n', '\n'), ('t', '\t'), ('r', '\r'), ('0', '\x00')]

/-- What stands between two quotes of one kind. -/
inductive StringUnit (quote : Quote) where
  | plain (c : Char) (h : c ≠ quote.char ∧ c ≠ '\\')
  /-- A backslash with the character that it takes, whatever that is. -/
  | escape (c : Char)

namespace StringUnit

variable {quote : Quote}

/-- The unit as it is written. -/
def chars : StringUnit quote → List Char
  | plain c _ => [c]
  | escape c => ['\\', c]

/-- The character that the unit stands for. -/
def meaning : StringUnit quote → Char
  | plain c _ => c
  | escape c => (escapeLetters.lookup c).getD c

end StringUnit

/-- A string as it is written: units between two quotes of one kind. -/
structure StringLiteral where
  quote : Quote
  units : List (StringUnit quote)

namespace StringLiteral

def chars (x : StringLiteral) : List Char :=
  x.quote.char :: (x.units.flatMap StringUnit.chars ++ [x.quote.char])

/-- The text that a literal stands for. -/
def text (x : StringLiteral) : String := String.ofList (x.units.map StringUnit.meaning)

/-- The token of a literal that begins at a position. -/
def token (x : StringLiteral) (p : Position) : Token :=
  ⟨.literal (.text x.text), String.ofList x.chars, ⟨p, p.advance x.chars⟩⟩

end StringLiteral

/-! ## Two walks over the units -/

section Units

variable {quote : Quote} {units more : List (StringUnit quote)}

theorem Quote.char_eq (quote : Quote) : quote.char = '"' ∨ quote.char = '\'' := by
  cases quote with
  | double => exact .inl rfl
  | single => exact .inr rfl

theorem Quote.char_inj {a b : Quote} (h : a.char = b.char) : a = b := by
  cases a with
  | double =>
      cases b with
      | double => rfl
      | single => cases h
  | single =>
      cases b with
      | double => cases h
      | single => rfl

theorem chars_mem_unit (u : StringUnit quote) : u.chars ∈ (Rule.unit quote.char).language := by
  cases u with
  | plain c h => exact .inl ⟨c, by simpa using h, rfl⟩
  | escape c => exact .inr (Text.Pattern.mem_one_seq.2 ⟨'\\', [c], rfl, ⟨c, rfl, rfl⟩, rfl⟩)

theorem flatMap_mem_units (units : List (StringUnit quote)) :
    units.flatMap StringUnit.chars ∈ (Text.Pattern.star (Rule.unit quote.char)).language := by
  induction units with
  | nil => exact Text.Pattern.nil_mem_star
  | cons u units ih => exact Text.Pattern.append_mem_star (chars_mem_unit u) ih

/-- What the pattern of a string allows between the quotes is a row of units. -/
theorem exists_units {body : List Char}
    (h : body ∈ (Text.Pattern.star (Rule.unit quote.char)).language) :
    ∃ units : List (StringUnit quote), body = units.flatMap StringUnit.chars := by
  refine Text.Pattern.star_induction (P := fun body =>
    ∃ units : List (StringUnit quote), body = units.flatMap StringUnit.chars) h ⟨[], rfl⟩ ?_
  rintro one rest hone - ⟨units, rfl⟩
  rcases hone with ⟨c, hc, rfl⟩ | hescape
  · simp only [Bool.and_eq_true, bne_iff_ne] at hc
    exact ⟨.plain c hc :: units, rfl⟩
  · obtain ⟨c, t, hc, ⟨d, -, rfl⟩, rfl⟩ := Text.Pattern.mem_one_seq.1 hescape
    rw [beq_iff_eq.1 hc]
    exact ⟨.escape d :: units, rfl⟩

theorem unescapeChar_eq (c : Char) :
    Lexeme.unescapeChar c = (escapeLetters.lookup c).getD c := by
  by_cases hn : c = 'n'
  · rw [hn]; rfl
  by_cases ht : c = 't'
  · rw [ht]; rfl
  by_cases hr : c = 'r'
  · rw [hr]; rfl
  by_cases hzero : c = '0'
  · rw [hzero]; rfl
  simp only [Lexeme.unescapeChar, escapeLetters, List.lookup_cons, List.lookup_nil,
    beq_false_of_ne hn, beq_false_of_ne ht, beq_false_of_ne hr, beq_false_of_ne hzero]
  rfl

theorem unescape_flatMap (units : List (StringUnit quote)) :
    Lexeme.unescape (units.flatMap StringUnit.chars) = units.map StringUnit.meaning := by
  induction units with
  | nil => rfl
  | cons u units ih =>
      cases u with
      | plain c h =>
          show Lexeme.unescape (c :: units.flatMap StringUnit.chars) = _
          rw [Lexeme.unescape_cons h.2, ih]
          rfl
      | escape c =>
          show Lexeme.unescape ('\\' :: c :: units.flatMap StringUnit.chars) = _
          rw [Lexeme.unescape, ih, unescapeChar_eq]
          rfl

/-- A row of characters is a row of units in one way only: a backslash takes the next
character, and nothing else does. -/
theorem flatMap_chars_inj (h : units.flatMap StringUnit.chars = more.flatMap StringUnit.chars) :
    units = more := by
  induction units generalizing more with
  | nil =>
      cases more with
      | nil => rfl
      | cons v more => cases v <;> cases h
  | cons u units ih =>
      cases more with
      | nil => cases u <;> cases h
      | cons v more =>
          cases u with
          | plain c hc =>
              cases v with
              | plain d hd =>
                  obtain ⟨rfl, hrest⟩ := List.cons.inj h
                  rw [ih hrest]
              | escape d => exact absurd (List.cons.inj h).1 hc.2
          | escape c =>
              cases v with
              | plain d hd => exact absurd (List.cons.inj h).1.symm hd.2
              | escape d =>
                  obtain ⟨rfl, hrest⟩ := List.cons.inj (List.cons.inj h).2
                  rw [ih hrest]

end Units

/-! ## Literals and tokens -/

namespace StringLiteral

variable {x y : StringLiteral}

theorem chars_inj (h : x.chars = y.chars) : x = y := by
  obtain ⟨quote, units⟩ := x
  obtain ⟨quote', units'⟩ := y
  obtain ⟨hquote, hrest⟩ := List.cons.inj h
  obtain rfl : quote = quote' := Quote.char_inj hquote
  obtain rfl : units = units' := flatMap_chars_inj (List.append_cancel_right hrest)
  rfl

theorem token_inj {p q : Position} (h : x.token p = y.token q) : x = y := by
  have hlexeme : String.ofList x.chars = String.ofList y.chars := congrArg Token.lexeme h
  exact chars_inj (String.ofList_injective hlexeme)

theorem winner_chars (x : StringLiteral) (rest : List Char) :
    Rule.winner (x.chars ++ rest) = some (.string, x.chars.length) := by
  have hmem : x.chars ∈ (Rule.quotation x.quote.char).language :=
    Text.Pattern.mem_one_seq.2 ⟨x.quote.char, _, beq_self_eq_true _, Text.Pattern.mem_seq.2
      ⟨_, flatMap_mem_units x.units, _, ⟨x.quote.char, beq_self_eq_true _, rfl⟩, rfl⟩, rfl⟩
  have hreach := Rule.stringLength_of_quotation x.quote.char_eq hmem rest
  refine Rule.winner_of_only hreach (Nat.succ_pos _) fun r hr => ?_
  exact Rule.reach_quote x.quote.char_eq hr _

theorem token?_chars (x : StringLiteral) (p : Position) :
    (Piece.place ⟨.string, x.chars⟩ p).token? = .ok (some (x.token p)) := by
  have hinside : Lexeme.inside x.chars = x.units.flatMap StringUnit.chars := by
    simp [Lexeme.inside, chars]
  have hcontent : (Piece.place ⟨.string, x.chars⟩ p).content =
      .ok (some (.literal (.text x.text))) := by
    simp only [Piece.place, Lexeme.content, hinside, unescape_flatMap, text]
  rw [Lexeme.token?, hcontent]
  rfl

end StringLiteral

theorem exists_literal {chars : List Char} (h : chars ∈ (Rule.pattern .string).language) :
    ∃ x : StringLiteral, chars = x.chars := by
  have hquoted (quote : Quote) (h : chars ∈ (Rule.quotation quote.char).language) :
      ∃ x : StringLiteral, chars = x.chars := by
    obtain ⟨c, t, hc, ht, rfl⟩ := Text.Pattern.mem_one_seq.1 h
    obtain ⟨body, hbody, _, ⟨d, hd, rfl⟩, rfl⟩ := Text.Pattern.mem_seq.1 ht
    obtain ⟨units, rfl⟩ := exists_units hbody
    rw [beq_iff_eq.1 hc, beq_iff_eq.1 hd]
    exact ⟨⟨quote, units⟩, rfl⟩
  rcases h with h | h
  · exact hquoted .double h
  · exact hquoted .single h

/-- Only the rule for strings makes tokens whose value is a text. -/
theorem rule_of_text {lexeme : Lexeme} {t : Token} {text : String}
    (h : lexeme.token? = .ok (some t)) (htext : t.content = .literal (.text text)) :
    lexeme.rule = .string := by
  unfold Lexeme.token? at h
  cases hcontent : lexeme.content with
  | error fault => rw [hcontent] at h; cases h
  | ok meaning =>
      rw [hcontent] at h
      cases meaning with
      | none => cases h
      | some content =>
          cases h
          obtain rfl : content = .literal (.text text) := htext
          unfold Lexeme.content at hcontent
          cases hrule : lexeme.rule with
          | string => rfl
          | integer =>
              simp only [hrule] at hcontent
              split at hcontent <;> cases hcontent
          | _ => rw [hrule] at hcontent; cases hcontent

/-- Every token whose value is a text is that of a literal. -/
theorem exists_literal_of_token {source : Source} {tokens : List Token} {t : Token}
    {text : String} (h : tokenize source = .ok tokens) (ht : t ∈ tokens)
    (htext : t.content = .literal (.text text)) :
    ∃ x : StringLiteral, t = x.token t.span.start := by
  obtain ⟨xs, hcut, -, htokens⟩ := tokenize_eq_ok_iff.1 h
  obtain ⟨us, ws, rfl⟩ := List.append_of_mem ht
  obtain ⟨front, piece, back, rfl, -, hpiece, -⟩ := exists_piece_of_token htokens
  obtain ⟨rule, chars⟩ := piece
  obtain rfl : rule = .string := rule_of_text hpiece htext
  obtain ⟨x, rfl⟩ := exists_literal (cut_iff_munched.1 hcut front _ back rfl).fits
  rw [x.token?_chars] at hpiece
  cases hpiece
  exact ⟨x, rfl⟩

/-- What scanning finds on its way is where the tokens of the source begin. -/
theorem Scans.prefix_tokens {source : Source} {p : Position} {found tokens : List Token}
    (h : Scans source.text.toList p found) (htokens : tokenize source = .ok tokens) :
    found <+: tokens := by
  obtain ⟨xs, rest, hwritten, hmunched, -, hfound⟩ := scans_iff.1 h
  obtain ⟨q, hscans, hend⟩ := tokenize_eq_ok_iff_scans.1 htokens
  obtain ⟨ys, rest', hwritten', hmunched', rfl, hall⟩ := scans_iff.1 hscans
  have hle : (written xs).length ≤ (written ys).length := by
    rw [offset_behind, ← hwritten] at hend
    simp only [Position.origin, List.length_append] at hend
    omega
  obtain ⟨zs, rfl⟩ := hmunched.prefix_of_le hmunched' (hwritten.trans hwritten'.symm) hle
  obtain ⟨us, ws, hus, -, rfl⟩ := tokensOf_append_iff.1 hall
  rw [hfound] at hus
  cases hus
  exact List.prefix_append ..

/-- **String literals decode unit by unit.**  Wherever scanning comes upon a literal, it
takes exactly that literal, whatever stands behind it, for one token whose value is what
the units stand for; and every token whose value is a text is that of exactly one
literal. -/
theorem strings_by_units (source : Source) :
    (∀ (x : StringLiteral) (p : Position) (found : List Token) (rest : List Char),
      Scans source.text.toList p found → source.text.toList.drop p.offset = x.chars ++ rest →
      Scans source.text.toList (p.advance x.chars) (found ++ [x.token p]) ∧
        ∀ tokens, tokenize source = .ok tokens → found ++ [x.token p] <+: tokens) ∧
    (∀ tokens, tokenize source = .ok tokens → ∀ t ∈ tokens, ∀ text,
      t.content = .literal (.text text) → ∃! x : StringLiteral, t = x.token t.span.start) := by
  constructor
  · intro x p found rest hscans hdrop
    have hwinner : Rule.winner (source.text.toList.drop p.offset) =
        some (.string, x.chars.length) := by
      rw [hdrop]
      exact x.winner_chars rest
    have hchars : (source.text.toList.drop p.offset).take x.chars.length = x.chars := by
      rw [hdrop, List.take_left]
    have htoken : (Piece.place
        ⟨.string, (source.text.toList.drop p.offset).take x.chars.length⟩ p).token? =
        .ok (some (x.token p)) := by
      rw [hchars]
      exact x.token?_chars p
    have hstep := hscans.step hwinner htoken
    rw [hchars] at hstep
    exact ⟨hstep, fun tokens htokens => hstep.prefix_tokens htokens⟩
  · intro tokens htokens t ht text htext
    obtain ⟨x, hx⟩ := exists_literal_of_token htokens ht htext
    refine ⟨x, hx, fun y hy => ?_⟩
    exact StringLiteral.token_inj (hy.symm.trans hx)

/-- An escaped backslash, an escaped quote and an escaped letter in double quotes, and an
escaped backslash in single ones with a name right behind them. -/
def slashes : Source := { text := "\"\\\\\\\"\\n\" '\\\\'x" }

/-- The first literal of `slashes`. -/
def doubleSlashes : StringLiteral := ⟨.double, [.escape '\\', .escape '"', .escape 'n']⟩

/-- The second literal of `slashes`. -/
def singleSlashes : StringLiteral := ⟨.single, [.escape '\\']⟩

def slashesTokens : List Token :=
  [doubleSlashes.token .origin, singleSlashes.token ⟨9, 1, 10⟩,
   ⟨.identifier "x", "x", inFirstLine 13 1⟩]

theorem slashes_by_units :
    doubleSlashes.text = "\\\"\n" ∧ tokenize slashes = .ok slashesTokens ∧
      Scans slashes.text.toList ⟨8, 1, 9⟩ [doubleSlashes.token .origin] ∧
      ∀ t ∈ slashesTokens, ∀ text, t.content = .literal (.text text) →
        ∃! x : StringLiteral, t = x.token t.span.start := by
  have htokens : tokenize slashes = .ok slashesTokens :=
    tokenize_eq_ok_iff.2 ⟨[⟨.string, doubleSlashes.chars⟩, ⟨.whitespace, [' ']⟩,
      ⟨.string, singleSlashes.chars⟩, ⟨.identifier, ['x']⟩], by decide +kernel, by decide +kernel,
      rfl⟩
  obtain ⟨hscans, hunique⟩ := strings_by_units slashes
  have hfirst := hscans doubleSlashes .origin [] [' ', '\'', '\\', '\\', '\'', 'x'] .start
    (by decide +kernel)
  exact ⟨rfl, htokens, hfirst.1, hunique _ htokens⟩

end Scriptlet
