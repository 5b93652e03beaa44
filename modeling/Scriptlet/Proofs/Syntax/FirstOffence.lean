/-
# Errors are reported at the first token that offends

A diagnostic of the parser points at one token of the input, or at its end.  What
stands in front of that place can be completed to an input that is accepted, and
with the token itself no input is: the place is the first at which anything is
wrong, and one token of look-ahead was enough to see it (`error_at_first_offence`).

## How

Three facts meet here.

* A parse ends as reading forward does (`Diagnosis`): with the tree that the readers take,
  or at the token at which they stop.
* What was taken up to the stop is the beginning of a phrase (`Coverage`).
* Nothing behind the stop was looked at (`Reader.Local`), so that with any other tokens
  there reading stops again.

The first two give the completion, the first and the last that there is none with the token
itself.  The parser accepts what the grammar derives (`Acceptance`), which has no limit on
nesting; so what is true at one limit is true at all of them.  Programs and expressions go
through the same argument, which is made once for both (`Decides`).

## What is not said

Nothing is said of inputs that are refused for their nesting.  There need not be anything
wrong with them: a higher limit may accept them.
-/
import Scriptlet.Proofs.Syntax.Coverage
import Scriptlet.Proofs.Syntax.Diagnosis

namespace Scriptlet

open Grammar
open Scriptlet.Parser
open Forward (Verdict Reader Unfinished)

/-- The answer is a tree. -/
def Accepted (answer : Except Diagnostic Node) : Prop := ∃ node, answer = .ok node

/-- The place of a token, and behind the last token the end of the source. -/
def placeOfToken (source : Source) (tokens : List Token) (k : Nat) : Location :=
  match tokens[k]? with
  | some token => .ofSpan source token.span
  | none => .atEnd source

/-- Up to token `k` the input can be completed to one that is accepted, wherever the
limit on nesting leaves room for that; and whatever stands behind token `k`, the
input is not accepted with it. -/
structure FirstOffence (parse : Nat → List Token → Except Diagnostic Node)
    (tokens : List Token) (k : Nat) : Prop where
  le : k ≤ tokens.length
  viable : ∃ us, ∀ nesting,
    Accepted (parse nesting (tokens.take k ++ us)) ∨
      Exhausted (parse nesting (tokens.take k ++ us)) ∧ nesting ≤ (tokens.take k ++ us).length
  offends : k < tokens.length → ∀ us nesting,
    ¬ Accepted (parse nesting (tokens.take (k + 1) ++ us))

/-- The token behind a front part of the input is the first of what is left. -/
theorem placeOfToken_append (source : Source) (us rest : List Token) :
    placeOfToken source (us ++ rest) us.length =
      .ofSpan source ((Input.ofTokens source []).placeOf rest.head?) := by
  unfold placeOfToken
  cases rest with
  | nil => rw [List.append_nil, List.getElem?_length]; rfl
  | cons t rest =>
      rw [List.getElem?_append_right (Nat.le_refl _), Nat.sub_self]
      rfl

/-! ## One argument for programs and expressions -/

/-- Some tokens with the given contents. -/
def tokensWith (contents : List Content) : List Token :=
  contents.map fun content => ⟨content, "", default⟩

theorem contents_tokensWith (contents : List Content) :
    (tokensWith contents).map Token.content = contents := by
  simp [tokensWith, Function.comp_def]

/-- At every limit on nesting the answers are those of the grammar, or the input is
nested too deeply for the limit. -/
def Decides (parse : Nat → List Token → Except Diagnostic Node)
    (Phrase : List Content → Shape → Prop) : Prop :=
  ∀ nesting ts, (Exhausted (parse nesting ts) ∧ nesting ≤ ts.length) ∨
    ∀ p, Yields (parse nesting ts) p ↔ Phrase (ts.map Token.content) p

section Reported

variable {parse : Nat → List Token → Except Diagnostic Node}
  {Phrase : List Content → Shape → Prop} {nesting : Nat} {ts : List Token} {d : Diagnostic}

/-- What the grammar derives is accepted, if there is room for it. -/
theorem Decides.accepted (h : Decides parse Phrase) {p : Shape}
    (hp : Phrase (ts.map Token.content) p) (nesting : Nat) :
    Accepted (parse nesting ts) ∨ Exhausted (parse nesting ts) ∧ nesting ≤ ts.length := by
  rcases h nesting ts with hdeep | hiff
  · exact .inr hdeep
  · obtain ⟨node, hok, -⟩ := (hiff p).2 hp
    exact .inl ⟨node, hok⟩

/-- An input that is refused at one limit, and not for its depth, is accepted at none. -/
theorem Decides.not_accepted (h : Decides parse Phrase) (herror : parse nesting ts = .error d)
    (hcause : d.cause ≠ .nestedTooDeeply) (other : Nat) : ¬ Accepted (parse other ts) := by
  rintro ⟨node, hok⟩
  have hphrase : Phrase (ts.map Token.content) node.shape := by
    rcases h other ts with ⟨hdeep, -⟩ | hiff
    · rw [hok] at hdeep
      exact hdeep.elim
    · exact (hiff _).1 ⟨node, hok, rfl⟩
  rcases h nesting ts with ⟨hdeep, -⟩ | hiff
  · rw [herror] at hdeep
    exact hcause hdeep
  · obtain ⟨node', hok', -⟩ := (hiff _).2 hphrase
    rw [herror] at hok'
    cases hok'

/-- The first offence, from what was taken and what was left when reading stopped. -/
theorem Decides.firstOffence (h : Decides parse Phrase) {us rest : List Token}
    (hviable : Unfinished Phrase us)
    (hoffends : ∀ t, rest.head? = some t → ∀ vs,
      ∃ nesting d, parse nesting (us ++ t :: vs) = .error d ∧ d.cause ≠ .nestedTooDeeply) :
    FirstOffence parse (us ++ rest) us.length where
  le := by rw [List.length_append]; omega
  viable := by
    obtain ⟨cs, p, hp⟩ := hviable
    have hcontents : ((us ++ rest).take us.length ++ tokensWith cs).map Token.content =
        us.map Token.content ++ cs := by
      rw [List.take_left, List.map_append, contents_tokensWith]
    exact ⟨tokensWith cs, h.accepted (hcontents ▸ hp)⟩
  offends := by
    intro hlt vs limit
    cases rest with
    | nil => simp at hlt
    | cons t rest =>
        obtain ⟨nesting, d, herror, hcause⟩ := hoffends t rfl vs
        have hfront : (us ++ t :: rest).take (us.length + 1) ++ vs = us ++ t :: vs := by
          rw [List.take_length_add_append]
          simp
        rw [hfront]
        exact h.not_accepted herror hcause limit

variable {source : Source} {q : Reader Node}

/-- A diagnostic points at the first offence: where a reader that is local stops, and
what it has left when it does not stop. -/
theorem Decides.reported (h : Decides parse Phrase)
    (hforward : ∀ ts, parse nesting ts = (Input.ofTokens source []).answer (q ts))
    (hlocal : q.Local)
    (htakes : q.Takes (fun us node => Phrase (us.map Token.content) node.shape)
      (Unfinished Phrase))
    (herror : parse nesting ts = .error d) (hcause : d.cause ≠ .nestedTooDeeply) :
    ∃ k, FirstOffence parse ts k ∧ d.location = some (placeOfToken source ts k) := by
  have htook := htakes ts
  have hanswer := (hforward ts).symm.trans herror
  cases hq : q ts with
  | ok node rest =>
      rw [hq] at htook hanswer
      obtain ⟨us, rfl, hnode⟩ := htook
      cases rest with
      | nil => cases hanswer
      | cons t rest =>
          cases hanswer
          refine ⟨us.length, h.firstOffence ⟨[], node.shape, by simpa using hnode⟩ ?_, ?_⟩
          · intro t' ht' vs
            cases ht'
            obtain ⟨us', heq, hagain⟩ := hlocal.ok hq
            obtain rfl := List.append_cancel_right heq
            refine ⟨nesting, _, ?_, hcause⟩
            rw [hforward, hagain (t :: vs) rfl]
            rfl
          · rw [placeOfToken_append]
            rfl
  | stop cause rest =>
      rw [hq] at htook hanswer
      obtain ⟨us, rfl, hviable⟩ := htook
      cases hanswer
      refine ⟨us.length, h.firstOffence hviable ?_, ?_⟩
      · intro t ht vs
        obtain ⟨us', heq, hagain⟩ := hlocal.stop hq
        obtain rfl := List.append_cancel_right heq
        refine ⟨nesting, _, ?_, hcause⟩
        rw [hforward, hagain (t :: vs) (by rw [ht]; rfl), ht]
        rfl
      · rw [placeOfToken_append]
        rfl
  | deep rest =>
      rw [hq] at hanswer
      cases hanswer
      exact (hcause rfl).elim

end Reported

/-! ## Programs and expressions -/

section Whole

variable {nesting : Nat} {source : Source} {tokens : List Token} {d : Diagnostic}

theorem programWithin_reported (herror : programWithin nesting source tokens = .error d)
    (hcause : d.cause ≠ .nestedTooDeeply) :
    ∃ k, FirstOffence (programWithin · source ·) tokens k ∧
      d.location = some (placeOfToken source tokens k) := by
  have hdecides : Decides (programWithin · source ·) Whole :=
    fun nesting ts => programWithin_answer nesting source ts
  refine hdecides.reported
    (fun ts => wholeProgram_eq { Input.ofTokens source ts with nesting := nesting })
    (Forward.local_program _ (Forward.advances_exprUpTo _ _)) ?_ herror hcause
  refine (Forward.takes_program _ (Forward.takes_exprUpTo _ _)).mono
    (fun _ _ htaken => htaken.derives) ?_
  rintro us ⟨cs, ps, hps⟩
  exact ⟨cs, .statements ps, .program hps⟩

theorem expressionWithin_reported (herror : expressionWithin nesting source tokens = .error d)
    (hcause : d.cause ≠ .nestedTooDeeply) :
    ∃ k, FirstOffence (expressionWithin · source ·) tokens k ∧
      d.location = some (placeOfToken source tokens k) := by
  have hdecides : Decides (expressionWithin · source ·) Expr :=
    fun nesting ts => expressionWithin_answer nesting source ts
  exact hdecides.reported
    (fun ts => wholeExpression_eq { Input.ofTokens source ts with nesting := nesting })
    (Forward.advances_exprUpTo _ _).toLocal
    ((Forward.takes_exprUpTo _ _).mono (fun _ _ hcovers => hcovers.derives) fun _ h => h)
    herror hcause

end Whole

/-- **Errors are reported at the first token that offends.**  Where an input is
refused, and not because it is nested too deeply, the diagnostic points at some token
`k` or, with `k` the number of tokens, at the end of the source.  The tokens in front
of `k` can be completed to an input that is accepted, and no input that begins with
them and token `k` is accepted, at any limit on nesting. -/
theorem error_at_first_offence (source : Source) (tokens : List Token) (d : Diagnostic)
    (hcause : d.cause ≠ .nestedTooDeeply) :
    (parseProgram source tokens = .error d →
      ∃ k, FirstOffence (programWithin · source ·) tokens k ∧
        d.location = some (placeOfToken source tokens k)) ∧
    (parseExpression source tokens = .error d →
      ∃ k, FirstOffence (expressionWithin · source ·) tokens k ∧
        d.location = some (placeOfToken source tokens k)) ∧
    ∀ nesting,
      (programWithin nesting source tokens = .error d →
        ∃ k, FirstOffence (programWithin · source ·) tokens k ∧
          d.location = some (placeOfToken source tokens k)) ∧
      (expressionWithin nesting source tokens = .error d →
        ∃ k, FirstOffence (expressionWithin · source ·) tokens k ∧
          d.location = some (placeOfToken source tokens k)) :=
  ⟨fun herror => programWithin_reported herror hcause,
    fun herror => expressionWithin_reported herror hcause,
    fun _ => ⟨fun herror => programWithin_reported herror hcause,
      fun herror => expressionWithin_reported herror hcause⟩⟩

/-- A text that goes wrong deep inside: behind `(b)` there should be an arrow. -/
def missingArrow : Source := { text := "f(a = (b) 5);" }

def missingArrowTokens : List Token :=
  [⟨.identifier "f", "f", inFirstLine 0 1⟩, ⟨.operator "(", "(", inFirstLine 1 1⟩,
   ⟨.identifier "a", "a", inFirstLine 2 1⟩, ⟨.operator "=", "=", inFirstLine 4 1⟩,
   ⟨.operator "(", "(", inFirstLine 6 1⟩, ⟨.identifier "b", "b", inFirstLine 7 1⟩,
   ⟨.operator ")", ")", inFirstLine 8 1⟩, ⟨.literal (.integer 5), "5", inFirstLine 10 1⟩,
   ⟨.operator ")", ")", inFirstLine 11 1⟩, ⟨.operator ";", ";", inFirstLine 12 1⟩]

def missingArrowDiagnostic : Diagnostic where
  stage := .parsing
  cause := .expected "'=>'" (some "5")
  location := some (.ofSpan missingArrow (inFirstLine 10 1))

theorem missingArrow_reported :
    parseProgram missingArrow missingArrowTokens = .error missingArrowDiagnostic ∧
      ∃ k, FirstOffence (programWithin · missingArrow ·) missingArrowTokens k ∧
        missingArrowDiagnostic.location =
          some (placeOfToken missingArrow missingArrowTokens k) := by
  have herror : parseProgram missingArrow missingArrowTokens = .error missingArrowDiagnostic :=
    (wholeProgram_eq (.ofTokens missingArrow missingArrowTokens)).trans rfl
  exact ⟨herror, (error_at_first_offence _ _ _ (by decide)).1 herror⟩

end Scriptlet
