/-
# The language of a pattern

What a pattern denotes when it is read as a plain regular expression: a set of texts,
put together from those of its parts.  Nothing is said here of how a text is matched,
in which order alternatives are tried or how far a repetition goes.

Matching by derivatives finds this set (`accepts_iff`), so membership can be computed.
-/
import Mathlib.Computability.Language
import Scriptlet.Text.Pattern

namespace Scriptlet.Text.Pattern

open scoped Computability

/-- The texts that a pattern denotes. -/
def language : Pattern → Language Char
  | never => 0
  | empty => 1
  | one within => {s | ∃ c, within c = true ∧ s = [c]}
  | alt p q => p.language + q.language
  | seq p q => p.language * q.language
  | star p => p.language∗

/-! ## Membership, constructor by constructor -/

section Membership

variable {p q : Pattern} {within : Char → Bool} {s t : List Char}

@[simp] theorem mem_never : s ∈ never.language ↔ False := Iff.rfl

@[simp] theorem mem_empty : s ∈ empty.language ↔ s = [] := Language.mem_one s

@[simp] theorem mem_one : s ∈ (one within).language ↔ ∃ c, within c = true ∧ s = [c] := Iff.rfl

@[simp] theorem mem_alt : s ∈ (alt p q).language ↔ s ∈ p.language ∨ s ∈ q.language := Iff.rfl

@[simp] theorem mem_seq :
    s ∈ (seq p q).language ↔ ∃ x ∈ p.language, ∃ y ∈ q.language, x ++ y = s :=
  Language.mem_mul

/-- A repetition is nothing, or once the pattern and a repetition behind it. -/
theorem nil_mem_star : [] ∈ (star p).language := Language.nil_mem_kstar _

theorem append_mem_star (hs : s ∈ p.language) (ht : t ∈ (star p).language) :
    s ++ t ∈ (star p).language := by
  obtain ⟨parts, rfl, hparts⟩ := Language.mem_kstar.1 ht
  refine Language.mem_kstar.2 ⟨s :: parts, rfl, ?_⟩
  rintro part (_ | ⟨_, hpart⟩)
  · exact hs
  · exact hparts part hpart

/-- Facts about a repetition follow from what adding one part at the front keeps. -/
theorem star_induction {P : List Char → Prop} (h : s ∈ (star p).language) (nil : P [])
    (append : ∀ s t, s ∈ p.language → t ∈ (star p).language → P t → P (s ++ t)) : P s := by
  obtain ⟨parts, rfl, hparts⟩ := Language.mem_kstar.1 h
  clear h
  induction parts with
  | nil => exact nil
  | cons part parts ih =>
      obtain ⟨hpart, hrest⟩ := List.forall_mem_cons.1 hparts
      have hstar : parts.flatten ∈ (star p).language := Language.mem_kstar.2 ⟨parts, rfl, hrest⟩
      exact append part parts.flatten hpart hstar (ih hrest)

theorem mem_star_one : s ∈ (star (one within)).language ↔ ∀ c ∈ s, within c = true := by
  constructor
  · intro h
    refine star_induction (P := fun s => ∀ c ∈ s, within c = true) h nofun ?_
    rintro _ t ⟨c, hc, rfl⟩ _ ht
    exact List.forall_mem_cons.2 ⟨hc, ht⟩
  · intro h
    induction s with
    | nil => exact nil_mem_star
    | cons c s ih =>
        obtain ⟨hc, hs⟩ := List.forall_mem_cons.1 h
        exact append_mem_star (s := [c]) ⟨c, hc, rfl⟩ (ih hs)

theorem mem_one_seq :
    s ∈ (seq (one within) p).language ↔ ∃ c t, within c = true ∧ t ∈ p.language ∧ s = c :: t := by
  rw [mem_seq]
  constructor
  · rintro ⟨_, ⟨c, hc, rfl⟩, t, ht, rfl⟩
    exact ⟨c, t, hc, ht, rfl⟩
  · rintro ⟨c, t, hc, ht, rfl⟩
    exact ⟨[c], ⟨c, hc, rfl⟩, t, ht, rfl⟩

theorem mem_word {w : String} : s ∈ (word w).language ↔ s = w.toList := by
  have hchars : ∀ (chars s : List Char),
      s ∈ (chars.foldr (fun c p => seq (one (· == c)) p) empty).language ↔ s = chars := by
    intro chars
    induction chars with
    | nil => intro s; exact mem_empty
    | cons c chars ih =>
        intro s
        rw [List.foldr_cons, mem_one_seq]
        simp only [beq_iff_eq, ih]
        constructor
        · rintro ⟨_, _, rfl, rfl, rfl⟩
          rfl
        · rintro rfl
          exact ⟨c, chars, rfl, rfl, rfl⟩
  exact hchars w.toList s

theorem mem_words {ws : List String} : s ∈ (words ws).language ↔ ∃ w ∈ ws, s = w.toList := by
  induction ws with
  | nil => exact ⟨False.elim, nofun⟩
  | cons w ws ih =>
      show s ∈ (alt (word w) (words ws)).language ↔ _
      rw [mem_alt, mem_word, ih, List.exists_mem_cons_iff]

end Membership

/-! ## Derivatives -/

section Derivatives

variable {p q : Pattern} {c : Char} {s : List Char}

theorem language_or (p q : Pattern) : (p.or q).language = (alt p q).language := by
  unfold Pattern.or
  split
  · exact (zero_add _).symm
  · exact (add_zero _).symm
  · rfl

theorem language_andThen (p q : Pattern) : (p.andThen q).language = (seq p q).language := by
  unfold Pattern.andThen
  split
  · exact (zero_mul _).symm
  · exact (one_mul _).symm
  · rfl

theorem nullable_iff (p : Pattern) : p.nullable = true ↔ [] ∈ p.language := by
  induction p with
  | never => exact ⟨nofun, False.elim⟩
  | empty => exact ⟨fun _ => mem_empty.2 rfl, fun _ => rfl⟩
  | one within =>
      refine ⟨nofun, ?_⟩
      rintro ⟨c, -, h⟩
      cases h
  | alt p q ihp ihq => rw [nullable, Bool.or_eq_true, ihp, ihq, mem_alt]
  | seq p q ihp ihq =>
      rw [nullable, Bool.and_eq_true, ihp, ihq, mem_seq]
      constructor
      · rintro ⟨hp, hq⟩
        exact ⟨[], hp, [], hq, rfl⟩
      · rintro ⟨x, hx, y, hy, hnil⟩
        obtain ⟨rfl, rfl⟩ := List.append_eq_nil_iff.1 hnil
        exact ⟨hx, hy⟩
  | star p _ => exact ⟨fun _ => nil_mem_star, fun _ => rfl⟩

/-- A text in front of which something stands begins in the one or in the other. -/
theorem cons_mem_seq :
    c :: s ∈ (seq p q).language ↔
      (∃ x y, c :: x ∈ p.language ∧ y ∈ q.language ∧ x ++ y = s) ∨
        [] ∈ p.language ∧ c :: s ∈ q.language := by
  rw [mem_seq]
  constructor
  · rintro ⟨x, hx, y, hy, hxy⟩
    cases x with
    | nil => exact .inr ⟨hx, hxy ▸ hy⟩
    | cons d x =>
        obtain ⟨rfl, rfl⟩ := List.cons.inj hxy
        exact .inl ⟨x, y, hx, hy, rfl⟩
  · rintro (⟨x, y, hx, hy, rfl⟩ | ⟨hp, hq⟩)
    · exact ⟨c :: x, hx, y, hy, rfl⟩
    · exact ⟨[], hp, c :: s, hq, rfl⟩

/-- A repetition that begins with a character begins with a part that does. -/
theorem cons_mem_star :
    c :: s ∈ (star p).language ↔
      ∃ x y, c :: x ∈ p.language ∧ y ∈ (star p).language ∧ x ++ y = s := by
  constructor
  · intro h
    refine star_induction (P := fun w => ∀ s, w = c :: s →
      ∃ x y, c :: x ∈ p.language ∧ y ∈ (star p).language ∧ x ++ y = s) h nofun ?_ s rfl
    intro part rest hpart hrest ih s hs
    cases part with
    | nil => exact ih s hs
    | cons d x =>
        obtain ⟨rfl, rfl⟩ := List.cons.inj hs
        exact ⟨x, rest, hpart, hrest, rfl⟩
  · rintro ⟨x, y, hx, hy, rfl⟩
    exact append_mem_star hx hy

theorem mem_derive (p : Pattern) (c : Char) (s : List Char) :
    s ∈ (p.derive c).language ↔ c :: s ∈ p.language := by
  induction p generalizing s with
  | never => exact Iff.rfl
  | empty => exact ⟨False.elim, fun h => by cases mem_empty.1 h⟩
  | one within =>
      rw [derive]
      split
      · next hc =>
          rw [mem_empty]
          constructor
          · rintro rfl
            exact ⟨c, hc, rfl⟩
          · rintro ⟨d, -, h⟩
            exact (List.cons.inj h).2
      · next hc =>
          refine ⟨False.elim, ?_⟩
          rintro ⟨d, hd, h⟩
          exact hc ((List.cons.inj h).1 ▸ hd)
  | alt p q ihp ihq => rw [derive, language_or, mem_alt, ihp, ihq, mem_alt]
  | seq p q ihp ihq =>
      have hleft : s ∈ ((p.derive c).andThen q).language ↔
          ∃ x y, c :: x ∈ p.language ∧ y ∈ q.language ∧ x ++ y = s := by
        rw [language_andThen, mem_seq]
        constructor
        · rintro ⟨x, hx, y, hy, rfl⟩
          exact ⟨x, y, (ihp x).1 hx, hy, rfl⟩
        · rintro ⟨x, y, hx, hy, rfl⟩
          exact ⟨x, (ihp x).2 hx, y, hy, rfl⟩
      rw [derive, cons_mem_seq]
      split
      · next hnull =>
          rw [language_or, mem_alt, hleft, ihq, and_iff_right ((nullable_iff p).1 hnull)]
      · next hnull =>
          have hp : [] ∉ p.language := fun h => hnull ((nullable_iff p).2 h)
          rw [hleft]
          exact ⟨.inl, fun h => h.resolve_right fun hright => hp hright.1⟩
  | star p ih =>
      rw [derive, language_andThen, mem_seq, cons_mem_star]
      constructor
      · rintro ⟨x, hx, y, hy, rfl⟩
        exact ⟨x, y, (ih x).1 hx, hy, rfl⟩
      · rintro ⟨x, y, hx, hy, rfl⟩
        exact ⟨x, (ih x).2 hx, y, hy, rfl⟩

theorem accepts_iff (p : Pattern) (s : List Char) : p.accepts s = true ↔ s ∈ p.language := by
  induction s generalizing p with
  | nil => exact nullable_iff p
  | cons c s ih => rw [accepts, ih, mem_derive]

instance decidableMem (p : Pattern) (s : List Char) : Decidable (s ∈ p.language) :=
  decidable_of_iff _ (accepts_iff p s)

end Derivatives

/-! ## Last characters -/

/-- Whether a text of the pattern may end with the character; a pattern without texts may
pass for one that has some. -/
def mayEnd (c : Char) : Pattern → Bool
  | never => false
  | empty => false
  | one within => within c
  | alt p q => p.mayEnd c || q.mayEnd c
  | seq p q => q.mayEnd c || (q.nullable && p.mayEnd c)
  | star p => p.mayEnd c

theorem mayEnd_of_mem {p : Pattern} {s : List Char} {c : Char} (h : s ∈ p.language)
    (hlast : s.getLast? = some c) : p.mayEnd c = true := by
  induction p generalizing s with
  | never => exact h.elim
  | empty => rw [mem_empty.1 h] at hlast; cases hlast
  | one within =>
      obtain ⟨d, hd, rfl⟩ := h
      cases hlast
      exact hd
  | alt p q ihp ihq =>
      rw [mayEnd, Bool.or_eq_true]
      rcases h with h | h
      · exact .inl (ihp h hlast)
      · exact .inr (ihq h hlast)
  | seq p q ihp ihq =>
      obtain ⟨x, hx, y, hy, rfl⟩ := mem_seq.1 h
      rw [mayEnd, Bool.or_eq_true, Bool.and_eq_true]
      rw [List.getLast?_append] at hlast
      cases hlasty : y.getLast? with
      | some d =>
          rw [hlasty] at hlast
          cases hlast
          exact .inl (ihq hy hlasty)
      | none =>
          obtain rfl := List.getLast?_eq_none_iff.1 hlasty
          exact .inr ⟨(nullable_iff q).2 hy, ihp hx hlast⟩
  | star p ih =>
      refine star_induction (P := fun s => s.getLast? = some c → (star p).mayEnd c = true) h nofun
        ?_ hlast
      intro x y hx _ ihy hlast
      rw [List.getLast?_append] at hlast
      cases hlasty : y.getLast? with
      | some d =>
          rw [hlasty] at hlast
          cases hlast
          exact ihy hlasty
      | none =>
          rw [hlasty] at hlast
          exact ih hx hlast

/-! ## Characters anywhere -/

/-- Whether the character may stand in a text of the pattern; a pattern without texts may
pass for one that has some. -/
def mayHold (c : Char) : Pattern → Bool
  | never => false
  | empty => false
  | one within => within c
  | alt p q => p.mayHold c || q.mayHold c
  | seq p q => p.mayHold c || q.mayHold c
  | star p => p.mayHold c

theorem mayHold_of_mem {p : Pattern} {s : List Char} {c : Char} (h : s ∈ p.language)
    (hc : c ∈ s) : p.mayHold c = true := by
  induction p generalizing s with
  | never => exact h.elim
  | empty => rw [mem_empty.1 h] at hc; cases hc
  | one within =>
      obtain ⟨d, hd, rfl⟩ := h
      rw [List.mem_singleton.1 hc]
      exact hd
  | alt p q ihp ihq =>
      rw [mayHold, Bool.or_eq_true]
      rcases h with h | h
      · exact .inl (ihp h hc)
      · exact .inr (ihq h hc)
  | seq p q ihp ihq =>
      obtain ⟨x, hx, y, hy, rfl⟩ := mem_seq.1 h
      rw [mayHold, Bool.or_eq_true]
      rcases List.mem_append.1 hc with hc | hc
      · exact .inl (ihp hx hc)
      · exact .inr (ihq hy hc)
  | star p ih =>
      refine star_induction (P := fun s => c ∈ s → (star p).mayHold c = true) h nofun ?_ hc
      intro x y hx _ ihy hc
      rcases List.mem_append.1 hc with hc | hc
      · exact ih hx hc
      · exact ihy hc

end Scriptlet.Text.Pattern
