/-
# The longest lexeme does not depend on what follows it

Every lexical rule looks at a text from the front.  If the text is cut off behind
the characters that the rule takes, or further back, the rule takes the same
characters (`Cautious`).  Since the rule that reaches furthest decides how long a
lexeme is, and the first of several, both are the same for a text that is cut off
behind the lexeme: `winner_append`.

Rules are cautious for different reasons.

    runs        a run that is cut off is the shorter run                    `Running`
    words       a word that is there is there in the shorter text, too
    decimals    digits, a point and digits are one run after another        `inTurn`
    strings     what closes a string is the last character that is looked at

A rule may look further than it takes: a decimal looks for a point behind its digits.
Cutting off what it did not take can only make it take less of what it did not take.
-/
import Scriptlet.Token.Rule

namespace Scriptlet

namespace Rule

/-! ## Lengths that look no further than they reach -/

/-- A length at the front of a text, found without looking behind it. -/
structure Cautious (f : List Char → Nat) : Prop where
  le (x : List Char) : f x ≤ x.length
  append {y z : List Char} : f (y ++ z) ≤ y.length → f y = f (y ++ z)

/-- A run of characters, which a cut makes shorter only by what is cut off. -/
def Running (f : List Char → Nat) : Prop := ∀ y z, f y = min (f (y ++ z)) y.length

section Lengths

variable {f g : List Char → Nat} {p : Char → Bool}

theorem Running.cautious (h : Running f) : Cautious f where
  le x := by
    have := h x []
    omega
  append {y z} hle := by
    have := h y z
    omega

theorem running_runLength (p : Char → Bool) : Running (runLength p) := by
  intro y z
  unfold runLength
  induction y with
  | nil => simp
  | cons c y ih =>
      cases hc : p c with
      | true =>
          simp only [List.cons_append, List.takeWhile_cons, hc, if_true, List.length_cons, ih]
          omega
      | false => simp [hc]

/-- A first character of some kind, and a run behind it. -/
theorem running_of_cons (hnil : f [] = 0)
    (hcons : ∀ c rest, f (c :: rest) = if p c then 1 + g rest else 0) (hg : Running g) :
    Running f := by
  intro y z
  cases y with
  | nil => simp [hnil]
  | cons c y =>
      rw [List.cons_append, hcons, hcons]
      cases p c with
      | true =>
          have := hg y z
          simp only [if_true, List.length_cons]
          omega
      | false => simp

theorem running_integerLength : Running integerLength :=
  running_of_cons rfl (fun _ _ => rfl) (running_runLength _)

theorem running_identifierLength : Running identifierLength :=
  running_of_cons rfl (fun _ _ => rfl) (running_runLength _)

theorem commentLength_cons (c : Char) (rest : List Char) :
    commentLength (c :: rest) =
      if c == '#' then 1 + runLength (fun c => !Text.isLineEnd c) rest else 0 := by
  by_cases hc : c = '#'
  · subst hc
    rfl
  · unfold commentLength
    simp only [beq_eq_false_iff_ne.2 hc, Bool.false_eq_true, if_false]
    split
    · next heq => cases heq; exact (hc rfl).elim
    · rfl

theorem running_commentLength : Running commentLength :=
  running_of_cons rfl commentLength_cons (running_runLength _)

theorem newlineLength_cons_cons (c d : Char) (rest : List Char) :
    newlineLength (c :: d :: rest) =
      if c = '\r' ∧ d = '\n' then 2 else if Text.isLineEnd c then 1 else 0 := by
  by_cases h : c = '\r' ∧ d = '\n'
  · rw [if_pos h, h.1, h.2, newlineLength]
  · rw [if_neg h]
    unfold newlineLength
    split
    · next heq => cases heq; exact (h ⟨rfl, rfl⟩).elim
    · next heq => cases heq; rfl
    · next heq => cases heq

theorem newlineLength_single (c : Char) :
    newlineLength [c] = if Text.isLineEnd c then 1 else 0 := by
  unfold newlineLength
  split
  · next heq => cases heq
  · next heq => cases heq; rfl
  · next heq => cases heq

theorem cautious_newlineLength : Cautious newlineLength where
  le x := by
    match x with
    | [] => exact Nat.le_refl 0
    | [c] =>
        rw [newlineLength_single]
        split <;> simp
    | c :: d :: rest =>
        rw [newlineLength_cons_cons, List.length_cons, List.length_cons]
        split
        · omega
        · split <;> omega
  append {y z} hle := by
    match y, z with
    | [], z => exact (Nat.le_zero.1 hle).symm
    | [c], [] => rfl
    | [c], d :: z =>
        rw [List.singleton_append, newlineLength_cons_cons] at hle ⊢
        split at hle
        · simp at hle
        · next h => rw [if_neg h, newlineLength_single]
    | c :: d :: y, z =>
        rw [List.cons_append, List.cons_append, newlineLength_cons_cons, newlineLength_cons_cons]

/-! ## Words -/

theorem firstWordLength_cons (word : String) (words : List String) (text : List Char) :
    firstWordLength (word :: words) text =
      if word.toList <+: text then word.length else firstWordLength words text := by
  unfold firstWordLength
  by_cases h : word.toList <+: text
  · simp [wordLength, h]
  · simp [wordLength, h]

theorem cautious_firstWordLength (words : List String) : Cautious (firstWordLength words) := by
  induction words with
  | nil => exact ⟨fun _ => Nat.zero_le _, fun _ => rfl⟩
  | cons word words ih =>
      refine ⟨fun x => ?_, fun {y z} hle => ?_⟩
      · rw [firstWordLength_cons]
        split
        · next h => exact String.length_toList ▸ h.length_le
        · exact ih.le x
      · rw [firstWordLength_cons] at hle
        rw [firstWordLength_cons, firstWordLength_cons]
        by_cases h : word.toList <+: y ++ z
        · rw [if_pos h] at hle
          have hy : word.toList <+: y :=
            List.prefix_of_prefix_length_le h (List.prefix_append y z)
              (String.length_toList ▸ hle)
          rw [if_pos h, if_pos hy]
        · have hy : ¬ word.toList <+: y := fun hy => h (hy.trans (List.prefix_append y z))
          rw [if_neg h] at hle
          rw [if_neg h, if_neg hy]
          exact ih.append hle

/-! ## Decimals with a point -/

/-- A length and another behind it, if neither is zero. -/
def inTurn (f g : List Char → Nat) (x : List Char) : Nat :=
  if f x = 0 ∨ g (x.drop (f x)) = 0 then 0 else f x + g (x.drop (f x))

theorem cautious_inTurn (hf : Running f) (hg : Running g) : Cautious (inTurn f g) where
  le x := by
    have hfx := hf.cautious.le x
    have hgx := hg.cautious.le (x.drop (f x))
    rw [List.length_drop] at hgx
    unfold inTurn
    split <;> omega
  append {y z} hle := by
    have hy := hf y z
    unfold inTurn at hle ⊢
    by_cases hshort : f (y ++ z) ≤ y.length
    · -- the first length ends within `y`, and the second is cut off with `y`
      rw [show f y = f (y ++ z) by omega]
      rw [List.drop_append_of_le_length hshort] at hle ⊢
      have hrest := hg (y.drop (f (y ++ z))) z
      rw [List.length_drop] at hrest
      grind
    · -- the first length takes all of `y`, and nothing is left for the second
      have hnone := hg.cautious.le (y.drop (f y))
      rw [List.length_drop] at hnone
      split at hle
      · next h =>
          rw [if_pos h]
          exact if_pos (.inr (by omega))
      · omega

theorem Cautious.max (hf : Cautious f) (hg : Cautious g) :
    Cautious fun x => Max.max (f x) (g x) where
  le x := Nat.max_le.2 ⟨hf.le x, hg.le x⟩
  append {y z} hle := by
    obtain ⟨hfle, hgle⟩ := Nat.max_le.1 hle
    rw [hf.append hfle, hg.append hgle]

/-- The length of a point with a run behind it. -/
def pointLength (g : List Char → Nat) : List Char → Nat
  | '.' :: rest => 1 + g rest
  | _ => 0

theorem pointLength_eq_zero {text : List Char} (h : ∀ rest, text ≠ '.' :: rest)
    (g : List Char → Nat) : pointLength g text = 0 := by
  unfold pointLength
  split
  · next rest => exact (h rest rfl).elim
  · rfl

theorem pointLength_cons (g : List Char → Nat) (c : Char) (rest : List Char) :
    pointLength g (c :: rest) = if c == '.' then 1 + g rest else 0 := by
  by_cases hc : c = '.'
  · subst hc
    rfl
  · rw [pointLength_eq_zero fun _ h => hc (List.cons.inj h).1, if_neg (by simpa using hc)]

theorem running_pointLength (hg : Running g) : Running (pointLength g) :=
  running_of_cons rfl (pointLength_cons g) hg

/-- Digits on the right of the point only, or digits on the left of it. -/
theorem floatLength_eq (text : List Char) :
    floatLength text =
      Max.max (inTurn (pointLength fun _ => 0) integerLength text)
        (inTurn integerLength (pointLength (runLength isDigitOrUnderscore)) text) := by
  unfold floatLength
  split
  · next rest =>
      -- no digit stands at the front, so the second length is zero
      have hfirst : inTurn (pointLength fun _ => 0) integerLength ('.' :: rest) =
          if integerLength rest = 0 then 0 else 1 + integerLength rest := by
        simp [inTurn, pointLength]
      have hsecond : inTurn integerLength (pointLength (runLength isDigitOrUnderscore))
          ('.' :: rest) = 0 := rfl
      rw [hfirst, hsecond, Nat.max_zero]
      split
      · next h => rw [if_pos h]
      · next n h => rw [if_neg (by omega)]; omega
  · next hpoint =>
      have hfirst : inTurn (pointLength fun _ => 0) integerLength text = 0 :=
        if_pos (.inl (pointLength_eq_zero hpoint _))
      rw [hfirst, Nat.zero_max]
      unfold inTurn
      split
      · next h => rw [if_pos (.inl h)]
      · next n h =>
          rw [h]
          split
          · next rest hrest =>
              rw [hrest, if_neg (by simp [pointLength]), pointLength]
              omega
          · next hother => rw [if_pos (.inr (pointLength_eq_zero hother _))]

theorem cautious_floatLength : Cautious floatLength := by
  have hpoint : Running fun _ : List Char => 0 := fun _ _ => by simp
  rw [funext floatLength_eq]
  exact (cautious_inTurn (running_pointLength hpoint) running_integerLength).max
    (cautious_inTurn running_integerLength (running_pointLength (running_runLength _)))

/-! ## Strings -/

theorem closingLength_range {quote : Char} {x : List Char} {n : Nat}
    (h : closingLength quote x = some n) : 0 < n ∧ n ≤ x.length := by
  fun_induction closingLength quote x generalizing n with
  | case1 => cases h
  | case2 => cases h
  | case3 c rest ih =>
      obtain ⟨m, hm, rfl⟩ := Option.map_eq_some_iff.1 h
      have := ih hm
      simp only [List.length_cons]
      omega
  | case4 c rest hlone hescape hquote =>
      cases h
      simp
  | case5 c rest hlone hescape hquote ih =>
      obtain ⟨m, hm, rfl⟩ := Option.map_eq_some_iff.1 h
      have := ih hm
      simp only [List.length_cons]
      omega

theorem closingLength_cons_of_ne {quote c : Char} (hc : c ≠ '\\') (rest : List Char) :
    closingLength quote (c :: rest) =
      if c == quote then some 1 else (closingLength quote rest).map (· + 1) :=
  closingLength.eq_4 quote c rest (fun h _ => hc h) (fun _ _ h _ => hc h)

theorem ne_escape {c : Char} {rest : List Char} (hlone : c = '\\' → rest = [] → False)
    (hescape : ∀ d more, c = '\\' → rest = d :: more → False) : c ≠ '\\' := by
  intro hc
  cases rest with
  | nil => exact hlone hc rfl
  | cons d more => exact hescape d more hc rfl

/-- A quote that ends a string within `y` ends it whatever stands behind `y`, and
one behind `y` does not end it within. -/
theorem closingLength_append {quote : Char} {y z : List Char}
    (h : ∀ n, closingLength quote (y ++ z) = some n → n ≤ y.length) :
    closingLength quote y = closingLength quote (y ++ z) := by
  fun_induction closingLength quote y with
  | case1 =>
      cases hz : closingLength quote ([] ++ z) with
      | none => rfl
      | some n =>
          have hle : n ≤ 0 := h n hz
          have := (closingLength_range hz).1
          omega
  | case2 =>
      cases z with
      | nil => rfl
      | cons c z =>
          cases hz : closingLength quote z with
          | none => simp [closingLength, hz]
          | some n =>
              have hle : n + 2 ≤ 1 := h (n + 2) (by simp [closingLength, hz])
              omega
  | case3 c rest ih =>
      have hstep : closingLength quote ('\\' :: c :: rest ++ z) =
          (closingLength quote (rest ++ z)).map (· + 2) := rfl
      rw [hstep] at h ⊢
      rw [ih fun n hn => ?_]
      have := h (n + 2) (by rw [hn]; rfl)
      simp only [List.length_cons] at this
      omega
  | case4 c rest hlone hescape hquote =>
      have hc : c ≠ '\\' := ne_escape hlone hescape
      rw [List.cons_append, closingLength_cons_of_ne hc, if_pos hquote]
  | case5 c rest hlone hescape hquote ih =>
      have hc : c ≠ '\\' := ne_escape hlone hescape
      rw [List.cons_append, closingLength_cons_of_ne hc, if_neg hquote] at h ⊢
      rw [ih fun n hn => ?_]
      exact Nat.le_of_succ_le_succ (h (n + 1) (by rw [hn]; rfl))

theorem stringLength_cons (c : Char) (rest : List Char) :
    stringLength (c :: rest) =
      if c = '"' ∨ c = '\'' then ((closingLength c rest).map (· + 1)).getD 0 else 0 := by
  unfold stringLength
  split
  · next heq => cases heq; rfl
  · next heq => cases heq; rfl
  · next hdouble hsingle =>
      rw [if_neg]
      rintro (rfl | rfl)
      · exact hdouble rest rfl
      · exact hsingle rest rfl

theorem cautious_stringLength : Cautious stringLength := by
  refine ⟨fun x => ?_, fun {y z} hle => ?_⟩
  · cases x with
    | nil => exact Nat.le_refl 0
    | cons c rest =>
        rw [stringLength_cons]
        split
        · cases h : closingLength c rest with
          | none => exact Nat.zero_le _
          | some n => exact Nat.succ_le_succ (closingLength_range h).2
        · exact Nat.zero_le _
  · cases y with
    | nil => exact (Nat.le_zero.1 hle).symm
    | cons c rest =>
        rw [List.cons_append, stringLength_cons] at hle
        rw [List.cons_append, stringLength_cons, stringLength_cons]
        split at hle
        · next hquote =>
            rw [closingLength_append fun n hn => ?_]
            rw [hn] at hle
            exact Nat.le_of_succ_le_succ hle
        · next hquote => rw [if_neg hquote, if_neg hquote]

end Lengths

/-! ## Rules -/

/-- What a rule takes does not depend on what stands behind it. -/
theorem cautious_reach (rule : Rule) : Cautious rule.reach := by
  cases rule with
  | boolean => exact cautious_firstWordLength _
  | float => exact cautious_floatLength
  | integer => exact running_integerLength.cautious
  | string => exact cautious_stringLength
  | comment => exact running_commentLength.cautious
  | identifier => exact running_identifierLength.cautious
  | operator => exact cautious_firstWordLength _
  | newline => exact cautious_newlineLength
  | whitespace => exact (running_runLength _).cautious

/-- What leads when the rules have competed: a rule that none of them outreaches, or
none when none applies. -/
def Leads (text : List Char) (rules : List Rule) : Option (Rule × Nat) → Prop
  | some (rule, n) => rule.reach text = n ∧ ∀ r ∈ rules, r.reach text ≤ n
  | none => ∀ r ∈ rules, r.reach text = 0

theorem leads_further {text : List Char} {rules : List Rule} {best : Option (Rule × Nat)}
    (h : Leads text rules best) (rule : Rule) :
    Leads text (rules ++ [rule]) (further text best rule) := by
  unfold further
  cases best with
  | none =>
      simp only
      split
      · next hpos => grind [Leads]
      · grind [Leads]
  | some best =>
      obtain ⟨leader, m⟩ := best
      simp only
      split
      · grind [Leads]
      · grind [Leads]

theorem leads_winner (text : List Char) : Leads text all (winner text) := by
  have hfold : ∀ (rules tried : List Rule) (best : Option (Rule × Nat)),
      Leads text tried best → Leads text (tried ++ rules) (rules.foldl (further text) best) := by
    intro rules
    induction rules with
    | nil =>
        intro tried best h
        rw [List.append_nil]
        exact h
    | cons rule rules ih =>
        intro tried best h
        rw [List.append_cons]
        exact ih _ _ (leads_further h rule)
  exact hfold all [] none fun r hr => by cases hr

theorem mem_all (rule : Rule) : rule ∈ all := by
  cases rule <;> decide

theorem winner_le {text : List Char} {rule : Rule} {n : Nat}
    (h : winner text = some (rule, n)) : n ≤ text.length := by
  have hleads := leads_winner text
  rw [h] at hleads
  exact hleads.1 ▸ (cautious_reach rule).le text

/-- **The longest lexeme does not depend on what follows it**: it is the same when
the text is cut off behind it, or further back. -/
theorem winner_append {y z : List Char} {rule : Rule} {n : Nat}
    (h : winner (y ++ z) = some (rule, n)) (hn : n ≤ y.length) :
    winner y = some (rule, n) := by
  have hleads := leads_winner (y ++ z)
  rw [h] at hleads
  have hreach : ∀ r : Rule, r.reach y = r.reach (y ++ z) := fun r =>
    (cautious_reach r).append (Nat.le_trans (hleads.2 r (mem_all r)) hn)
  have hfurther : further y = further (y ++ z) := by
    funext best rule
    unfold further
    rw [hreach]
  rw [← h, winner, winner, hfurther]

end Rule

end Scriptlet
