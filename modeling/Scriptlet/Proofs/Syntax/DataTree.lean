/-
# The trees of data

Data that is written out is read as its tree: a list as a list of the trees of its items,
anything else as a literal, except that nothing is a name.  Reading goes as deep as lists
are nested, so that the limit on nesting decides (`expressionWithin_of_contents`): below
it the tree is found, and otherwise the input is nested too deeply.
-/
import Scriptlet.Proofs.Syntax.Diagnosis
import Scriptlet.Proofs.Token.DataText

namespace Scriptlet

/-- The node is what the text of the data stands for. -/
inductive Spells : Node → Data → Prop
  | nothing (span : Span) : Spells (.identifier "none" span) .nothing
  | bool (b : Bool) (span : Span) : Spells (.literal (.boolean b) span) (.bool b)
  | int (n : Nat) (span : Span) : Spells (.literal (.integer n) span) (.int n)
  | text (t : String) (span : Span) : Spells (.literal (.text t) span) (.text t)
  | list {nodes : List Node} {items : List Data} (span : Span) :
      List.Forall₂ Spells nodes items → Spells (.list nodes span) (.list items)

namespace Forward

open Scriptlet.Parser (textOf binaryOperator?)

/-! ## Reading with enough room, and with too little -/

/-- Whether there is room decides: with room the value is found, with nothing but `rest`
left; without, something would be nested too deeply. -/
structure Verdict.GivenRoom {α : Type} (room : Prop) (good : α → Prop) (rest : List Token)
    (v : Verdict α) : Prop where
  ok : room → ∃ a, v = .ok a rest ∧ good a
  deep : ¬ room → ∃ left, v = .deep left

section Room

variable {α β : Type} {room room' : Prop} {good : α → Prop} {good' : β → Prop}
  {rest mid : List Token} {v : Verdict α}

theorem Verdict.GivenRoom.of_ok {a : α} (hv : v = .ok a rest) (hroom : room) (ha : good a) :
    v.GivenRoom room good rest :=
  ⟨fun _ => ⟨a, hv, ha⟩, fun hno => absurd hroom hno⟩

theorem Verdict.GivenRoom.iff (h : v.GivenRoom room good rest) (hiff : room ↔ room') :
    v.GivenRoom room' good rest :=
  propext hiff ▸ h

theorem Verdict.GivenRoom.bind {q : Reader α} {f : α → Reader β} {ts : List Token}
    (h : (q ts).GivenRoom room good mid)
    (hf : ∀ a, good a → (f a mid).GivenRoom room' good' rest) :
    ((q >>= f) ts).GivenRoom (room ∧ room') good' rest where
  ok := by
    rintro ⟨hroom, hroom'⟩
    obtain ⟨a, hq, ha⟩ := h.ok hroom
    rw [bind_of_ok hq]
    exact (hf a ha).ok hroom'
  deep := by
    intro hno
    by_cases hroom : room
    · obtain ⟨a, hq, ha⟩ := h.ok hroom
      rw [bind_of_ok hq]
      exact (hf a ha).deep fun hroom' => hno ⟨hroom, hroom'⟩
    · obtain ⟨left, hq⟩ := h.deep hroom
      exact ⟨left, bind_of_deep hq⟩

theorem Verdict.GivenRoom.andThen {q : Reader α} {f : α → Reader β} {ts : List Token}
    (h : (q ts).GivenRoom room good mid)
    (hf : ∀ a, good a → ∃ b, f a mid = .ok b rest ∧ good' b) :
    ((q >>= f) ts).GivenRoom room good' rest := by
  have hboth : ((q >>= f) ts).GivenRoom (room ∧ True) good' rest := by
    refine h.bind fun a ha => ?_
    obtain ⟨b, hb, hgood⟩ := hf a ha
    exact .of_ok hb trivial hgood
  exact hboth.iff (iff_of_eq (and_true room))

end Room

/-! ## What follows data -/

/-- Data ends here: at a comma, at a closing bracket or with the tokens. -/
def EndsData (rest : List Token) : Prop :=
  ∀ t, rest.head? = some t → t.content = .operator "," ∨ t.content = .operator "]"

section Ends

variable {rest : List Token} {t : Token}

theorem endsData_nil : EndsData [] := nofun

theorem endsData_comma (h : t.content = .operator ",") : EndsData (t :: rest) := by
  rintro _ ⟨⟩
  exact .inl h

theorem endsData_bracket (h : t.content = .operator "]") : EndsData (t :: rest) := by
  rintro _ ⟨⟩
  exact .inr h

theorem EndsData.accept (h : EndsData rest) {symbol : String} (hcomma : symbol ≠ ",")
    (hbracket : symbol ≠ "]") : accept symbol rest = .ok none rest := by
  refine accept_of_not fun t ht hsymbol => ?_
  have hcontent := Parser.isOperator_iff.1 hsymbol
  rcases h t ht with hend | hend
  · exact hcomma (Content.operator.inj (hcontent.symm.trans hend))
  · exact hbracket (Content.operator.inj (hcontent.symm.trans hend))

theorem EndsData.afterOperand (h : EndsData rest) (expr : Reader Node) (left : Node) :
    afterOperand expr left rest = .ok left rest := by
  have htake : takeIf binaryOperator? rest = .ok none rest := by
    cases rest with
    | nil => rfl
    | cons t rest =>
        refine takeIf_of_none ?_
        rcases h t rfl with hend | hend
        · rw [binaryOperator?, hend]
          rfl
        · rw [binaryOperator?, hend]
          rfl
  rw [Forward.afterOperand, bind_of_ok htake]
  rfl

end Ends

/-! ## Rows of data -/

/-- The reader takes the tokens of the data as its tree, if there is room. -/
def ReadsData (item : Reader Node) (room : Prop) (d : Data) : Prop :=
  ∀ ts rest, ts.map Token.content = d.contents → EndsData rest →
    (item (ts ++ rest)).GivenRoom room (Spells · d) rest

theorem contents_cons (d : Data) :
    ∃ c more, d.contents = c :: more ∧ c ≠ .operator "]" := by
  cases d with
  | nothing => exact ⟨_, _, rfl, nofun⟩
  | bool b => exact ⟨_, _, rfl, nofun⟩
  | int n => exact ⟨_, _, rfl, nofun⟩
  | text t => exact ⟨_, _, rfl, nofun⟩
  | list items => exact ⟨_, _, rfl, by simp⟩

theorem length_le_contentsAll (items : List Data) :
    items.length ≤ (Data.contentsAll items).length := by
  induction items with
  | nil => exact Nat.le_refl 0
  | cons d items ih =>
      obtain ⟨c, more, hcontents, -⟩ := contents_cons d
      cases items with
      | nil => simp [Data.contentsAll, hcontents]
      | cons e items =>
          simp only [Data.contentsAll, hcontents, List.length_append, List.length_cons] at ih ⊢
          omega

section Rows

variable {item : Reader Node} {room : Data → Prop} {items : List Data} {closer : Token}

theorem nextIs_of_contents {d : Data} {ts : List Token}
    (h : ts.map Token.content = d.contents) (rest : List Token) :
    nextIs "]" (ts ++ rest) = .ok false (ts ++ rest) := by
  obtain ⟨c, more, hcontents, hc⟩ := contents_cons d
  obtain ⟨t, us, rfl, ht, -⟩ := List.map_eq_cons_iff.1 (h.trans hcontents)
  have hno : ¬ t.isOperator "]" = true := by
    rw [Parser.isOperator_iff, ht]
    exact hc
  simp [nextIs, hno]

theorem rowUpTo_succ_of_contents {d : Data} {ts : List Token}
    (h : ts.map Token.content = d.contents) (bound : Nat) (rest : List Token) :
    rowUpTo item "]" (bound + 1) (ts ++ rest) =
      (item >>= fun first => accept "," >>= fun found =>
        match found with
        | none => pure [first]
        | some _ => rowUpTo item "]" bound >>= fun others => pure (first :: others)) (ts ++ rest) :=
  bind_of_ok (nextIs_of_contents h rest)

theorem rowUpTo_closed (hcloser : closer.content = .operator "]") (rest : List Token)
    (bound : Nat) : rowUpTo item "]" bound (closer :: rest) = .ok [] (closer :: rest) := by
  cases bound with
  | zero => rfl
  | succ bound =>
      have hnext : nextIs "]" (closer :: rest) = .ok true (closer :: rest) := by
        simp [nextIs, Parser.isOperator_iff.2 hcloser]
      exact bind_of_ok hnext

theorem accept_comma_closed (hcloser : closer.content = .operator "]") (rest : List Token) :
    accept "," (closer :: rest) = .ok none (closer :: rest) := by
  refine accept_of_not fun t ht hcomma => ?_
  cases ht
  rw [Parser.isOperator_iff, hcloser] at hcomma
  simp at hcomma

/-- A row of data is read as the trees of the data; there must be room for every one. -/
theorem rowUpTo_of_contents (hitems : ∀ d ∈ items, ReadsData item (room d) d)
    (hcloser : closer.content = .operator "]") {rest : List Token} :
    ∀ bound ts, items.length ≤ bound → ts.map Token.content = Data.contentsAll items →
      (rowUpTo item "]" bound (ts ++ closer :: rest)).GivenRoom (∀ d ∈ items, room d)
        (List.Forall₂ Spells · items) (closer :: rest) := by
  induction items with
  | nil =>
      intro bound ts _ hts
      obtain rfl : ts = [] := List.map_eq_nil_iff.1 hts
      exact .of_ok (rowUpTo_closed hcloser rest bound) (List.forall_mem_nil _) .nil
  | cons d items ih =>
      obtain ⟨hd, hitems⟩ := List.forall_mem_cons.1 hitems
      intro bound ts hbound hts
      -- the bound allows for this item at least
      obtain ⟨bound, rfl⟩ := Nat.exists_eq_add_of_le' (Nat.le_trans (Nat.le_add_left 1 _) hbound)
      cases items with
      | nil =>
          rw [Data.contentsAll] at hts
          rw [rowUpTo_succ_of_contents hts]
          refine Verdict.GivenRoom.iff ?_ List.forall_mem_singleton.symm
          refine (hd ts _ hts (endsData_bracket hcloser)).andThen fun first hfirst => ?_
          exact ⟨[first], bind_of_ok (accept_comma_closed hcloser rest), .cons hfirst .nil⟩
      | cons e items =>
          rw [Data.contentsAll] at hts
          obtain ⟨us, ws, rfl, hus, hws⟩ := List.map_eq_append_iff.1 hts
          obtain ⟨comma, ws, rfl, hcomma, hws⟩ := List.map_eq_cons_iff.1 hws
          have hmore : accept "," (comma :: (ws ++ closer :: rest)) =
              .ok (some comma) (ws ++ closer :: rest) :=
            accept_of (Parser.isOperator_iff.2 hcomma)
          rw [List.append_assoc, List.cons_append, rowUpTo_succ_of_contents hus]
          refine Verdict.GivenRoom.iff ?_ List.forall_mem_cons.symm
          refine (hd us _ hus (endsData_comma hcomma)).bind fun first hfirst => ?_
          rw [bind_of_ok hmore]
          have hrow := ih hitems bound ws (Nat.le_of_succ_le_succ hbound) hws
          refine hrow.andThen fun nodes hnodes => ?_
          exact ⟨first :: nodes, rfl, .cons hfirst hnodes⟩

end Rows

/-! ## Data -/

section Whole

variable {finish : Position} {expr : Reader Node} {d : Data} {ts rest : List Token} {t : Token}

theorem layer_of_name {name : String} (hname : t.content = .identifier name)
    (hends : EndsData rest) :
    layer finish expr (t :: rest) = .ok (.identifier name t.span) rest := by
  have hopening : Opening.ofToken? (t :: rest).head? = .name := by
    simp [Opening.ofToken?, Opening.ofContent, hname]
  have hkind : t.kind = .identifier := by
    rw [Token.kind, hname]
    rfl
  have htext : textOf t = name := by
    rw [textOf, hname]
  have hafter : afterName expr t rest = .ok (.identifier name t.span) rest := by
    rw [afterName, bind_of_ok (hends.accept (by decide) (by decide)), htext]
    rfl
  have hfirst : afterFirstName expr t rest = .ok (.identifier name t.span) rest := by
    rw [afterFirstName, bind_of_ok (hends.accept (by decide) (by decide))]
    exact (bind_of_ok hafter).trans (hends.afterOperand expr _)
  rw [layer_apply, hopening]
  exact (bind_of_ok (ofKind_of hkind)).trans hfirst

theorem layer_of_literal {value : Literal} (hvalue : t.content = .literal value)
    (hends : EndsData rest) :
    layer finish expr (t :: rest) = .ok (.literal value t.span) rest := by
  have hopening : Opening.ofToken? (t :: rest).head? = .literal := by
    simp [Opening.ofToken?, Opening.ofContent, hvalue]
  have hkind : t.kind = .literal := by
    rw [Token.kind, hvalue]
    rfl
  have hterm : term finish expr (t :: rest) = .ok (.literal value t.span) rest := by
    have hliteral : literal (t :: rest) = .ok (.literal value t.span) rest := by
      rw [literal, bind_of_ok (ofKind_of hkind), hvalue]
      rfl
    rw [term_apply, hopening]
    exact hliteral
  rw [layer_apply, hopening]
  exact (bind_of_ok hterm).trans (hends.afterOperand expr _)

theorem layer_of_list {items : List Data} {k : Nat}
    (hitems : ∀ d ∈ items, ReadsData expr (d.height < k) d) :
    ReadsData (layer finish expr) ((Data.list items).height < k + 1) (.list items) := by
  intro ts rest hts hends
  rw [Data.contents] at hts
  obtain ⟨opener, us, rfl, hopener, hus⟩ := List.map_eq_cons_iff.1 hts
  obtain ⟨ts, closers, rfl, hinner, hclosers⟩ := List.map_eq_append_iff.1 hus
  obtain ⟨closer, rfl, hcloser⟩ := List.map_eq_singleton_iff.1 hclosers
  have hopening : Opening.ofToken? (opener :: (ts ++ closer :: rest)).head? = .bracket := by
    simp [Opening.ofToken?, Opening.ofContent, hopener]
  -- a row may have one item more than there are tokens, and data has a token at least
  have hbound : items.length ≤ (ts ++ closer :: rest).length + 1 := by
    have hlength := length_le_contentsAll items
    rw [← hinner, List.length_map] at hlength
    rw [List.length_append]
    omega
  have hlist : (listLiteral expr (opener :: (ts ++ closer :: rest))).GivenRoom
      (∀ d ∈ items, d.height < k) (Spells · (.list items)) rest := by
    rw [listLiteral, bind_of_ok (operator_of_content hopener)]
    refine Verdict.GivenRoom.andThen (rowUpTo_of_contents hitems hcloser _ ts hbound hinner) ?_
    intro nodes hnodes
    exact ⟨_, bind_of_ok (operator_of_content hcloser), .list _ hnodes⟩
  have hterm : term finish expr (opener :: (ts ++ closer :: rest)) =
      listLiteral expr (opener :: (ts ++ closer :: rest)) := by
    rw [term_apply, hopening]
  rw [← hterm] at hlist
  rw [List.cons_append, List.append_assoc, List.singleton_append, layer_apply, hopening]
  refine Verdict.GivenRoom.iff ?_ Data.height_list_lt_iff.symm
  exact hlist.andThen fun node hnode => ⟨node, hends.afterOperand expr node, hnode⟩

theorem readsData_of_layer
    (h : ∀ k, ReadsData (layer finish (exprUpTo finish k)) (d.height < k + 1) d) :
    ∀ k, ReadsData (exprUpTo finish k) (d.height < k) d
  | 0 => fun ts rest _ _ =>
      ⟨fun hroom => absurd hroom (Nat.not_lt_zero _), fun _ => ⟨ts ++ rest, rfl⟩⟩
  | k + 1 => h k

/-- **The tokens of data are read as its tree by any limit above its height, and by no
other.** -/
theorem exprUpTo_of_contents (finish : Position) (d : Data) :
    ∀ k, ReadsData (exprUpTo finish k) (d.height < k) d := by
  induction d using Data.induct with
  | nothing =>
      refine readsData_of_layer fun k ts rest hts hends => ?_
      obtain ⟨t, rfl, ht⟩ := List.map_eq_singleton_iff.1 hts
      exact .of_ok (layer_of_name ht hends) (Nat.succ_pos k) (.nothing _)
  | bool b =>
      refine readsData_of_layer fun k ts rest hts hends => ?_
      obtain ⟨t, rfl, ht⟩ := List.map_eq_singleton_iff.1 hts
      exact .of_ok (layer_of_literal ht hends) (Nat.succ_pos k) (.bool b _)
  | int n =>
      refine readsData_of_layer fun k ts rest hts hends => ?_
      obtain ⟨t, rfl, ht⟩ := List.map_eq_singleton_iff.1 hts
      exact .of_ok (layer_of_literal ht hends) (Nat.succ_pos k) (.int n _)
  | text t =>
      refine readsData_of_layer fun k ts rest hts hends => ?_
      obtain ⟨token, rfl, htoken⟩ := List.map_eq_singleton_iff.1 hts
      exact .of_ok (layer_of_literal htoken hends) (Nat.succ_pos k) (.text t _)
  | list items ih =>
      exact readsData_of_layer fun k => layer_of_list fun d hd => ih d hd k

end Whole

end Forward

/-- The text of data is parsed as its tree within a limit above its height, and is nested
too deeply for any other. -/
theorem expressionWithin_of_contents {d : Data} {tokens : List Token}
    (h : tokens.map Token.content = d.contents) (nesting : Nat) (source : Source) :
    (d.height < nesting →
      ∃ node, expressionWithin nesting source tokens = .ok node ∧ Spells node d) ∧
    (nesting ≤ d.height → Parser.Exhausted (expressionWithin nesting source tokens)) := by
  have hwhole := Parser.wholeExpression_eq
    { Parser.Input.ofTokens source tokens with nesting := nesting }
  have hread := Forward.exprUpTo_of_contents source.endPosition d nesting tokens [] h
    Forward.endsData_nil
  rw [List.append_nil] at hread
  constructor
  · intro hroom
    obtain ⟨node, hnode, hspells⟩ := hread.ok hroom
    refine ⟨node, ?_, hspells⟩
    rw [expressionWithin, hwhole]
    exact congrArg (Parser.Input.answer _) hnode
  · intro hno
    obtain ⟨left, hleft⟩ := hread.deep (Nat.not_lt.2 hno)
    have hanswer := hwhole.trans (congrArg (Parser.Input.answer _) hleft)
    rw [expressionWithin, hanswer]
    rfl

end Scriptlet
