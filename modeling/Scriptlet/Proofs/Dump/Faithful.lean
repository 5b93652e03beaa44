/-
# Dumps tell trees apart

A dump shows of each node its kind, its names, its literal, its span by lines and columns,
and the dumps of the nodes below it, each under a name of its own.  All of that can be read
off the dump again.  So trees with equal dumps match node by node
(`matching_of_equal_dumps`).

## What is read off

    kind, names, parameters    texts of their own
    literal                    a value of the document, of the same kind
    span                       one text, `1:5-1:6`, from which the four numbers come back
                               (`samePlace_of_summary`)
    nodes below                under names that depend on the kind only

Offsets are not in a dump.  Two sources that end their lines in different ways have trees
with one dump and different offsets, so a match is about lines and columns
(`partedTrees_match`).

## What is asked

That no literal is dumped as a text that stands for it, as an integer beyond the safe range
is, or a float that is not finite (`Literal.DumpedAsIs`).  Such a literal has the dump of
the text, which may be a literal as well.

Documents are equal as data: sequences item by item, mappings by what they hold under each
name, whatever the order.  What counts as an equal float is a parameter, and the floats of
matching trees are equal in the same sense.
-/
import Scriptlet.Dump.Document
import Scriptlet.Proofs.Syntax.Joined
import Scriptlet.Proofs.Syntax.Nesting
import Scriptlet.Value.Entries

namespace Scriptlet

/-! ## Equal documents -/

namespace Document

/-- What a mapping holds under a name. -/
def field? (name : String) : Document → Option Document
  | map fields => Entries.get? (· == ·) name fields
  | _ => none

/-- Equal as data: values of the same type that are equal, sequences item by item, and
mappings with the same names and equal documents under each of them. -/
inductive Equal (same : Float → Float → Prop) : Document → Document → Prop
  | text (s : String) : Equal same (.text s) (.text s)
  | integer (n : Int) : Equal same (.integer n) (.integer n)
  | float {x y : Float} (h : same x y) : Equal same (.float x) (.float y)
  | flag (b : Bool) : Equal same (.flag b) (.flag b)
  | seq {xs ys : List Document} (hlength : xs.length = ys.length)
      (hitems : ∀ p ∈ xs.zip ys, Equal same p.1 p.2) : Equal same (.seq xs) (.seq ys)
  | map {fs gs : List (String × Document)}
      (hnames : ∀ name, ((map fs).field? name).isSome = ((map gs).field? name).isSome)
      (hfields : ∀ name d e, (map fs).field? name = some d → (map gs).field? name = some e →
        Equal same d e) :
      Equal same (.map fs) (.map gs)

variable {same : Float → Float → Prop} {d e : Document}

theorem Equal.field (h : Equal same d e) (name : String) {u v : Document}
    (hd : d.field? name = some u) (he : e.field? name = some v) : Equal same u v := by
  cases h with
  | map _ hfields => exact hfields name u v hd he
  | _ => cases hd

theorem mem_of_field? {fields : List (String × Document)} {name : String}
    (h : (map fields).field? name = some d) : (name, d) ∈ fields := by
  change Entries.get? _ name fields = some d at h
  induction fields with
  | nil => cases h
  | cons field rest ih =>
      rw [Entries.get?] at h
      split at h
      · next hname =>
          cases h
          rw [← beq_iff_eq.1 hname]
          exact List.mem_cons_self
      · exact List.mem_cons_of_mem _ (ih h)

theorem Equal.text_eq {s t : String} (h : Equal same (.text s) (.text t)) : s = t := by
  cases h
  rfl

theorem Equal.texts_eq {ss ts : List String}
    (h : Equal same (.seq (ss.map .text)) (.seq (ts.map .text))) : ss = ts := by
  cases h with
  | seq hlength hitems =>
      refine List.ext_getElem (by simpa using hlength) fun i hi hi' => ?_
      have hitem := hitems (.text ss[i], .text ts[i])
        (List.mem_iff_getElem.2 ⟨i, by simpa using Nat.lt_min.2 ⟨hi, hi'⟩, by simp⟩)
      exact hitem.text_eq

theorem Equal.refl (hsame : ∀ x, same x x) : ∀ d : Document, Equal same d d
  | .text s => .text s
  | .integer n => .integer n
  | .float x => .float (hsame x)
  | .flag b => .flag b
  | .seq items => by
      refine .seq rfl fun pair hpair => ?_
      obtain ⟨i, hi, rfl⟩ := List.getElem_of_mem hpair
      have hitem : i < items.length := by simpa using hi
      have hsize := List.sizeOf_lt_of_mem (List.getElem_mem hitem)
      rw [List.getElem_zip]
      exact Equal.refl hsame items[i]
  | .map fields => by
      refine .map (fun _ => rfl) fun name u v hu hv => ?_
      obtain rfl := Option.some.inj (hu.symm.trans hv)
      have hsize : sizeOf u < sizeOf fields := by
        have hfield := List.sizeOf_lt_of_mem (mem_of_field? hu)
        rw [Prod.mk.sizeOf_spec] at hfield
        omega
      exact Equal.refl hsame u
termination_by d => sizeOf d
decreasing_by all_goals (simp only [seq.sizeOf_spec, map.sizeOf_spec]; omega)

end Document

/-! ## Places -/

/-- The same lines and columns at both ends, whatever the offsets are. -/
structure Span.SamePlace (s t : Span) : Prop where
  line : s.start.line = t.start.line
  column : s.start.column = t.start.column
  endLine : s.stop.line = t.stop.line
  endColumn : s.stop.column = t.stop.column

/-- A mark that stands in neither of two texts ends both at the same place. -/
theorem eq_of_append_mark {mark : Char} {xs ys us vs : List Char} (hx : mark ∉ xs)
    (hy : mark ∉ ys) (h : xs ++ mark :: us = ys ++ mark :: vs) : xs = ys ∧ us = vs := by
  induction xs generalizing ys with
  | nil =>
      cases ys with
      | nil => exact ⟨rfl, (List.cons.inj h).2⟩
      | cons y ys => exact absurd (List.cons.inj h).1 fun hmark => hy (hmark ▸ List.mem_cons_self)
  | cons x xs ih =>
      cases ys with
      | nil => exact absurd (List.cons.inj h).1 fun hmark => hx (hmark ▸ List.mem_cons_self)
      | cons y ys =>
          obtain ⟨rfl, hrest⟩ := List.cons.inj h
          obtain ⟨rfl, rfl⟩ := ih (fun hm => hx (List.mem_cons_of_mem _ hm))
            (fun hm => hy (List.mem_cons_of_mem _ hm)) hrest
          exact ⟨rfl, rfl⟩

theorem toDigits_inj {m n : Nat} (h : Nat.toDigits 10 m = Nat.toDigits 10 n) : m = n := by
  have hread := congrArg (Nat.ofDigitChars 10 · 0) h
  simpa using hread

/-- Numbers in front of a mark that is no digit can be read off a text. -/
theorem eq_of_number_mark {mark : Char} (hmark : mark.isDigit = false) {m n : Nat}
    {us vs : List Char}
    (h : Nat.toDigits 10 m ++ mark :: us = Nat.toDigits 10 n ++ mark :: vs) :
    m = n ∧ us = vs := by
  have hdigits (k : Nat) : mark ∉ Nat.toDigits 10 k := by
    intro hmem
    rw [Nat.isDigit_of_mem_toDigits (by decide) (by decide) hmem] at hmark
    cases hmark
  obtain ⟨hnumber, hrest⟩ := eq_of_append_mark (hdigits m) (hdigits n) h
  exact ⟨toDigits_inj hnumber, hrest⟩

theorem Span.toList_summary (s : Span) :
    s.summary.toList =
      Nat.toDigits 10 s.start.line ++ ':' :: (Nat.toDigits 10 s.start.column ++ '-' ::
        (Nat.toDigits 10 s.stop.line ++ ':' :: Nat.toDigits 10 s.stop.column)) := by
  simp [summary]

/-- The four numbers can be read off the text for a span. -/
theorem Span.samePlace_of_summary {s t : Span} (h : s.summary = t.summary) : s.SamePlace t := by
  have hchars := congrArg String.toList h
  rw [toList_summary, toList_summary] at hchars
  obtain ⟨hline, hchars⟩ := eq_of_number_mark (by decide) hchars
  obtain ⟨hcolumn, hchars⟩ := eq_of_number_mark (by decide) hchars
  obtain ⟨hendLine, hchars⟩ := eq_of_number_mark (by decide) hchars
  exact ⟨hline, hcolumn, hendLine, toDigits_inj hchars⟩

/-! ## Matching trees -/

/-- A literal that is dumped as itself: no integer beyond the safe range, and no float that
is not finite. -/
def Literal.DumpedAsIs : Literal → Prop
  | .integer n => n ≤ safeIntegerMax
  | .float x => x.isFinite = true
  | .boolean _ | .text _ => True

inductive Literal.Same (same : Float → Float → Prop) : Literal → Literal → Prop
  | boolean (b : Bool) : Same same (.boolean b) (.boolean b)
  | integer (n : Nat) : Same same (.integer n) (.integer n)
  | float {x y : Float} (h : same x y) : Same same (.float x) (.float y)
  | text (s : String) : Same same (.text s) (.text s)

namespace Node

/-- All literals of the tree are dumped as they are. -/
def DumpedAsIs (node : Node) : Prop :=
  ∀ l span, .literal l span ∈ node.walk → Literal.DumpedAsIs l

/-- The same kind of node, with the same names, parameters and literal. -/
inductive SameHead (same : Float → Float → Prop) : Node → Node → Prop
  | comment (text : String) (s t : Span) : SameHead same (.comment text s) (.comment text t)
  | literal {l m : Literal} (h : l.Same same m) (s t : Span) :
      SameHead same (.literal l s) (.literal m t)
  | identifier (name : String) (s t : Span) :
      SameHead same (.identifier name s) (.identifier name t)
  | assignment (name : String) (v w : Node) (s t : Span) :
      SameHead same (.assignment name v s) (.assignment name w t)
  | function (params : List String) (b c : Node) (s t : Span) :
      SameHead same (.function params b s) (.function params c t)
  | call (callee : String) (xs ys : List Node) (s t : Span) :
      SameHead same (.call callee xs s) (.call callee ys t)
  | statements (xs ys : List Node) (s t : Span) :
      SameHead same (.statements xs s) (.statements ys t)
  | block (xs ys : List Node) (i j s t : Span) :
      SameHead same (.block xs i s) (.block ys j t)
  | list (xs ys : List Node) (s t : Span) : SameHead same (.list xs s) (.list ys t)

/-- Trees that match node by node, each node with the same lines and columns. -/
inductive Matches (same : Float → Float → Prop) : Node → Node → Prop
  | node {p q : Node} (hhead : p.SameHead same q) (hplace : p.span.SamePlace q.span)
      (hlength : p.children.length = q.children.length)
      (hchildren : ∀ pair ∈ p.children.zip q.children, Matches same pair.1 pair.2) :
      Matches same p q

/-- What holds of a node if it holds of the nodes directly below holds of every node. -/
theorem of_children {P : Node → Prop} (step : ∀ node, (∀ c ∈ node.children, P c) → P node)
    (node : Node) : P node := by
  refine step node fun c hc => ?_
  have hsize : sizeOf c < sizeOf node := by
    cases node with
    | comment | literal | identifier => cases hc
    | assignment | function =>
        rw [List.mem_singleton.1 hc]
        simp only [assignment.sizeOf_spec, function.sizeOf_spec]
        omega
    | block items inner span =>
        rw [List.mem_singleton.1 hc]
        cases span
        simp only [block.sizeOf_spec, statements.sizeOf_spec, Span.mk.sizeOf_spec]
        omega
    | call | statements | list =>
        have := List.sizeOf_lt_of_mem hc
        simp only [children, call.sizeOf_spec, statements.sizeOf_spec, list.sizeOf_spec] at *
        omega
  exact of_children step c
termination_by sizeOf node

theorem DumpedAsIs.child {node c : Node} (h : node.DumpedAsIs) (hc : c ∈ node.children) :
    c.DumpedAsIs := by
  intro l span hl
  exact h l span (walk_subset_of_mem_children hc hl)

end Node

/-! ## Reading dumps -/

namespace Document

variable {same : Float → Float → Prop} {p q : Node} {ps qs : List Node}

theorem field?_type (p : Node) : (ofNode p).field? "type" = some (.text p.label) := by
  cases p <;> rfl

theorem field?_loc (p : Node) : (ofNode p).field? "loc" = some (.text p.span.summary) := by
  cases p <;> rfl

theorem ofNodes_eq_map (nodes : List Node) : ofNodes nodes = nodes.map ofNode := by
  induction nodes with
  | nil => rfl
  | cons node rest ih => rw [ofNodes, ih, List.map_cons]

theorem Equal.children (h : Equal same (.seq (ofNodes ps)) (.seq (ofNodes qs))) :
    ps.length = qs.length ∧
      ∀ pair ∈ ps.zip qs, Equal same (ofNode pair.1) (ofNode pair.2) := by
  rw [ofNodes_eq_map, ofNodes_eq_map] at h
  cases h with
  | seq hlength hitems =>
      refine ⟨by simpa using hlength, fun pair hpair => ?_⟩
      refine hitems (ofNode pair.1, ofNode pair.2) ?_
      rw [List.zip_map]
      exact List.mem_map_of_mem hpair

theorem ofLiteral_of_asIs {l : Literal} (h : l.DumpedAsIs) :
    ofLiteral l = match l with
      | .boolean b => .flag b
      | .integer n => .integer n
      | .float x => .float x
      | .text s => .text s := by
  cases l with
  | boolean b => rfl
  | integer n => exact if_neg (Nat.not_lt.2 h)
  | float x => exact if_pos h
  | text s => rfl

/-- A literal that is dumped as it is can be read off its dump, with its type. -/
theorem Equal.literal {l m : Literal} (hl : l.DumpedAsIs) (hm : m.DumpedAsIs)
    (h : Equal same (ofLiteral l) (ofLiteral m)) : l.Same same m := by
  rw [ofLiteral_of_asIs hl, ofLiteral_of_asIs hm] at h
  cases l <;> cases m <;> cases h
  case boolean => exact .boolean _
  case integer => exact .integer _
  case float.float.float h => exact .float h
  case text => exact .text _

/-- Kind, names and literal of a node can be read off its dump, and so can the dumps of the
nodes directly below it. -/
theorem Equal.head (h : Equal same (ofNode p) (ofNode q)) (hp : p.DumpedAsIs)
    (hq : q.DumpedAsIs) :
    p.SameHead same q ∧ p.children.length = q.children.length ∧
      ∀ pair ∈ p.children.zip q.children, Equal same (ofNode pair.1) (ofNode pair.2) := by
  have hlabel : p.label = q.label := (h.field "type" (field?_type p) (field?_type q)).text_eq
  have childless : ∀ pair ∈ ([] : List Node).zip ([] : List Node),
      Equal same (ofNode pair.1) (ofNode pair.2) := nofun
  have onlyChild {c d : Node} (h : Equal same (ofNode c) (ofNode d)) :
      ∀ pair ∈ [c].zip [d], Equal same (ofNode pair.1) (ofNode pair.2) := by
    simpa using h
  cases p with
  | comment text span =>
      cases q with
      | comment text' span' =>
          obtain rfl := (h.field "text" rfl rfl).text_eq
          exact ⟨.comment text span span', rfl, childless⟩
      | _ => exact absurd hlabel (by simp [Node.label])
  | literal l span =>
      cases q with
      | literal l' span' =>
          have hl := hp l span List.mem_cons_self
          have hl' := hq l' span' List.mem_cons_self
          exact ⟨.literal ((h.field "value" rfl rfl).literal hl hl') span span', rfl, childless⟩
      | _ => exact absurd hlabel (by simp [Node.label])
  | identifier name span =>
      cases q with
      | identifier name' span' =>
          obtain rfl := (h.field "name" rfl rfl).text_eq
          exact ⟨.identifier name span span', rfl, childless⟩
      | _ => exact absurd hlabel (by simp [Node.label])
  | assignment name value span =>
      cases q with
      | assignment name' value' span' =>
          obtain rfl := (h.field "name" rfl rfl).text_eq
          exact ⟨.assignment name value value' span span', rfl,
            onlyChild (h.field "value" rfl rfl)⟩
      | _ => exact absurd hlabel (by simp [Node.label])
  | function params body span =>
      cases q with
      | function params' body' span' =>
          obtain rfl := (h.field "params" rfl rfl).texts_eq
          exact ⟨.function params body body' span span', rfl, onlyChild (h.field "body" rfl rfl)⟩
      | _ => exact absurd hlabel (by simp [Node.label])
  | call callee args span =>
      cases q with
      | call callee' args' span' =>
          obtain rfl := (h.field "callee" rfl rfl).text_eq
          exact ⟨.call callee args args' span span', (h.field "args" rfl rfl).children⟩
      | _ => exact absurd hlabel (by simp [Node.label])
  | statements items span =>
      cases q with
      | statements items' span' =>
          exact ⟨.statements items items' span span', (h.field "statements" rfl rfl).children⟩
      | _ => exact absurd hlabel (by simp [Node.label])
  | block items inner span =>
      cases q with
      | block items' inner' span' =>
          have hbody : Equal same (ofNode (.statements items inner))
              (ofNode (.statements items' inner')) := h.field "body" rfl rfl
          exact ⟨.block items items' inner inner' span span', rfl, onlyChild hbody⟩
      | _ => exact absurd hlabel (by simp [Node.label])
  | list items span =>
      cases q with
      | list items' span' =>
          exact ⟨.list items items' span span', (h.field "items" rfl rfl).children⟩
      | _ => exact absurd hlabel (by simp [Node.label])

end Document

/-- **Equal dumps are dumps of trees that match node by node**: the same kinds of node, names,
parameters and literals, and the same lines and columns. -/
theorem matching_of_equal_dumps (same : Float → Float → Prop) {p q : Node}
    (hp : p.DumpedAsIs) (hq : q.DumpedAsIs)
    (h : (Document.ofNode p).Equal same (Document.ofNode q)) : p.Matches same q := by
  induction p using Node.of_children generalizing q with
  | step p ih =>
      have hplace : p.span.summary = q.span.summary :=
        (h.field "loc" (Document.field?_loc p) (Document.field?_loc q)).text_eq
      obtain ⟨hhead, hlength, hchildren⟩ := h.head hp hq
      refine .node hhead (Span.samePlace_of_summary hplace) hlength fun pair hpair => ?_
      obtain ⟨hc, hd⟩ := List.of_mem_zip hpair
      exact ih pair.1 hc (hp.child hc) (hq.child hd) (hchildren pair hpair)

/-! ## Two trees with one dump -/

/-- An assignment over two lines, with the given characters between them. -/
def parted (ends : List Char) : Source :=
  { text := String.ofList ("x =".toList ++ ends ++ "1;".toList) }

def partedPieces (ends : List Char) : List Piece :=
  [⟨.identifier, ['x']⟩, ⟨.whitespace, [' ']⟩, ⟨.operator, ['=']⟩, ⟨.newline, ends⟩,
    ⟨.integer, ['1']⟩, ⟨.operator, [';']⟩]

/-- The tree of `parted`, by the offset at which the second line begins. -/
def partedTree (offset : Nat) : Node :=
  .statements
    [.assignment "x" (.literal (.integer 1) ⟨⟨offset, 2, 1⟩, ⟨offset + 1, 2, 2⟩⟩)
      ⟨⟨0, 1, 1⟩, ⟨offset + 1, 2, 2⟩⟩]
    ⟨⟨0, 1, 1⟩, ⟨offset + 2, 2, 3⟩⟩

/-- `parted` is read as a tree. -/
def PartedInto (ends : List Char) (tree : Node) : Prop :=
  ∃ tokens, tokenize (parted ends) = .ok tokens ∧ parseProgram (parted ends) tokens = .ok tree

theorem parted_by_one : PartedInto ['\n'] (partedTree 4) :=
  ⟨_, tokenize_eq_ok_iff.2 ⟨partedPieces ['\n'], by decide +kernel, by decide +kernel, rfl⟩,
    parseProgram_eq_ok_iff.2 ⟨_, rfl, rfl⟩⟩

theorem parted_by_two : PartedInto ['\r', '\n'] (partedTree 5) :=
  ⟨_, tokenize_eq_ok_iff.2 ⟨partedPieces ['\r', '\n'], by decide +kernel, by decide +kernel, rfl⟩,
    parseProgram_eq_ok_iff.2 ⟨_, rfl, rfl⟩⟩

theorem dumpedAsIs_partedTree (offset : Nat) : (partedTree offset).DumpedAsIs := by
  intro l span hl
  simp only [partedTree, Node.walk, Node.walkAll, List.append_nil, List.mem_cons, reduceCtorEq,
    Node.literal.injEq, List.not_mem_nil, or_false, false_or] at hl
  rw [hl.1]
  exact (by decide : 1 ≤ safeIntegerMax)

/-- The offsets differ, but no dump shows them. -/
theorem partedTrees_match :
    PartedInto ['\n'] (partedTree 4) ∧ PartedInto ['\r', '\n'] (partedTree 5) ∧
      Document.ofNode (partedTree 4) = Document.ofNode (partedTree 5) ∧
      (partedTree 4).Matches Eq (partedTree 5) := by
  have hdumps : Document.ofNode (partedTree 4) = Document.ofNode (partedTree 5) := rfl
  have hequal : (Document.ofNode (partedTree 4)).Equal Eq (Document.ofNode (partedTree 5)) :=
    hdumps ▸ .refl (fun _ => rfl) _
  exact ⟨parted_by_one, parted_by_two, hdumps,
    matching_of_equal_dumps Eq (dumpedAsIs_partedTree 4) (dumpedAsIs_partedTree 5) hequal⟩

end Scriptlet
