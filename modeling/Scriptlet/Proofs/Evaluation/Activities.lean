/-
# Activities

An activity is a task at work: the store that it begins with, and how deep it may go.
There are five ways in which one activity is `Inside` another: as a part of a node, as the
application that a call makes, as the body of a closure, as a function that is called back,
and as the program of an included file.  `Link.hand` says what becomes of a fault on the way
out of each.

An activity that fails hands on the fault of one inside it, or what goes wrong is its own:
`Activity.Fails.of_eval` for evaluations, of which only calls go wrong by themselves, and
`Activity.Fails.of_library` for applications in the library.

A function of the host may do as it pleases with the fault of a function that it calls back:
drop it, hand it on, or fail in another way.  Only for a host that lets faults through
(`Host.LetsThrough`) is it true again that what fails inside fails in the same way outside
(`Activity.Fails.of_host`).
-/
import Scriptlet.Proofs.Evaluation.InlineCall
import Scriptlet.Proofs.Evaluation.Hearing

namespace Scriptlet

open Evaluator

/-! ## Sequences that stop -/

section Sequences

variable {next : Task → Run Value} {scope : Scope} {nodes : List Node} {fault : Fault}
  {s s' : Store}

/-- Nodes that are evaluated in order stop at one of them, when those before it are done. -/
theorem stop_of_evalAll (h : evalAll next scope nodes s = .error fault s') :
    ∃ before item after values s₁, nodes = before ++ item :: after ∧
      evalAll next scope before s = .ok values s₁ ∧
      next (.eval scope item) s₁ = .error fault s' := by
  induction nodes generalizing s with
  | nil => cases h
  | cons node rest ih =>
      rcases Run.error_of_bind h with hnode | ⟨v, s₁, hnode, h⟩
      · exact ⟨[], node, rest, [], s, rfl, rfl, hnode⟩
      · rcases Run.error_of_bind h with hrest | ⟨vs, s₂, -, hdone⟩
        · obtain ⟨before, item, after, values, s₂, rfl, hbefore, hitem⟩ := ih hrest
          refine ⟨node :: before, item, after, v :: values, s₂, rfl, ?_, hitem⟩
          unfold evalAll
          rw [Run.bind_of_ok hnode, Run.bind_of_ok hbefore]
          rfl
        · cases hdone

theorem evalAll_of_stop {before after : List Node} {item : Node} {values : List Value}
    {s₁ : Store} (hbefore : evalAll next scope before s = .ok values s₁)
    (hitem : next (.eval scope item) s₁ = .error fault s') :
    evalAll next scope (before ++ item :: after) s = .error fault s' := by
  induction before generalizing s values with
  | nil =>
      cases hbefore
      exact Run.bind_of_error hitem
  | cons node before ih =>
      obtain ⟨v, s₂, hnode, hrest⟩ := Run.ok_of_bind hbefore
      obtain ⟨more, s₃, hmore, hdone⟩ := Run.ok_of_bind hrest
      cases hdone
      exact (Run.bind_of_ok hnode).trans (Run.bind_of_error (ih hmore))

theorem completes_of_evalAll {before after : List Node} {item : Node} {all values : List Value}
    {s₁ : Store} (hall : evalAll next scope (before ++ item :: after) s = .ok all s')
    (hbefore : evalAll next scope before s = .ok values s₁) :
    ∃ v s₂, next (.eval scope item) s₁ = .ok v s₂ := by
  induction before generalizing s all values with
  | nil =>
      cases hbefore
      obtain ⟨v, s₂, hitem, -⟩ := Run.ok_of_bind hall
      exact ⟨v, s₂, hitem⟩
  | cons node before ih =>
      obtain ⟨v, s₂, hnode, hrest⟩ := Run.ok_of_bind hall
      obtain ⟨more, s₃, hmore, hdone⟩ := Run.ok_of_bind hrest
      cases hdone
      obtain ⟨w, s₄, hnode', hrest'⟩ := Run.ok_of_bind hbefore
      cases hnode.symm.trans hnode'
      obtain ⟨fewer, s₅, hfewer, hdone⟩ := Run.ok_of_bind hrest'
      cases hdone
      exact ih hmore hfewer

/-- Statements stop where the same nodes would, evaluated for their values. -/
theorem evalAll_of_evalStatements {last : Value}
    (h : evalStatements next scope last nodes s = .error fault s') :
    evalAll next scope nodes s = .error fault s' := by
  induction nodes generalizing last s with
  | nil => cases h
  | cons node rest ih =>
      rcases Run.error_of_bind h with hnode | ⟨v, s₁, hnode, hrest⟩
      · exact Run.bind_of_error hnode
      · exact (Run.bind_of_ok hnode).trans (Run.bind_of_error (ih hrest))

theorem evalStatements_of_evalAll (last : Value)
    (h : evalAll next scope nodes s = .error fault s') :
    evalStatements next scope last nodes s = .error fault s' := by
  induction nodes generalizing last s with
  | nil => cases h
  | cons node rest ih =>
      rcases Run.error_of_bind h with hnode | ⟨v, s₁, hnode, hrest⟩
      · exact Run.bind_of_error hnode
      · rcases Run.error_of_bind hrest with hrest | ⟨vs, s₂, -, hdone⟩
        · exact (Run.bind_of_ok hnode).trans (ih v hrest)
        · cases hdone

end Sequences

/-! ## Activities -/

/-- A task at work. -/
structure Activity where
  /-- How many tasks may be inside one another, with this one. -/
  depth : Nat
  task : Task
  store : Store

/-- The activity stops with a fault. -/
def Activity.Fails (host : Host) (a : Activity) (fault : Fault) : Prop :=
  ∃ s', perform host a.depth a.task a.store = .error fault s'

/-- How one activity is inside another. -/
inductive Link where
  /-- A part of a node, which is evaluated before the node does anything with it. -/
  | part
  /-- The application that a call makes. -/
  | call (callee : String) (location : Location)
  /-- The body of a closure. -/
  | body
  /-- A function that a function of the library or of the host calls back. -/
  | callback
  /-- The program of an included file. -/
  | file (path : String) (location : Location)

/-- An error behind the layer of an `include`. -/
def Diagnostic.inFile (path : String) (location : Location) (d : Diagnostic) : Diagnostic :=
  ⟨.evaluation, .includeFailed path (includeDetail d), some location⟩

/-- What the fault of an activity is to the activity around it. -/
def Link.hand : Link → Fault → Fault
  | .call callee location, .raised mishap =>
    .script ⟨.evaluation, .callFailed callee mishap.category mishap.reason, some location⟩
  | .call _ location, .exhausted => .script ⟨.evaluation, .recursionTooDeep, some location⟩
  | .call .., .wordlessFailure why => why.fault
  | .file path location, .script d => .script (d.inFile path location)
  | .file path location, .exhausted =>
    .script ⟨.evaluation, .includeFailed path "maximum recursion depth exceeded", some location⟩
  | .file .., .wordlessError why => why.fault
  | _, fault => fault

section Handing

variable {fault e : Fault} {s s' : Store}

theorem hand_of_blameCall {callee : String} {location : Location}
    (h : (blameCall callee location e : Run Value) s = .error fault s') :
    fault = (Link.call callee location).hand e := by
  cases e with
  | _ =>
      cases h
      rfl

theorem hand_of_blameInclude {path : String} {location : Location}
    (h : (blameInclude path location e : Run Value) s = .error fault s') :
    fault = (Link.file path location).hand e := by
  cases e with
  | _ =>
      cases h
      rfl

end Handing

/-- The value of a name in a scope. -/
def Scope.value (scope : Scope) (s : Store) (name : String) : Value :=
  ((s.frame scope.frame).get? name).getD .nothing

theorem Scope.lookup_eq (scope : Scope) (s : Store) (name : String) :
    Run.lookup scope.frame name s = .ok (scope.value s name) s := rfl

/-- The store in which a path has been asked for. -/
def Store.request (path : String) (base : Option String) (s : Store) : Store :=
  match File.Path.resolve s.world.place path base with
  | .ok full => { s with requested := full :: s.requested }
  | .error _ => s

/-- The nodes that are evaluated in turn when a node is.  A call looks for its function
before, and evaluates nothing where there is none. -/
def Node.parts (scope : Scope) (s : Store) : Node → List Node
  | .assignment _ value _ => [value]
  | .statements items _ | .block items _ _ | .list items _ => items
  | .call callee args _ =>
    if callee = includeWord ∨ (scope.value s callee).callable?.isSome then args else []
  | .literal .. | .comment .. | .identifier .. | .function .. => []

theorem Node.parts_call {scope : Scope} {s : Store} {callee : String} {args : List Node}
    {span : Span} (h : callee = includeWord ∨ (scope.value s callee).callable?.isSome) :
    (Node.call callee args span).parts scope s = args := by
  rw [Node.parts, if_pos h]

/-- From the store `s` on the conduct comes to apply `g` to `xs` in `s₁`. -/
inductive Conduct.Calls (call : Value → List Value → Run Value) :
    Conduct → Store → (g : Value) → (xs : List Value) → (s₁ : Store) → Prop
  | here {g : Value} {xs : List Value} {next : Except Fault Value → Conduct} {s : Store} :
      Calls call (.call g xs next) s g xs s
  | onward {f g : Value} {args xs : List Value} {next : Except Fault Value → Conduct}
      {outcome : Except Fault Value} {s s' s₁ : Store}
      (h : (call f args).settle s = .ok outcome s') (rest : Calls call (next outcome) s' g xs s₁) :
      Calls call (.call f args next) s g xs s₁
  | act {edit : Edit} {next : Store → Conduct} {g : Value} {xs : List Value} {s s₁ : Store}
      (rest : Calls call (next s) (edit.make s) g xs s₁) : Calls call (.act edit next) s g xs s₁

/-- The calls that functions of the library and of the host make back: the function `f`,
applied to `args` in `s`, applies `g` to `xs` in `s₁`. -/
inductive CallsBack (host : Host) (call : Value → List Value → Run Value) :
    (f : Value) → (args : List Value) → (s : Store) → (g : Value) → (xs : List Value) →
      (s₁ : Store) → Prop
  | chosen {recorder : RecorderRef} {cond yes : Value} {more : List Value} {s : Store}
      (hmore : more.length ≤ 1) (hcond : s.isTrue cond = true) :
      CallsBack host call (.function (.library recorder .if)) (cond :: yes :: more) s yes [] s
  | otherwise {recorder : RecorderRef} {cond yes no : Value} {s : Store}
      (hcond : s.isTrue cond = false) (hno : no ≠ .nothing) :
      CallsBack host call (.function (.library recorder .if)) [cond, yes, no] s no [] s
  | each {recorder : RecorderRef} {items f item : Value} {front rest : List Value} {s s₁ : Store}
      (hitems : Library.iterate s items = .ok (front ++ item :: rest))
      (hfront : Library.callEach call f 0 front s = .ok () s₁) :
      CallsBack host call (.function (.library recorder .each)) [items, f] s f
        [item, .int front.length] s₁
  | host {f : HostFunction} {g : Value} {args xs : List Value} {s s₁ : Store}
      (h : (host.conduct f args).Calls call s g xs s₁) :
      CallsBack host call (.function (.host f)) args s g xs s₁

theorem CallsBack.first {host : Host} {call : Value → List Value → Run Value}
    {recorder : RecorderRef} {items f item : Value} {rest : List Value} {s : Store}
    (h : Library.iterate s items = .ok (item :: rest)) :
    CallsBack host call (.function (.library recorder .each)) [items, f] s f [item, .int 0] s := by
  have hitems : Library.iterate s items = .ok ([] ++ item :: rest) := h
  exact .each hitems rfl

/-- The first activity is one that the second starts. -/
inductive Inside (host : Host) : Link → Activity → Activity → Prop
  | part {depth : Nat} {scope : Scope} {node item : Node} {before after : List Node}
      {values : List Value} {s s₁ : Store} (hparts : node.parts scope s = before ++ item :: after)
      (hbefore : evalAll (perform host depth) scope before s = .ok values s₁) :
      Inside host .part ⟨depth, .eval scope item, s₁⟩ ⟨depth + 1, .eval scope node, s⟩
  | call {depth : Nat} {scope : Scope} {callee : String} {args : List Node} {span : Span}
      {f : Callable} {values : List Value} {s s₁ : Store} (hcallee : callee ≠ includeWord)
      (hf : scope.value s callee = .function f)
      (hargs : evalAll (perform host depth) scope args s = .ok values s₁) :
      Inside host (.call callee (.ofSpan scope.source span))
        ⟨depth, .apply (.function f) values, s₁⟩
        ⟨depth + 1, .eval scope (.call callee args span), s⟩
  | body {depth : Nat} {c : Closure} {args : List Value} {s : Store} :
      Inside host .body ⟨depth, c.bodyTask s, c.enter args s⟩ ⟨depth + 1, c.call args, s⟩
  | callback {depth : Nat} {f g : Value} {args xs : List Value} {s s₁ : Store}
      (h : CallsBack host (fun g xs => perform host depth (.apply g xs)) f args s g xs s₁) :
      Inside host .callback ⟨depth, .apply g xs, s₁⟩ ⟨depth + 1, .apply f args, s⟩
  | file {depth : Nat} {scope : Scope} {args : List Node} {span : Span} {path : String}
      {source : Source} {tokens : List Token} {program : Node} {s s₁ : Store}
      (hargs : evalAll (perform host depth) scope args s = .ok [.text path] s₁)
      (hread : Source.read s₁.world .utf8 path (includeBase s₁ scope) = .ok source)
      (htokens : tokenize source = .ok tokens)
      (hparse : parseProgram source tokens = .ok program) :
      Inside host (.file path (.ofSpan scope.source span))
        ⟨depth, .eval { scope with source := source } program,
          s₁.request path (includeBase s₁ scope)⟩
        ⟨depth + 1, .eval scope (.call includeWord args span), s⟩

/-- The fault is what becomes of the fault of an activity inside. -/
def Activity.HandsOn (host : Host) (a : Activity) (fault : Fault) : Prop :=
  ∃ link inner e, Inside host link inner a ∧ inner.Fails host e ∧ fault = link.hand e

/-- A call is refused by itself. -/
inductive Refuses (host : Host) : Activity → Diagnostic → Prop
  | notCallable {depth : Nat} {scope : Scope} {callee : String} {args : List Node} {span : Span}
      {s : Store} (hcallee : callee ≠ includeWord)
      (hnone : (scope.value s callee).callable? = none) :
      Refuses host ⟨depth + 1, .eval scope (.call callee args span), s⟩
        ⟨.evaluation, .notCallable callee (scope.value s callee).kindWord,
          some (.ofSpan scope.source span)⟩
  | arguments {depth : Nat} {scope : Scope} {args : List Node} {span : Span}
      {values : List Value} {s s₁ : Store}
      (hargs : evalAll (perform host depth) scope args s = .ok values s₁)
      (hpath : ∀ path, values ≠ [.text path]) :
      Refuses host ⟨depth + 1, .eval scope (.call includeWord args span), s⟩
        ⟨.evaluation, .includeArguments, some (.ofSpan scope.source span)⟩
  | unread {depth : Nat} {scope : Scope} {args : List Node} {span : Span} {path : String}
      {why : File.Fault} {s s₁ : Store}
      (hargs : evalAll (perform host depth) scope args s = .ok [.text path] s₁)
      (hread : Source.read s₁.world .utf8 path (includeBase s₁ scope) = .error why) :
      Refuses host ⟨depth + 1, .eval scope (.call includeWord args span), s⟩
        ⟨.evaluation, .includeFailed path why.reason, some (.ofSpan scope.source span)⟩
  | unloaded {depth : Nat} {scope : Scope} {args : List Node} {span : Span} {path : String}
      {source : Source} {e : Diagnostic} {s s₁ : Store}
      (hargs : evalAll (perform host depth) scope args s = .ok [.text path] s₁)
      (hread : Source.read s₁.world .utf8 path (includeBase s₁ scope) = .ok source)
      (hload : tokenize source = .error (.refused e) ∨
        ∃ tokens, tokenize source = .ok tokens ∧ parseProgram source tokens = .error e) :
      Refuses host ⟨depth + 1, .eval scope (.call includeWord args span), s⟩
        (e.inFile path (.ofSpan scope.source span))

/-- An `include` reads a file with an integer literal of too many digits.  That is no error of
the script, and the `include` lets it pass. -/
inductive Overlong (host : Host) : Activity → TooManyDigits → Prop
  | file {depth : Nat} {scope : Scope} {args : List Node} {span : Span} {path : String}
      {source : Source} {digits : TooManyDigits} {s s₁ : Store}
      (hargs : evalAll (perform host depth) scope args s = .ok [.text path] s₁)
      (hread : Source.read s₁.world .utf8 path (includeBase s₁ scope) = .ok source)
      (h : tokenize source = .error (.tooManyDigits digits)) :
      Overlong host ⟨depth + 1, .eval scope (.call includeWord args span), s⟩ digits

/-! ## Evaluations that fail -/

section Evaluations

variable {host : Host} {depth : Nat} {scope : Scope} {s s' : Store} {fault : Fault}

/-- A node other than a call stops only where one of its parts does. -/
theorem part_of_evalNode {next : Task → Run Value} {node : Node}
    (hnode : ∀ callee args span, node ≠ .call callee args span)
    (h : evalNode next scope node s = .error fault s') :
    evalAll next scope (node.parts scope s) s = .error fault s' := by
  cases node with
  | literal value span => cases h
  | comment text span => cases h
  | identifier name span => cases h
  | function params body span => cases h
  | assignment name value span =>
      rcases Run.error_of_bind h with hvalue | ⟨v, s₁, -, hbind⟩
      · exact Run.bind_of_error hvalue
      · cases hbind
  | statements items span => exact evalAll_of_evalStatements h
  | block items inner span => exact evalAll_of_evalStatements h
  | list items span =>
      rcases Run.error_of_bind h with hitems | ⟨values, s₁, -, hnew⟩
      · exact hitems
      · cases hnew
  | call callee args span => exact absurd rfl (hnode callee args span)

theorem eq_function_of_callable {v : Value} {f : Callable} (h : v.callable? = some f) :
    v = .function f := by
  cases v with
  | function g =>
      cases h
      rfl
  | _ => cases h

theorem evalNode_call {next : Task → Run Value} {callee : String} {args : List Node}
    {span : Span} (h : callee ≠ includeWord) :
    evalNode next scope (.call callee args span) =
      evalCall next scope callee args (.ofSpan scope.source span) :=
  if_neg (by simpa using h)

theorem evalCall_of_function {next : Task → Run Value} {callee : String} {args : List Node}
    {location : Location} {f : Callable} (hf : scope.value s callee = .function f) :
    evalCall next scope callee args location s =
      (evalAll next scope args >>= fun values =>
        (next (.apply (.function f) values)).onFault (blameCall callee location)) s := by
  unfold evalCall
  rw [Run.bind_of_ok (scope.lookup_eq s callee), hf]
  rfl

/-- A call by name stops because there is nothing to call, because one of its arguments
stops, or because the application does. -/
theorem error_of_evalCall {next : Task → Run Value} {callee : String} {args : List Node}
    {location : Location} (h : evalCall next scope callee args location s = .error fault s') :
    ((scope.value s callee).callable? = none ∧
        fault = .script ⟨.evaluation, .notCallable callee (scope.value s callee).kindWord,
          some location⟩) ∨
      ∃ f, scope.value s callee = .function f ∧
        (evalAll next scope args s = .error fault s' ∨
          ∃ values s₁ e s₂, evalAll next scope args s = .ok values s₁ ∧
            next (.apply (.function f) values) s₁ = .error e s₂ ∧
            fault = (Link.call callee location).hand e) := by
  unfold evalCall at h
  rw [Run.bind_of_ok (scope.lookup_eq s callee)] at h
  cases hf : (scope.value s callee).callable? with
  | none =>
      rw [hf] at h
      cases h
      exact .inl ⟨rfl, rfl⟩
  | some f =>
      rw [hf] at h
      have hvalue := eq_function_of_callable hf
      refine .inr ⟨f, hvalue, ?_⟩
      rcases Run.error_of_bind h with hargs | ⟨values, s₁, hargs, happly⟩
      · exact .inl hargs
      · obtain ⟨e, s₂, hfails, hblame⟩ := Run.error_of_onFault happly
        rw [hvalue] at hfails
        exact .inr ⟨values, s₁, e, s₂, hargs, hfails, hand_of_blameCall hblame⟩

theorem fetch_eq (scope : Scope) (path : String) (s : Store) :
    fetch scope path s = .ok (Source.read s.world .utf8 path (includeBase s scope))
      (s.request path (includeBase s scope)) := rfl

theorem evalInclude_of_path {next : Task → Run Value} {args : List Node} {location : Location}
    {path : String} {s₁ : Store} (hargs : evalAll next scope args s = .ok [.text path] s₁) :
    evalInclude next scope args location s =
      (match Source.read s₁.world .utf8 path (includeBase s₁ scope) with
        | .error why => Run.report (.includeFailed path why.reason) location
        | .ok source =>
          (load source >>= fun loaded =>
            next (.eval { scope with source := source } loaded.2)).onFault
            (blameInclude path location)) (s₁.request path (includeBase s₁ scope)) := by
  unfold evalInclude
  rw [Run.bind_of_ok hargs]
  show (fetch scope path >>= _) s₁ = _
  rewrite [Run.bind_of_ok (fetch_eq scope path s₁)]
  cases Source.read s₁.world .utf8 path (includeBase s₁ scope) with
  | _ => rfl

/-- A source that cannot be loaded is refused by the scanner or by the parser, or has an
integer literal of too many digits. -/
theorem error_of_load {source : Source} (h : load source s = .error fault s') :
    (∃ e, fault = .script e ∧ (tokenize source = .error (.refused e) ∨
        ∃ tokens, tokenize source = .ok tokens ∧ parseProgram source tokens = .error e)) ∨
      ∃ t, fault = .raised (.literalTooLong t) ∧ tokenize source = .error (.tooManyDigits t) := by
  unfold load at h
  cases htokens : tokenize source with
  | error e =>
      rw [htokens] at h
      cases e with
      | refused d =>
          cases h
          exact .inl ⟨d, rfl, .inl rfl⟩
      | tooManyDigits t =>
          cases h
          exact .inr ⟨t, rfl, rfl⟩
  | ok tokens =>
      rw [htokens] at h
      cases hparse : parseProgram source tokens with
      | error d =>
          simp only [hparse] at h
          cases h
          exact .inl ⟨d, rfl, .inr ⟨tokens, rfl, hparse⟩⟩
      | ok program =>
          simp only [hparse] at h
          cases h

theorem ok_of_load {source : Source} {loaded : List Token × Node}
    (h : load source s = .ok loaded s') :
    s' = s ∧ tokenize source = .ok loaded.1 ∧ parseProgram source loaded.1 = .ok loaded.2 := by
  unfold load at h
  cases htokens : tokenize source with
  | error e =>
      rw [htokens] at h
      cases e with
      | _ => cases h
  | ok tokens =>
      rw [htokens] at h
      cases hparse : parseProgram source tokens with
      | error d =>
          simp only [hparse] at h
          cases h
      | ok program =>
          simp only [hparse] at h
          cases h
          exact ⟨rfl, rfl, hparse⟩

theorem handsOn_of_parts {node : Node}
    (h : evalAll (perform host depth) scope (node.parts scope s) s = .error fault s') :
    Activity.HandsOn host ⟨depth + 1, .eval scope node, s⟩ fault := by
  obtain ⟨before, item, after, values, s₁, hparts, hbefore, hitem⟩ := stop_of_evalAll h
  exact ⟨.part, _, fault, .part hparts hbefore, ⟨s', hitem⟩, rfl⟩

/-- An `include` that fails hands on the fault of an argument or of the file's program, or
refuses its arguments or the file, or reads a file with an overlong literal. -/
theorem cause_of_include {args : List Node} {span : Span}
    (h : evalInclude (perform host depth) scope args (.ofSpan scope.source span) s =
      .error fault s') :
    Activity.HandsOn host ⟨depth + 1, .eval scope (.call includeWord args span), s⟩ fault ∨
      (∃ d, fault = .script d ∧
        Refuses host ⟨depth + 1, .eval scope (.call includeWord args span), s⟩ d) ∨
      ∃ t, fault = .raised (.literalTooLong t) ∧
        Overlong host ⟨depth + 1, .eval scope (.call includeWord args span), s⟩ t := by
  cases hargs : evalAll (perform host depth) scope args s with
  | error e s₁ =>
      unfold evalInclude at h
      rw [Run.bind_of_error hargs] at h
      cases h
      have hparts : evalAll (perform host depth) scope
          ((Node.call includeWord args span).parts scope s) s = .error fault s' := by
        rwa [Node.parts_call (.inl rfl)]
      exact .inl (handsOn_of_parts hparts)
  | ok values s₁ =>
      by_cases hpath : ∃ path, values = [.text path]
      · obtain ⟨path, rfl⟩ := hpath
        rw [evalInclude_of_path hargs] at h
        cases hread : Source.read s₁.world .utf8 path (includeBase s₁ scope) with
        | error why =>
            rw [hread] at h
            cases h
            exact .inr (.inl ⟨_, rfl, .unread hargs hread⟩)
        | ok source =>
            rw [hread] at h
            obtain ⟨e, s₂, hbody, hblame⟩ := Run.error_of_onFault h
            obtain rfl := hand_of_blameInclude hblame
            rcases Run.error_of_bind hbody with hload | ⟨loaded, s₃, hload, hprogram⟩
            · rcases error_of_load hload with ⟨d, rfl, hrefused⟩ | ⟨t, rfl, hdigits⟩
              · exact .inr (.inl ⟨_, rfl, .unloaded hargs hread hrefused⟩)
              · exact .inr (.inr ⟨t, rfl, .file hargs hread hdigits⟩)
            · obtain ⟨rfl, htokens, hparse⟩ := ok_of_load hload
              exact .inl ⟨_, _, e, .file hargs hread htokens hparse, ⟨s₂, hprogram⟩, rfl⟩
      · have hnone : includePath? values = none := by
          unfold includePath?
          split
          · next path => exact absurd ⟨path, rfl⟩ hpath
          · rfl
        unfold evalInclude at h
        rw [Run.bind_of_ok hargs, hnone] at h
        cases h
        exact .inr (.inl ⟨_, rfl, .arguments hargs fun path hvalues => hpath ⟨path, hvalues⟩⟩)

/-- An `include` fails where the program of its file does, with a layer more. -/
theorem fails_of_file {path : String} {location : Location} {inner a : Activity} {e : Fault}
    (hinside : Inside host (.file path location) inner a) (hinner : inner.Fails host e) :
    a.Fails host ((Link.file path location).hand e) := by
  obtain ⟨s₂, hprogram⟩ := hinner
  cases hinside with
  | @file depth scope args span _ source tokens program s s₁ hargs hread htokens hparse =>
      refine ⟨s₂, ?_⟩
      show evalInclude (perform host depth) scope args _ s = _
      have hload (s : Store) : load source s = .ok (tokens, program) s := by
        unfold load
        rw [htokens]
        simp only [hparse]
        rfl
      rw [evalInclude_of_path hargs, hread]
      simp only [Run.onFault, Run.bind_of_ok (hload _), hprogram]
      cases e with
      | _ => rfl

/-- An evaluation that fails hands on the fault of an activity inside it, or is that of a
call which is refused by itself, or that of an `include` which reads an overlong literal. -/
theorem Activity.Fails.of_eval {node : Node}
    (h : Activity.Fails host ⟨depth + 1, .eval scope node, s⟩ fault) :
    Activity.HandsOn host ⟨depth + 1, .eval scope node, s⟩ fault ∨
      (∃ d, fault = .script d ∧ Refuses host ⟨depth + 1, .eval scope node, s⟩ d) ∨
      ∃ t, fault = .raised (.literalTooLong t) ∧
        Overlong host ⟨depth + 1, .eval scope node, s⟩ t := by
  obtain ⟨s', h⟩ := h
  change evalNode (perform host depth) scope node s = .error fault s' at h
  by_cases hcall : ∃ callee args span, node = .call callee args span
  · obtain ⟨callee, args, span, rfl⟩ := hcall
    by_cases hinclude : callee = includeWord
    · subst hinclude
      exact cause_of_include h
    · rw [evalNode_call hinclude] at h
      rcases error_of_evalCall h with ⟨hnone, rfl⟩ | ⟨f, hf, hargs | ⟨values, s₁, e, s₂, hrest⟩⟩
      · exact .inr (.inl ⟨_, rfl, .notCallable hinclude hnone⟩)
      · have hcallable : (scope.value s callee).callable?.isSome = true := by
          rw [hf]
          rfl
        have hparts : evalAll (perform host depth) scope
            ((Node.call callee args span).parts scope s) s = .error fault s' := by
          rwa [Node.parts_call (.inr hcallable)]
        exact .inl (handsOn_of_parts hparts)
      · obtain ⟨hargs, happly, rfl⟩ := hrest
        exact .inl ⟨_, _, e, .call hinclude hf hargs, ⟨s₂, happly⟩, rfl⟩
  · have hnode : ∀ callee args span, node ≠ .call callee args span := by
      intro callee args span hnode
      exact hcall ⟨callee, args, span, hnode⟩
    exact .inl (handsOn_of_parts (part_of_evalNode hnode h))

end Evaluations

/-! ## Applications that fail -/

section Applications

variable {call : Value → List Value → Run Value} {f g : Value} {args xs : List Value}
  {s s₁ s' s₂ : Store} {fault e : Fault}

theorem choose_eq (call : Value → List Value → Run Value) (cond yes no : Value) (s : Store) :
    Library.choose call cond yes no s =
      if s.isTrue cond then call yes [] s
      else match no with
        | .nothing => .ok .nothing s
        | f => call f [] s := by
  show (if s.isTrue cond then call yes [] else _ : Run Value) s = _
  split
  · rfl
  · cases no with
    | _ => rfl

theorem callEach_append (call : Value → List Value → Run Value) (f : Value) (index : Nat)
    (front items : List Value) (s : Store) :
    Library.callEach call f index (front ++ items) s =
      (Library.callEach call f index front >>= fun _ =>
        Library.callEach call f (index + front.length) items) s := by
  induction front generalizing index s with
  | nil => rfl
  | cons item rest ih =>
      show (call f [item, .int index] >>= fun _ =>
        Library.callEach call f (index + 1) (rest ++ items)) s = _
      have hindex : index + (item :: rest).length = index + 1 + rest.length := by
        rw [List.length_cons]
        omega
      rw [hindex]
      cases hitem : call f [item, .int index] s with
      | error e s₁ =>
          rw [Run.bind_of_error hitem, Run.bind_of_error]
          exact Run.bind_of_error hitem
      | ok v s₁ =>
          rw [Run.bind_of_ok hitem, ih]
          cases hrest : Library.callEach call f (index + 1) rest s₁ with
          | error e s₂ =>
              rw [Run.bind_of_error hrest, Run.bind_of_error]
              exact (Run.bind_of_ok hitem).trans hrest
          | ok u s₂ =>
              rw [Run.bind_of_ok hrest, Run.bind_of_ok]
              exact (Run.bind_of_ok hitem).trans hrest

theorem stop_of_callEach {index : Nat} {items : List Value}
    (h : Library.callEach call f index items s = .error fault s') :
    ∃ front item rest s₁, items = front ++ item :: rest ∧
      Library.callEach call f index front s = .ok () s₁ ∧
      call f [item, .int (index + front.length : Nat)] s₁ = .error fault s' := by
  induction items generalizing index s with
  | nil => cases h
  | cons item rest ih =>
      rcases Run.error_of_bind h with hitem | ⟨v, s₁, hitem, hrest⟩
      · exact ⟨[], item, rest, s, rfl, rfl, hitem⟩
      · obtain ⟨front, stop, after, s₂, rfl, hfront, hstop⟩ := ih hrest
        refine ⟨item :: front, stop, after, s₂, rfl, (Run.bind_of_ok hitem).trans hfront, ?_⟩
        have hindex : index + (item :: front).length = index + 1 + front.length := by
          rw [List.length_cons]
          omega
        rwa [hindex]

theorem each_of_iterate {items : Value} {found : List Value}
    (hitems : Library.iterate s items = .ok found) :
    Library.each call items f s =
      (Library.callEach call f 0 found >>= fun _ => pure .nothing) s := by
  have hasked : (Library.ask fun s => Library.iterate s items) s = .ok found s := by
    simp only [Library.ask, hitems]
  unfold Library.each
  rw [Run.bind_of_ok hasked]

/-! ### Hosts that let faults through -/

/-- The conduct ends with the fault of the first call of its own that fails. -/
inductive Conduct.LetsThrough : Conduct → Prop
  | finish (outcome : Except Fault Value) : LetsThrough (.finish outcome)
  | act {edit : Edit} {next : Store → Conduct} (hnext : ∀ s, LetsThrough (next s)) :
      LetsThrough (.act edit next)
  | call {f : Value} {args : List Value} {next : Value → Conduct}
      (hnext : ∀ v, LetsThrough (next v)) : LetsThrough (.call f args (.orStop next))

/-- No function of the host catches a fault of what it calls. -/
def Host.LetsThrough (host : Host) : Prop := ∀ f args, (host.conduct f args).LetsThrough

theorem Conduct.Calls.passes {conduct : Conduct} (h : conduct.Calls call s g xs s₁)
    (hthrough : conduct.LetsThrough) (hcallee : call g xs s₁ = .error e s₂) :
    conduct.run call s = .error e s₂ := by
  induction h with
  | @here g xs next s =>
      rw [Conduct.run, Run.bind_of_ok (Run.settle_of_error hcallee)]
      cases hthrough with
      | call hnext => rfl
  | @onward f g args xs next outcome s s' s₁ h rest ih =>
      rw [Conduct.run, Run.bind_of_ok h]
      cases hthrough with
      | call hnext =>
          cases outcome with
          | ok v => exact ih (hnext v) hcallee
          | error fault => cases rest
  | @act edit next g xs s s₁ rest ih =>
      cases hthrough with
      | act hnext => exact ih (hnext s) hcallee

/-- Where a function that was called back fails, the function of the library that called it
fails in the same way. -/
theorem CallsBack.passes {host : Host} {next : Task → Run Value}
    (h : CallsBack host (fun g xs => next (.apply g xs)) f args s g xs s₁)
    (hthrough : ∀ k, f = .function (.host k) → (host.conduct k args).LetsThrough)
    (hcallee : next (.apply g xs) s₁ = .error e s₂) :
    applyValue host next f args s = .error e s₂ := by
  cases h with
  | @chosen recorder cond yes more s hmore hcond =>
      refine Eq.trans ?_ hcallee
      match more, hmore with
      | [], _ =>
          show Library.choose (fun g xs => next (.apply g xs)) cond g .nothing s = _
          rw [choose_eq, if_pos hcond]
      | [no], _ =>
          show Library.choose (fun g xs => next (.apply g xs)) cond g no s = _
          rw [choose_eq, if_pos hcond]
  | @otherwise recorder cond yes no s hcond hno =>
      refine Eq.trans ?_ hcallee
      show Library.choose (fun g xs => next (.apply g xs)) cond yes g s = _
      rw [choose_eq, if_neg (by simp [hcond])]
      split
      · exact absurd rfl hno
      · rfl
  | @each recorder items f item front rest s s₁ hitems hfront =>
      refine (each_of_iterate hitems).trans (Run.bind_of_error ?_)
      rw [callEach_append, Run.bind_of_ok hfront, Nat.zero_add]
      exact Run.bind_of_error hcallee
  | @host k g args xs s s₁ hcalls => exact hcalls.passes (hthrough k rfl) hcallee

/-! ### Functions of the library -/

/-- A check of arguments that fails states no error of the script, and one that passes
leaves the store as it is. -/
theorem error_of_checked {α : Type} {sig : Signature} {m : Run α}
    (h : (sig.check args >>= fun _ => m) s = .error fault s') :
    fault.Unplaced ∨ m s = .error fault s' := by
  rcases Run.error_of_bind h with hcheck | ⟨u, s₁, hcheck, hm⟩
  · exact .inl ((deaf_check sig args).faults hcheck)
  · have hstore : s₁ = s := by
      unfold Signature.check at hcheck
      cases hmismatch : sig.mismatch? args.length with
      | none =>
          rw [hmismatch] at hcheck
          cases hcheck
          rfl
      | some mishap =>
          rw [hmismatch] at hcheck
          cases hcheck
    exact .inr (hstore ▸ hm)

variable {host : Host} {next : Task → Run Value}

/-- The function, applied to arguments, fails because a function that it calls back does. -/
def FailsBack (host : Host) (next : Task → Run Value) (f : Value) (args : List Value) (s : Store)
    (fault : Fault) : Prop :=
  ∃ g xs s₁ s₂, CallsBack host (fun g xs => next (.apply g xs)) f args s g xs s₁ ∧
    next (.apply g xs) s₁ = .error fault s₂

theorem failsBack_of_if {recorder : RecorderRef}
    (h : LibraryFunction.if.run (fun g xs => next (.apply g xs)) recorder args s =
      .error fault s') : FailsBack host next (.function (.library recorder .if)) args s fault := by
  match args, h with
  | [cond, yes], h =>
      change Library.choose (fun g xs => next (.apply g xs)) cond yes .nothing s = _ at h
      rw [choose_eq] at h
      split at h
      · next hcond => exact ⟨yes, [], s, s', .chosen (Nat.zero_le 1) hcond, h⟩
      · cases h
  | [cond, yes, no], h =>
      change Library.choose (fun g xs => next (.apply g xs)) cond yes no s = _ at h
      rw [choose_eq] at h
      split at h
      · next hcond => exact ⟨yes, [], s, s', .chosen (Nat.le_refl 1) hcond, h⟩
      · next hcond =>
          split at h
          · cases h
          · next hno => exact ⟨no, [], s, s', .otherwise (by simpa using hcond) hno, h⟩
  | [], h => cases h
  | [_], h => cases h
  | _ :: _ :: _ :: _ :: _, h => cases h

theorem failsBack_of_each {recorder : RecorderRef}
    (h : LibraryFunction.each.run (fun g xs => next (.apply g xs)) recorder args s =
      .error fault s') :
    FailsBack host next (.function (.library recorder .each)) args s fault ∨ fault.Unplaced := by
  match args, h with
  | [items, f], h =>
      change Library.each _ items f s = _ at h
      cases hitems : Library.iterate s items with
      | error e =>
          have hasked : (Library.ask fun s => Library.iterate s items) s = .error e s := by
            simp only [Library.ask, hitems]
          unfold Library.each at h
          rw [Run.bind_of_error hasked] at h
          cases h
          exact .inr ((deaf_iterate items).faults hasked)
      | ok found =>
          rw [each_of_iterate hitems] at h
          rcases Run.error_of_bind h with hloop | ⟨u, s₁, -, hdone⟩
          · obtain ⟨front, item, rest, s₁, rfl, hfront, hitem⟩ := stop_of_callEach hloop
            rw [Nat.zero_add] at hitem
            exact .inl ⟨f, _, s₁, s', .each hitems hfront, hitem⟩
          · cases hdone
  | [], h => cases h
  | [_], h => cases h
  | _ :: _ :: _ :: _, h => cases h

theorem failsBack_of_library {recorder : RecorderRef} {f : LibraryFunction}
    (h : f.apply (fun g xs => next (.apply g xs)) recorder args s = .error fault s') :
    FailsBack host next (.function (.library recorder f)) args s fault ∨ fault.Unplaced := by
  have hrun : fault.Unplaced ∨
      f.run (fun g xs => next (.apply g xs)) recorder args s = .error fault s' := by
    unfold LibraryFunction.apply at h
    cases hsig : f.signature? with
    | none =>
        rw [hsig] at h
        exact .inr h
    | some sig =>
        rw [hsig] at h
        exact error_of_checked h
  rcases hrun with hunplaced | hrun
  · exact .inr hunplaced
  · by_cases hif : f = .if
    · subst hif
      exact .inl (failsBack_of_if hrun)
    · by_cases heach : f = .each
      · subst heach
        exact failsBack_of_each hrun
      · exact .inr ((deaf_runLibrary hif heach).faults hrun)

end Applications

/-- The value is applied to arguments, fails, and none of the functions that it calls back
does: the fault is its own. -/
structure FailsItself (host : Host) (a : Activity) (fault : Fault) : Prop where
  fails : a.Fails host fault
  quiet : ∀ inner e, Inside host .callback inner a → ¬ inner.Fails host e

section Applications

variable {host : Host} {depth : Nat} {f : Value} {args : List Value} {s : Store}
  {fault : Fault}

theorem Activity.Fails.of_call {c : Closure}
    (h : Activity.Fails host ⟨depth + 1, c.call args, s⟩ fault) :
    Activity.Fails host ⟨depth, c.bodyTask s, c.enter args s⟩ fault := by
  obtain ⟨s', h⟩ := h
  cases hbody : perform host depth (c.bodyTask s) (c.enter args s) with
  | ok v s₁ => cases (call_of_body_ok hbody).symm.trans h
  | error e s₁ =>
      cases (call_of_body_error hbody).symm.trans h
      exact ⟨s₁, hbody⟩

/-- Where a function that is called back fails, it is for the function around it to say what
comes of that; where none does, the fault is its own. -/
theorem Activity.Fails.back_or_itself
    (hthrough : ∀ k, f = .function (.host k) → (host.conduct k args).LetsThrough)
    (h : Activity.Fails host ⟨depth + 1, .apply f args, s⟩ fault) :
    (∃ inner, Inside host .callback inner ⟨depth + 1, .apply f args, s⟩ ∧
        inner.Fails host fault) ∨
      FailsItself host ⟨depth + 1, .apply f args, s⟩ fault := by
  by_cases hback : ∃ inner e, Inside host .callback inner ⟨depth + 1, .apply f args, s⟩ ∧
      inner.Fails host e
  · obtain ⟨inner, e, hinside, hinner⟩ := hback
    refine .inl ⟨inner, hinside, ?_⟩
    cases hinside with
    | callback hcalls =>
        obtain ⟨s₂, hcallee⟩ := hinner
        obtain ⟨s', hf⟩ := h
        cases (hcalls.passes hthrough hcallee).symm.trans hf
        exact ⟨s₂, hcallee⟩
  · push Not at hback
    exact .inr ⟨h, hback⟩

/-- What is neither a closure nor a function of the host fails as a function that it calls
back does, or by itself, and then with a mishap or for want of depth. -/
theorem Activity.Fails.of_library (hclosure : ∀ c, f ≠ .function (.closure c))
    (hhost : ∀ k, f ≠ .function (.host k))
    (h : Activity.Fails host ⟨depth + 1, .apply f args, s⟩ fault) :
    (∃ inner, Inside host .callback inner ⟨depth + 1, .apply f args, s⟩ ∧
        inner.Fails host fault) ∨
      FailsItself host ⟨depth + 1, .apply f args, s⟩ fault ∧ fault.Unplaced := by
  obtain ⟨s', hf⟩ := id h
  change applyValue host (perform host depth) f args s = .error fault s' at hf
  have hcases : FailsBack host (perform host depth) f args s fault ∨ fault.Unplaced := by
    cases f with
    | function callable =>
        cases callable with
        | closure c => exact absurd rfl (hclosure c)
        | library recorder g => exact failsBack_of_library hf
        | host g => exact absurd rfl (hhost g)
    | _ =>
        cases hf
        exact .inr trivial
  refine (h.back_or_itself fun k hk => absurd hk (hhost k)).imp_right fun hitself =>
    ⟨hitself, hcases.resolve_left ?_⟩
  rintro ⟨g, xs, s₁, s₂, hcalls, hcallee⟩
  exact hitself.quiet _ fault (.callback hcalls) ⟨s₂, hcallee⟩

end Applications

end Scriptlet
