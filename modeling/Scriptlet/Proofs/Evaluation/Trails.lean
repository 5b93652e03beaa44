/-
# Trails of faults

A fault comes from somewhere.  The activity that fails with it may have been handed it by
an activity inside, that one by another, and so on inwards, until there is one whose fault
is its own.  A `Trail` is such a way inwards, and `origin_of_fails` says that there is one
for every activity that fails, and where it ends (`Origin`):

    refused    at a call or an `include` that is refused by itself
    overlong   at an `include` of a file with an integer literal of too many digits
    tooDeep    at a task for which no depth is left
    library    at a function of the library, or a value that is none, that fails by itself
    host       at a function of the host

A function of the host that lets faults through is no more than a step on the way where a
function that it calls back fails.  Of one that may catch them nothing can be said: it may
have caught the one fault and stopped with another.

Two laws of faults rest on this.

* Evaluation by itself brings about three kinds of fault only: diagnostics of its own stage,
  mishaps and nesting too deep.  Whatever else comes out of a host's program was stated by
  the host (`fault_of_fails`).
* A mishap that comes out of an evaluation, and not as the diagnostic of a call, was never
  inside a call that could have put it into words.  It goes back to an `include` of an
  overlong file, or to a message of the host that has no words (`unspoken_of_fails`).
-/
import Scriptlet.Proofs.Evaluation.Activities
import Scriptlet.Proofs.Evaluation.Contract

namespace Scriptlet

open Evaluator

/-! ## Trails -/

/-- The fault of an activity, followed inwards: each activity on the way fails because the
next one does, and the last one fails with `first`. -/
inductive Trail (host : Host) : Activity → Fault → List Link → Activity → Fault → Prop
  | here {a : Activity} {fault : Fault} (h : a.Fails host fault) : Trail host a fault [] a fault
  | inward {a inner last : Activity} {link : Link} {links : List Link} {e first : Fault}
      (h : a.Fails host (link.hand e)) (hinside : Inside host link inner a)
      (rest : Trail host inner e links last first) :
      Trail host a (link.hand e) (link :: links) last first

/-- Followed inwards, the fault of the activity comes to one that `P` holds of. -/
def ComesOf (host : Host) (P : Activity → Fault → Prop) (a : Activity) (fault : Fault) : Prop :=
  ∃ links last first, Trail host a fault links last first ∧ P last first

section Trails

variable {host : Host} {P Q : Activity → Fault → Prop} {a inner last : Activity} {link : Link}
  {links : List Link} {fault e first : Fault}

theorem Trail.fails (h : Trail host a fault links last first) : a.Fails host fault := by
  cases h with
  | here h => exact h
  | inward h hinside rest => exact h

theorem ComesOf.fails (h : ComesOf host P a fault) : a.Fails host fault := by
  obtain ⟨links, last, first, htrail, -⟩ := h
  exact htrail.fails

theorem ComesOf.here (h : a.Fails host fault) (hP : P a fault) : ComesOf host P a fault :=
  ⟨[], a, fault, .here h, hP⟩

theorem ComesOf.inward (h : a.Fails host (link.hand e)) (hinside : Inside host link inner a)
    (hinner : ComesOf host P inner e) : ComesOf host P a (link.hand e) := by
  obtain ⟨links, last, first, htrail, hfirst⟩ := hinner
  exact ⟨link :: links, last, first, .inward h hinside htrail, hfirst⟩

end Trails

/-! ## What fails inside fails outside -/

section Passing

variable {host : Host}

theorem fails_of_part {depth : Nat} {scope : Scope} {node : Node} {s s' : Store} {fault : Fault}
    (h : evalAll (perform host depth) scope (node.parts scope s) s = .error fault s') :
    Activity.Fails host ⟨depth + 1, .eval scope node, s⟩ fault := by
  refine ⟨s', ?_⟩
  show evalNode (perform host depth) scope node s = _
  cases node with
  | assignment name value span =>
      rcases Run.error_of_bind h with hvalue | ⟨v, s₁, -, hdone⟩
      · exact Run.bind_of_error hvalue
      · cases hdone
  | statements items span => exact evalStatements_of_evalAll .nothing h
  | block items inner span => exact evalStatements_of_evalAll .nothing h
  | list items span => exact Run.bind_of_error h
  | call callee args span =>
      by_cases hinclude : callee = includeWord
      · subst hinclude
        rw [Node.parts_call (.inl rfl)] at h
        show evalInclude (perform host depth) scope args _ s = _
        exact Run.bind_of_error h
      · by_cases hcallable : (scope.value s callee).callable?.isSome
        · rw [Node.parts_call (.inr hcallable)] at h
          obtain ⟨f, hf⟩ := Option.isSome_iff_exists.1 hcallable
          rw [evalNode_call hinclude, evalCall_of_function (eq_function_of_callable hf)]
          exact Run.bind_of_error h
        · rw [Node.parts, if_neg (by simp [hinclude, hcallable])] at h
          cases h
  | _ => cases h

/-- What fails inside fails outside, in the way that the link between them says; a host
has to let it through. -/
theorem Inside.passes (hthrough : host.LetsThrough) {link : Link} {inner a : Activity} {e : Fault}
    (hinside : Inside host link inner a) (hinner : inner.Fails host e) :
    a.Fails host (link.hand e) := by
  obtain ⟨s₂, hfails⟩ := id hinner
  cases hinside with
  | part hparts hbefore =>
      apply fails_of_part
      rw [hparts]
      exact evalAll_of_stop hbefore hfails
  | body => exact ⟨_, call_of_body_error hfails⟩
  | callback hcalls => exact ⟨s₂, hcalls.passes (fun k _ => hthrough k _) hfails⟩
  | file hargs hread htokens hparse => exact fails_of_file (.file hargs hread htokens hparse) hinner
  | @call depth scope callee args span f values s s₁ hcallee hf hargs =>
      refine ⟨s₂, ?_⟩
      show evalNode (perform host depth) scope (.call callee args span) s = _
      rw [evalNode_call hcallee, evalCall_of_function hf, Run.bind_of_ok hargs]
      simp only [Run.onFault, hfails]
      cases e with
      | _ => rfl

theorem Refuses.fails {a : Activity} {d : Diagnostic} (h : Refuses host a d) :
    a.Fails host (.script d) := by
  cases h with
  | @notCallable depth scope callee args span s hcallee hnone =>
      refine ⟨s, ?_⟩
      show evalNode (perform host depth) scope (.call callee args span) s = _
      rw [evalNode_call hcallee]
      unfold evalCall
      rw [Run.bind_of_ok (scope.lookup_eq s callee), hnone]
      rfl
  | @arguments depth scope args span values s s₁ hargs hpath =>
      have hnone : includePath? values = none := by
        unfold includePath?
        split
        · next path => exact absurd rfl (hpath path)
        · rfl
      refine ⟨s₁, (Run.bind_of_ok hargs).trans ?_⟩
      rw [hnone]
      rfl
  | @unread depth scope args span path why s s₁ hargs hread =>
      refine ⟨s₁.request path (includeBase s₁ scope), ?_⟩
      show evalInclude (perform host depth) scope args _ s = _
      rw [evalInclude_of_path hargs, hread]
      rfl
  | @unloaded depth scope args span path source e s s₁ hargs hread hload =>
      refine ⟨s₁.request path (includeBase s₁ scope), ?_⟩
      show evalInclude (perform host depth) scope args _ s = _
      rw [evalInclude_of_path hargs, hread]
      have hrefused (t : Store) : load source t = .error (.script e) t := by
        unfold load
        rcases hload with hrefused | ⟨tokens, htokens, hparse⟩
        · rw [hrefused]
          rfl
        · rw [htokens]
          simp only [hparse]
          rfl
      simp only [Run.onFault, Run.bind_of_error (hrefused _)]
      rfl

end Passing

/-! ## Origins -/

/-- The fault is the activity's own, or it is not known whether a function of the host
caught another. -/
inductive Origin (host : Host) : Activity → Fault → Prop
  | refused {a : Activity} {d : Diagnostic} (h : Refuses host a d) : Origin host a (.script d)
  | overlong {a : Activity} {digits : TooManyDigits} (h : Overlong host a digits) :
      Origin host a (.raised (.literalTooLong digits))
  | tooDeep {task : Task} {s : Store} : Origin host ⟨0, task, s⟩ .exhausted
  | library {depth : Nat} {f : Value} {args : List Value} {s : Store} {fault : Fault}
      (hclosure : ∀ c, f ≠ .function (.closure c)) (hhost : ∀ k, f ≠ .function (.host k))
      (h : FailsItself host ⟨depth + 1, .apply f args, s⟩ fault) (hfault : fault.Unplaced) :
      Origin host ⟨depth + 1, .apply f args, s⟩ fault
  | host {depth : Nat} {k : HostFunction} {args : List Value} {s : Store} {fault : Fault}
      (h : FailsItself host ⟨depth + 1, .apply (.function (.host k)) args, s⟩ fault ∨
        ¬ (host.conduct k args).LetsThrough) :
      Origin host ⟨depth + 1, .apply (.function (.host k)) args, s⟩ fault

section Origins

variable {host : Host}

theorem Inside.depth_eq {link : Link} {inner a : Activity} (h : Inside host link inner a) :
    a.depth = inner.depth + 1 := by
  cases h with
  | _ => rfl

theorem Value.closure_or_host (f : Value) :
    (∃ c, f = .function (.closure c)) ∨ (∃ k, f = .function (.host k)) ∨
      (∀ c, f ≠ .function (.closure c)) ∧ ∀ k, f ≠ .function (.host k) := by
  by_cases hclosure : ∃ c, f = .function (.closure c)
  · exact .inl hclosure
  · by_cases hhost : ∃ k, f = .function (.host k)
    · exact .inr (.inl hhost)
    · push Not at hclosure hhost
      exact .inr (.inr ⟨hclosure, hhost⟩)

theorem origin_of_fails {a : Activity} {fault : Fault} (h : a.Fails host fault) :
    ComesOf host (Origin host) a fault := by
  obtain ⟨depth, task, s⟩ := a
  -- By the depth: whatever is inside has less of it.
  induction depth generalizing task s fault with
  | zero =>
      obtain ⟨s', hs'⟩ := id h
      cases hs'
      exact .here h .tooDeep
  | succ depth ih =>
      have follow (link : Link) {inner : Activity} {e : Fault}
          (hfault : Activity.Fails host ⟨depth + 1, task, s⟩ (link.hand e))
          (hinside : Inside host link inner ⟨depth + 1, task, s⟩) (hinner : inner.Fails host e) :
          ComesOf host (Origin host) ⟨depth + 1, task, s⟩ (link.hand e) := by
        have hdepth : depth = inner.depth := Nat.succ.inj hinside.depth_eq
        subst hdepth
        exact (ih inner.task inner.store hinner).inward hfault hinside
      cases task with
      | eval scope node =>
          rcases h.of_eval with ⟨link, inner, e, hinside, hinner, rfl⟩ | ⟨d, rfl, hd⟩ | ⟨t, rfl, ht⟩
          · exact follow link h hinside hinner
          · exact .here h (.refused hd)
          · exact .here h (.overlong ht)
      | apply f args =>
          rcases f.closure_or_host with ⟨c, rfl⟩ | ⟨k, rfl⟩ | ⟨hclosure, hhost⟩
          · exact follow .body h .body h.of_call
          · by_cases hthrough : (host.conduct k args).LetsThrough
            · rcases h.back_or_itself (fun j hj => by cases hj; exact hthrough) with hback | hitself
              · obtain ⟨inner, hinside, hinner⟩ := hback
                exact follow .callback h hinside hinner
              · exact .here h (.host (.inl hitself))
            · exact .here h (.host (.inr hthrough))
          · rcases h.of_library hclosure hhost with ⟨inner, hinside, hinner⟩ | ⟨hitself, hfault⟩
            · exact follow .callback h hinside hinner
            · exact .here h (.library hclosure hhost hitself hfault)

end Origins

/-! ## The kinds of faults -/

/-- The fault is of one of the kinds that evaluation brings about by itself: its reports have
a place. -/
def Fault.Native : Fault → Prop
  | .script d => d.stage = .evaluation ∧ d.location.isSome
  | .raised _ | .exhausted => True
  | _ => False

section Kinds

variable {P : Fault → Prop}

theorem Fault.Unplaced.native {fault : Fault} (h : fault.Unplaced) : fault.Native := by
  cases fault with
  | raised mishap => trivial
  | exhausted => trivial
  | _ => exact absurd h id

theorem Obstacle.unplaced_fault (why : Obstacle) : why.fault.Unplaced := by
  cases why with
  | _ => trivial

/-- What a link makes of a fault is one of evaluation's own, or the same fault. -/
theorem Link.hand_native_or_eq (link : Link) (e : Fault) :
    (link.hand e).Native ∨ link.hand e = e := by
  cases link with
  | call callee location =>
      cases e with
      | script d => exact .inr rfl
      | interrupted kind => exact .inr rfl
      | wordlessError why => exact .inr rfl
      | wordlessFailure why => exact .inl why.unplaced_fault.native
      | raised mishap => exact .inl ⟨rfl, rfl⟩
      | exhausted => exact .inl ⟨rfl, rfl⟩
  | file path location =>
      cases e with
      | raised mishap => exact .inr rfl
      | interrupted kind => exact .inr rfl
      | wordlessFailure why => exact .inr rfl
      | wordlessError why => exact .inl why.unplaced_fault.native
      | script d => exact .inl ⟨rfl, rfl⟩
      | exhausted => exact .inl ⟨rfl, rfl⟩
  | _ => exact .inr rfl

theorem Refuses.native {host : Host} {a : Activity} {d : Diagnostic} (h : Refuses host a d) :
    (Fault.script d).Native := by
  cases h with
  | _ => exact ⟨rfl, rfl⟩

/-- A function of the host stops as it should, if all that it calls does. -/
theorem fault_of_host {host : Host} (hhost : host.StopsWith P) {depth : Nat} {k : HostFunction}
    {args : List Value} {s : Store} {fault : Fault}
    (hinner : ∀ g xs t e, Activity.Fails host ⟨depth, .apply g xs, t⟩ e → P e)
    (h : Activity.Fails host ⟨depth + 1, .apply (.function (.host k)) args, s⟩ fault) :
    P fault := by
  obtain ⟨s', hs'⟩ := h
  have hcall (g : Value) (xs : List Value) (t : Store) :
      Contract.Allows { fault := P } t.frames.size (perform host depth (.apply g xs) t) := by
    have hgrows := perform_grows host depth (.apply g xs) t
    cases hr : perform host depth (.apply g xs) t with
    | ok v t' => exact ⟨Run.after_of_ok hr ▸ hgrows, trivial, trivial⟩
    | error e t' =>
        exact ⟨Run.after_of_error hr ▸ hgrows, trivial, hinner g xs t e ⟨t', hr⟩⟩
  have hallowed := (hhost s.frames.size k args fun _ _ => trivial).allowed
    (fun g xs t _ _ _ => hcall g xs t) trivial rfl
  change (host.conduct k args).run _ s = .error fault s' at hs'
  rw [hs'] at hallowed
  exact hallowed.2.2

/-- What is not one of evaluation's own faults comes out of an evaluation only where the
host stops with it. -/
theorem fault_of_fails {host : Host} (hnative : ∀ fault, fault.Native → P fault)
    (hhost : host.StopsWith P) {a : Activity} {fault : Fault} (h : a.Fails host fault) :
    P fault := by
  obtain ⟨depth, task, s⟩ := a
  induction depth generalizing task s fault with
  | zero =>
      obtain ⟨s', hs'⟩ := h
      cases hs'
      exact hnative _ trivial
  | succ depth ih =>
      have inside {link : Link} {inner : Activity}
          (hinside : Inside host link inner ⟨depth + 1, task, s⟩) {e : Fault}
          (hinner : inner.Fails host e) : P e := by
        have hdepth : depth = inner.depth := Nat.succ.inj hinside.depth_eq
        subst hdepth
        exact ih inner.task inner.store hinner
      cases task with
      | eval scope node =>
          rcases h.of_eval with ⟨link, inner, e, hinside, hinner, rfl⟩ | ⟨d, rfl, hd⟩ | ⟨t, rfl, ht⟩
          · rcases link.hand_native_or_eq e with hown | hsame
            · exact hnative _ hown
            · rw [hsame]
              exact inside hinside hinner
          · exact hnative _ hd.native
          · exact hnative _ trivial
      | apply f args =>
          rcases f.closure_or_host with ⟨c, rfl⟩ | ⟨k, rfl⟩ | ⟨hclosure, hk⟩
          · exact inside .body h.of_call
          · exact fault_of_host hhost (fun g xs t e hinner => ih (.apply g xs) t hinner) h
          · rcases h.of_library hclosure hk with ⟨inner, hinside, hinner⟩ | ⟨-, hfault⟩
            · exact inside hinside hinner
            · exact hnative _ hfault.native

end Kinds

/-! ## Faults that no call puts into words -/

/-- A message of the host cannot be put into words. -/
def Fault.Wordless : Fault → Prop
  | .wordlessFailure _ | .wordlessError _ => True
  | _ => False

/-- The fault is no diagnostic, and none came of it inside: it has no words, or it is a mishap
that comes out of an evaluation. -/
def Activity.Unworded (a : Activity) (fault : Fault) : Prop :=
  fault.Wordless ∨ (∃ scope node, a.task = .eval scope node) ∧ ∃ mishap, fault = .raised mishap

/-- What a fault that no call puts into words begins with. -/
inductive Unspoken (host : Host) : Activity → Fault → Prop
  | overlong {a : Activity} {digits : TooManyDigits} (h : Overlong host a digits) :
      Unspoken host a (.raised (.literalTooLong digits))
  | wordless {depth : Nat} {k : HostFunction} {args : List Value} {s : Store} {fault : Fault}
      (h : fault.Wordless) : Unspoken host ⟨depth, .apply (.function (.host k)) args, s⟩ fault

section Unworded

variable {host : Host}

theorem Inside.unworded {link : Link} {inner a : Activity} {e : Fault}
    (hinside : Inside host link inner a) (h : a.Unworded (link.hand e)) : inner.Unworded e := by
  cases hinside with
  | part hparts hbefore => exact h.imp_right fun ⟨_, hraised⟩ => ⟨⟨_, _, rfl⟩, hraised⟩
  | body => exact h.imp_right fun ⟨⟨_, _, htask⟩, _⟩ => by cases htask
  | callback hcalls => exact h.imp_right fun ⟨⟨_, _, htask⟩, _⟩ => by cases htask
  | call hcallee hf hargs =>
      cases e with
      | wordlessFailure why => exact .inl trivial
      | wordlessError why => exact .inl trivial
      | _ =>
          obtain hwordless | ⟨-, mishap, hraised⟩ := h
          · exact absurd hwordless id
          · cases hraised
  | file hargs hread htokens hparse =>
      cases e with
      | wordlessFailure why => exact .inl trivial
      | wordlessError why => exact .inl trivial
      | raised mishap => exact .inr ⟨⟨_, _, rfl⟩, mishap, rfl⟩
      | _ =>
          obtain hwordless | ⟨-, mishap, hraised⟩ := h
          · exact absurd hwordless id
          · cases hraised

theorem Origin.unspoken {a : Activity} {fault : Fault} (h : Origin host a fault)
    (hunworded : a.Unworded fault) : Unspoken host a fault := by
  cases h with
  | overlong h => exact .overlong h
  | host h =>
      obtain hwordless | ⟨⟨_, _, htask⟩, -⟩ := hunworded
      · exact .wordless hwordless
      · cases htask
  | library hclosure hhost h hfault =>
      obtain hwordless | ⟨⟨_, _, htask⟩, -⟩ := hunworded
      · cases fault with
        | wordlessFailure why => exact absurd hfault id
        | wordlessError why => exact absurd hfault id
        | _ => exact absurd hwordless id
      · cases htask
  | _ =>
      obtain hwordless | ⟨-, mishap, hraised⟩ := hunworded
      · exact absurd hwordless id
      · cases hraised

/-- A fault that no call puts into words goes back to an overlong file or to a message of the
host without words. -/
theorem unspoken_of_fails {a : Activity} {fault : Fault} (h : a.Fails host fault)
    (hunworded : a.Unworded fault) : ComesOf host (Unspoken host) a fault := by
  obtain ⟨links, last, first, htrail, horigin⟩ := origin_of_fails h
  refine ⟨links, last, first, htrail, ?_⟩
  -- On the way inwards the fault stays without words.
  clear h
  induction htrail with
  | here h => exact horigin.unspoken hunworded
  | inward h hinside rest ih => exact ih (hinside.unworded hunworded) horigin

/-- A failure without words is the concern of the call that it happened in, and comes out of
no evaluation. -/
theorem no_wordlessFailure {depth : Nat} {scope : Scope} {node : Node} {s : Store}
    {why : Obstacle} :
    ¬ Activity.Fails host ⟨depth, .eval scope node, s⟩ (.wordlessFailure why) := by
  intro h
  induction depth generalizing scope node s why with
  | zero =>
      obtain ⟨s', hs'⟩ := h
      cases hs'
  | succ depth ih =>
      rcases h.of_eval with ⟨link, inner, e, hinside, hinner, hhand⟩ | ⟨d, hd, -⟩ | ⟨t, ht, -⟩
      · cases hinside with
        | part hparts hbefore =>
            obtain rfl : Fault.wordlessFailure why = e := hhand
            exact ih hinner
        | call hcallee hf hargs =>
            cases e with
            | wordlessFailure why => cases why <;> cases hhand
            | _ => cases hhand
        | file hargs hread htokens hparse =>
            cases e with
            | wordlessFailure why => exact ih hinner
            | wordlessError why => cases why <;> cases hhand
            | _ => cases hhand
      · cases hd
      · cases ht

end Unworded

end Scriptlet
