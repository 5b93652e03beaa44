/-
# Runs side by side

Two computations are twins when, from alike stores, both finish with alike values
or both stop with alike faults, and leave alike stores either way.  Faults are
alike when they differ in places only: in the place of a diagnostic, and in what
an `include` says of a diagnostic inside it, where it names that one's place.

The rules for twins follow the ways computations are put together, down to the steps of a
function of the host: where its changes of alike stores are alike, and it goes on alike from
alike outcomes of its calls, it is its own twin.  Of a host all of whose functions are this
is said that it overlooks places (`Host.Overlooks`).

Which stores count as alike is up to a `Pairing`, since what runners heard may have begun
differently on the two sides.
-/
import Scriptlet.Eval.Host
import Scriptlet.Proofs.Value.AlikeStores

namespace Scriptlet

/-! ## Faults -/

/-- The same cause up to what an `include` says of the error inside it. -/
inductive Cause.Alike : Cause → Cause → Prop
  | same (cause : Cause) : Alike cause cause
  | included (path detail detail' : String) :
      Alike (.includeFailed path detail) (.includeFailed path detail')

/-- The same diagnostic up to places. -/
structure Diagnostic.Alike (d d' : Diagnostic) : Prop where
  stage : d.stage = d'.stage
  cause : d.cause.Alike d'.cause

/-- The same fault up to places. -/
inductive Fault.Alike : Fault → Fault → Prop
  | script {d d' : Diagnostic} (h : d.Alike d') : Alike (.script d) (.script d')
  | same (fault : Fault) : Alike fault fault

/-- What comes of a call, up to places. -/
inductive OutcomeAlike : Except Fault Value → Except Fault Value → Prop
  | done {v w : Value} (h : v.Alike w) : OutcomeAlike (.ok v) (.ok w)
  | stopped {e f : Fault} (h : e.Alike f) : OutcomeAlike (.error e) (.error f)

namespace Run

/-! ## Twins -/

/-- Two outcomes that agree: alike stores, and alike values or alike faults. -/
inductive Agree {α β : Type} (pairing : Pairing) (Q : α → β → Prop) :
    EStateM.Result Fault Store α → EStateM.Result Fault Store β → Prop
  | ok {a : α} {b : β} {s t : Store} (hs : s.Alike pairing t) (h : Q a b) :
      Agree pairing Q (.ok a s) (.ok b t)
  | error {e f : Fault} {s t : Store} (hs : s.Alike pairing t) (h : e.Alike f) :
      Agree pairing Q (.error e s) (.error f t)

/-- From alike stores the two computations come to outcomes that agree. -/
def Twins {α β : Type} (pairing : Pairing) (Q : α → β → Prop) (m : Run α)
    (n : Run β) : Prop :=
  ∀ s t, s.Alike pairing t → Agree pairing Q (m s) (n t)

/-- Two answers read off alike stores that agree. -/
inductive Answered {α β : Type} (Q : α → β → Prop) :
    Except Fault α → Except Fault β → Prop
  | ok {a : α} {b : β} (h : Q a b) : Answered Q (.ok a) (.ok b)
  | error (fault : Fault) : Answered Q (.error fault) (.error fault)

section Rules

variable {α β γ δ : Type} {pairing : Pairing} {Q : α → β → Prop}
  {R : γ → δ → Prop} {m : Run α} {n : Run β}

/-- What agrees with an outcome that is a value is one. -/
theorem Agree.ok_of_right {left : EStateM.Result Fault Store α} {b : β} {t : Store}
    (h : Agree pairing Q left (.ok b t)) :
    ∃ a s, left = .ok a s ∧ s.Alike pairing t ∧ Q a b := by
  cases h with
  | ok hs hab => exact ⟨_, _, rfl, hs, hab⟩

theorem Twins.pure {a : α} {b : β} (h : Q a b) :
    Twins pairing Q (Pure.pure a) (Pure.pure b) := by
  intro s t hs
  exact .ok hs h

theorem Twins.throw {e f : Fault} (h : e.Alike f) :
    Twins pairing Q (throw e : Run α) (throw f : Run β) := by
  intro s t hs
  exact .error hs h

theorem Twins.raise (mishap : Mishap) :
    Twins pairing Q (raise mishap : Run α) (raise mishap : Run β) := .throw (.same _)

theorem Twins.ite {c : Prop} [Decidable c] {m' : Run α} {n' : Run β} (h : Twins pairing Q m n)
    (h' : Twins pairing Q m' n') :
    Twins pairing Q (if c then m else m') (if c then n else n') := by
  split
  · exact h
  · exact h'

theorem Twins.bind {f : α → Run γ} {g : β → Run δ} (hmn : Twins pairing Q m n)
    (hfg : ∀ a b, Q a b → Twins pairing R (f a) (g b)) :
    Twins pairing R (m >>= f) (n >>= g) := by
  intro s t hs
  have hboth := hmn s t hs
  cases hm : m s with
  | ok a s' =>
      cases hn : n t with
      | ok b t' =>
          rw [hm, hn] at hboth
          cases hboth with
          | ok hs' hab =>
              rw [bind_of_ok hm, bind_of_ok hn]
              exact hfg a b hab s' t' hs'
      | error f t' =>
          rw [hm, hn] at hboth
          cases hboth
  | error e s' =>
      cases hn : n t with
      | ok b t' =>
          rw [hm, hn] at hboth
          cases hboth
      | error f t' =>
          rw [hm, hn] at hboth
          cases hboth with
          | error hs' h =>
              rw [bind_of_error hm, bind_of_error hn]
              exact .error hs' h

theorem Twins.andThen {m' : Run γ} {n' : Run δ} (h : Twins pairing Q m n)
    (h' : Twins pairing R m' n') :
    Twins pairing R (m >>= fun _ => m') (n >>= fun _ => n') := h.bind fun _ _ _ => h'

theorem Twins.onFault {handler : Fault → Run α} {handler' : Fault → Run β}
    (hmn : Twins pairing Q m n)
    (h : ∀ e f, e.Alike f → Twins pairing Q (handler e) (handler' f)) :
    Twins pairing Q (m.onFault handler) (n.onFault handler') := by
  intro s t hs
  have hboth := hmn s t hs
  unfold Run.onFault
  generalize m s = left, n t = right at hboth
  cases hboth with
  | ok hs' hab => exact .ok hs' hab
  | error hs' hlike => exact h _ _ hlike _ _ hs'

theorem Twins.modify {f g : Store → Store} {Q : PUnit → PUnit → Prop}
    (h : ∀ s t, s.Alike pairing t → (f s).Alike pairing (g t)) (hQ : Q ⟨⟩ ⟨⟩) :
    Twins pairing Q (modify f : Run PUnit) (modify g : Run PUnit) := by
  intro s t hs
  exact .ok (h s t hs) hQ

theorem Twins.ask {question : Store → Except Fault α} {question' : Store → Except Fault β}
    (h : ∀ s t, s.Alike pairing t → Answered Q (question s) (question' t)) :
    Twins pairing Q (Library.ask question) (Library.ask question') := by
  intro s t hs
  have hboth := h s t hs
  unfold Library.ask
  generalize question s = left, question' t = right at hboth
  cases hboth with
  | ok h => exact .ok hs h
  | error fault => exact .error hs (.same fault)

theorem Twins.settle {m n : Run Value} (h : Twins pairing Value.Alike m n) :
    Twins pairing OutcomeAlike m.settle n.settle := by
  intro s t hs
  have hboth := h s t hs
  unfold Run.settle
  generalize m s = left, n t = right at hboth
  cases hboth with
  | ok hs' hvw => exact .ok hs' (.done hvw)
  | error hs' hlike => exact .ok hs' (.stopped hlike)

end Rules

end Run

/-! ## Hosts that overlook places -/

/-- The two conducts go on alike, step by step: on alike stores, and with alike outcomes of
what they call, they change the stores alike, call alike functions with alike arguments, and
come to alike ends. -/
inductive Conduct.Alike (pairing : Pairing) : Conduct → Conduct → Prop
  | finish {outcome outcome' : Except Fault Value} (h : OutcomeAlike outcome outcome') :
      Alike pairing (.finish outcome) (.finish outcome')
  | act {edit edit' : Edit} {next next' : Store → Conduct}
      (hmake : ∀ s t, s.Alike pairing t → (edit.make s).Alike pairing (edit'.make t))
      (hnext : ∀ s t, s.Alike pairing t → Alike pairing (next s) (next' t)) :
      Alike pairing (.act edit next) (.act edit' next')
  | call {f f' : Value} {xs ys : List Value} {next next' : Except Fault Value → Conduct}
      (hf : f.Alike f') (hargs : AlikeAll xs ys)
      (hnext : ∀ outcome outcome', OutcomeAlike outcome outcome' →
        Alike pairing (next outcome) (next' outcome')) :
      Alike pairing (.call f xs next) (.call f' ys next')

/-- The functions of the host do alike things with alike arguments.  They may look at what
they are given, at the store and at what comes of the calls that they make, but at no places,
and at recorders and the world only as the pairing allows. -/
def Host.Overlooks (pairing : Pairing) (host : Host) : Prop :=
  ∀ (f : HostFunction) (xs ys : List Value), AlikeAll xs ys →
    (host.conduct f xs).Alike pairing (host.conduct f ys)

end Scriptlet
