/-
# Contracts with the host

What the functions of the host do is a parameter of the evaluator, so a law of
runs has to say what it asks of them.  Most laws follow something through a run
that every part of the evaluator keeps: something that holds of each store, of
the values that are passed about, or of the faults that can come out.  Towards
the host this is a `Contract`.

## Both sides rely on it

When a function of the host is called, and whenever a call of its own comes back to it, the
store, the value or the fault that it gets to see is as the contract says; in return, so are
the changes that it makes, the values that it passes on and the fault that it ends with.
`Conduct.Honours` says this of one function with its arguments, step by step.

Nothing is asked beyond that.  A function may still keep what it was given, call
it at any time, catch a fault and go on, and look at all that is in the store.

What a contract is good for is `Conduct.Honours.allowed`: where all that is called
comes out as the contract says, what honours the contract comes out so too.  The induction
over a function is done there, once; a law about runs only says what its contract is, and
that the rest of the evaluator keeps it.

## What is no contract

That two runs do the same is not something that holds of one of them.  Laws that compare
runs ask for more of the host, each in its own words:

    `Host.Blind`        whatever the frames hold                 `Blindness`
    `Host.Deaf`         whatever runners have heard              `Hearing`
    `Host.Overlooks`    wherever the nodes of closures stand     `Twins`
-/
import Scriptlet.Eval.Host
import Scriptlet.Proofs.Evaluation.Library

namespace Scriptlet

/-- What the evaluator and the host rely on of each other.  Values may be right or not
depending on how many frames there are. -/
structure Contract where
  store : Store → Prop := fun _ => True
  /-- What a change that the host makes by its own hand may be. -/
  change : Store → Store → Prop := fun _ _ => True
  value : Nat → Value → Prop := fun _ _ => True
  fault : Fault → Prop := fun _ => True

/-- The conduct is right by the contract in every store with at least `n` frames. -/
inductive Conduct.Honours (contract : Contract) : Nat → Conduct → Prop
  | done {n : Nat} {v : Value} (h : contract.value n v) : Honours contract n (.finish (.ok v))
  | stopped {n : Nat} {fault : Fault} (h : contract.fault fault) :
      Honours contract n (.finish (.error fault))
  | act {n : Nat} {edit : Edit} {next : Store → Conduct}
      (hstore : ∀ s, contract.store s → n ≤ s.frames.size → contract.store (edit.make s))
      (hchange : ∀ s, contract.store s → n ≤ s.frames.size → contract.change s (edit.make s))
      (hnext : ∀ s, contract.store s → n ≤ s.frames.size →
        Honours contract (edit.make s).frames.size (next s)) : Honours contract n (.act edit next)
  | call {n : Nat} {f : Value} {args : List Value} {next : Except Fault Value → Conduct}
      (hf : contract.value n f) (hargs : ∀ v ∈ args, contract.value n v)
      (hdone : ∀ m v, n ≤ m → contract.value m v → Honours contract m (next (.ok v)))
      (hstopped : ∀ m fault, n ≤ m → contract.fault fault →
        Honours contract m (next (.error fault))) : Honours contract n (.call f args next)

/-- What the functions of the host do with right arguments is right. -/
def Host.Honours (contract : Contract) (host : Host) : Prop :=
  ∀ (n : Nat) (f : HostFunction) (args : List Value), (∀ v ∈ args, contract.value n v) →
    (host.conduct f args).Honours contract n

/-- The faults with which the functions of the host stop are of one kind, if those of
what they call are. -/
def Host.StopsWith (fault : Fault → Prop) (host : Host) : Prop := host.Honours { fault }

/-- The outcome is right by the contract, and leaves at least `n` frames. -/
def Contract.Allows (contract : Contract) (n : Nat) : EStateM.Result Fault Store Value → Prop
  | .ok v s => n ≤ s.frames.size ∧ contract.store s ∧ contract.value s.frames.size v
  | .error fault s => n ≤ s.frames.size ∧ contract.store s ∧ contract.fault fault

theorem Contract.Allows.onward {contract : Contract} {n m : Nat}
    {out : EStateM.Result Fault Store Value} (h : contract.Allows m out) (hnm : n ≤ m) :
    contract.Allows n out := by
  cases out with
  | ok v s => exact ⟨Nat.le_trans hnm h.1, h.2⟩
  | error fault s => exact ⟨Nat.le_trans hnm h.1, h.2⟩

/-- What honours a contract comes out as it says, in stores that are right by it. -/
theorem Conduct.Honours.allowed {contract : Contract} {call : Value → List Value → Run Value}
    (hcall : ∀ f args s, contract.store s → contract.value s.frames.size f →
      (∀ v ∈ args, contract.value s.frames.size v) →
        contract.Allows s.frames.size (call f args s)) {n : Nat} {conduct : Conduct}
    (h : conduct.Honours contract n) {s : Store} (hs : contract.store s)
    (hn : s.frames.size = n) : contract.Allows n (conduct.run call s) := by
  induction h generalizing s with
  | done hv => exact ⟨Nat.le_of_eq hn.symm, hs, hn ▸ hv⟩
  | stopped hfault => exact ⟨Nat.le_of_eq hn.symm, hs, hfault⟩
  | @act n edit next hstore _ _ ih =>
      have hle := Nat.le_of_eq hn.symm
      exact (ih s hs hle (hstore s hs hle) rfl).onward (hn ▸ edit.grows s)
  | @call n f args next hf hargs _ _ ihdone ihstopped =>
      subst hn
      have hcallee := hcall f args s hs hf hargs
      rw [Conduct.run]
      cases hr : call f args s with
      | ok v s' =>
          rw [hr] at hcallee
          obtain ⟨hle, hs', hv⟩ := hcallee
          rw [Run.bind_of_ok (Run.settle_of_ok hr)]
          exact (ihdone _ v hle hv hs' rfl).onward hle
      | error fault s' =>
          rw [hr] at hcallee
          obtain ⟨hle, hs', hfault⟩ := hcallee
          rw [Run.bind_of_ok (Run.settle_of_error hr)]
          exact (ihstopped _ fault hle hfault hs' rfl).onward hle

/-- Functions that do nothing honour what is said of anything but `nothing`. -/
theorem Host.none_honours {contract : Contract} (h : ∀ n, contract.value n .nothing) :
    Host.none.Honours contract := by
  intro n f args _
  exact .done (h n)

end Scriptlet
