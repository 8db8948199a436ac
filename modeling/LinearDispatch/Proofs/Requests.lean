import LinearDispatch.Proofs.Ledger
import LinearDispatch.Proofs.Within

/-!
# An adapter in use

A solve drives its adapter in one order. A caller who holds the adapter may make any calls in any
order, go on after failures, start it again, and do other things in between. `Request.ask` makes one
call and keeps how it ended, `converse` makes one after the other, and `Adapter.Used` are the
adapters that come about in this way: between two calls the workspace may have become any other, so
nothing is assumed of it.

What an adapter remembers is changed by its calls only. So a part of it stays as long as none of the
calls touches it, and for that it is enough to read through each of them once.
-/

namespace LinearDispatch

open LinearDispatch.Action

namespace Request

variable {A : Type} [Adapter A]

/-- Makes a call and enters how it ended. An adapter that is there is not made again. -/
def ask : Request → Action (A × Workspace) Entry
  | .create => pure (.create (.ok ()))
  | .start p => do
    let reply ← Action.attempt (Adapter.start p)
    pure (.start p reply)
  | .version => do
    let reply ← Action.attempt Adapter.version
    pure (.version reply)
  | .give part => do
    let reply ← Action.attempt (Adapter.give part)
    pure (.give part reply)
  | .solve => do
    let reply ← Action.attempt Adapter.solve
    pure (.solve reply)
  | .values => do
    let reply ← Action.attempt Adapter.values
    pure (.values reply)
  | .objectiveValue => do
    let reply ← Action.attempt Adapter.objectiveValue
    pure (.objectiveValue reply)
  | .close => do
    let reply ← Action.attempt Adapter.close
    pure (.close reply)

/-- Makes the calls one after the other, whether they fail or not. -/
def converse (requests : List Request) : Action (A × Workspace) (List Entry) :=
  Action.forEach ask requests

/-- The adapter goes on with the model that it was started for. -/
def continues : Request → Bool
  | .start _ | .close => false
  | _ => true

end Request

namespace Adapter

variable {A β : Type}

theorem look_run (f : A → β) (s : A × Workspace) : (look f).run s = (.ok (f s.1), s) := rfl

/-- A part of what the adapter remembers is the same as before. -/
def Keeping (f : A → β) (s t : A × Workspace) : Prop :=
  f t.1 = f s.1

section Rules

variable {α : Type} {f : A → β}

instance : Std.Refl (Keeping f) where
  refl _ := rfl

instance : Trans (Keeping f) (Keeping f) (Keeping f) where
  trans h h' := Eq.trans h' h

theorem keeping_onSecond (x : Action Workspace α) :
    Within (Keeping f) (onSecond x : Action (A × Workspace) α) :=
  fun _ => rfl

theorem keeping_look (g : A → α) : Within (Keeping f) (look g) :=
  within_gets _

theorem keeping_remember {g : A → A} (same : ∀ a, f (g a) = f a) :
    Within (Keeping f) (remember g) :=
  fun s => same s.1

end Rules

variable [Adapter A]

/-- The calls that go on with a model leave a part of what the adapter remembers alone. -/
structure Keeps (f : A → β) : Prop where
  version : Within (Keeping f) (Adapter.version (A := A))
  give : ∀ part, Within (Keeping f) (Adapter.give (A := A) part)
  solve : Within (Keeping f) (Adapter.solve (A := A))
  values : Within (Keeping f) (Adapter.values (A := A))
  objectiveValue : Within (Keeping f) (Adapter.objectiveValue (A := A))

/-- The calls that start an adapter or close it leave it alone too. -/
structure Lasts (f : A → β) : Prop extends Keeps f where
  start : ∀ p, Within (Keeping f) (Adapter.start (A := A) p)
  close : Within (Keeping f) (Adapter.close (A := A))

theorem Keeps.ask {f : A → β} (h : Keeps f) {q : Request} (continues : q.continues = true) :
    Within (Keeping f) (q.ask (A := A)) := by
  cases q with
  | create => exact within_pure _
  | version => exact within_bind (within_attempt h.version) fun _ => within_pure _
  | give part => exact within_bind (within_attempt (h.give part)) fun _ => within_pure _
  | solve => exact within_bind (within_attempt h.solve) fun _ => within_pure _
  | values => exact within_bind (within_attempt h.values) fun _ => within_pure _
  | objectiveValue => exact within_bind (within_attempt h.objectiveValue) fun _ => within_pure _
  | start p => cases continues
  | close => cases continues

theorem Lasts.ask {f : A → β} (h : Lasts f) (q : Request) :
    Within (Keeping f) (q.ask (A := A)) := by
  cases q with
  | start p => exact within_bind (within_attempt (h.start p)) fun _ => within_pure _
  | close => exact within_bind (within_attempt h.close) fun _ => within_pure _
  | create | version | give | solve | values | objectiveValue => exact h.toKeeps.ask rfl

/-- The adapter `first` after calls that are allowed, each made in some workspace. -/
inductive Used (allowed : Request → Prop) (first : A) : A → Prop
  | unused : Used allowed first first
  | ask {a : A} (before : Used allowed first a) {q : Request} (may : allowed q) (w : Workspace) :
      Used allowed first (q.ask.run (a, w)).2.1

theorem Used.keeping {allowed : Request → Prop} {first a : A} {f : A → β}
    (used : Used allowed first a)
    (step : ∀ q, allowed q → Within (Keeping f) (Request.ask (A := A) q)) : f a = f first := by
  induction used with
  | unused => rfl
  | ask before may w ih => exact (step _ may (_, w)).trans ih

end Adapter

end LinearDispatch
