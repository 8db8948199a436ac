import LinearDispatch.Dispatch.Outcome
import LinearDispatch.Proofs.Follows

/-!
# One adapter in the place of another

An adapter may be another one with something around it: a ledger of the calls made on it, or the sum
over all kinds of adapters that a registry hands out. `Carries` says that what is around it does not
show: each call on the one is the same call on the other, up to a map between what they remember.

A solve knows its adapter by these calls only, so the map carries through a whole drive. That is
`Dispatch.attempt_follows`, and it holds for any two kinds of adapters because the stages of a drive
are one program at two types.
-/

namespace LinearDispatch

open LinearDispatch.Action

/-- What a map between adapters makes of a state: the workspace is shared and stays. -/
def Adapter.carry {A B : Type} (f : A → B) (s : A × Workspace) : B × Workspace :=
  (f s.1, s.2)

/-- Seen through `f`, every call on an adapter of the first kind is that call on one of the
second. -/
structure Adapter.Carries {A B : Type} [Adapter A] [Adapter B] (f : A → B) : Prop where
  version : Follows (carry f) (Adapter.version (A := A)) Adapter.version
  start : ∀ p, Follows (carry f) (Adapter.start (A := A) p) (Adapter.start p)
  give : ∀ part, Follows (carry f) (Adapter.give (A := A) part) (Adapter.give part)
  solve : Follows (carry f) (Adapter.solve (A := A)) Adapter.solve
  values : Follows (carry f) (Adapter.values (A := A)) Adapter.values
  objectiveValue : Follows (carry f) (Adapter.objectiveValue (A := A)) Adapter.objectiveValue
  close : Follows (carry f) (Adapter.close (A := A)) Adapter.close

namespace Dispatch

variable {A B : Type} [Adapter A] [Adapter B] {f : A → B}

theorem handOver_follows (h : Adapter.Carries f) (parts : List Part) :
    Follows (Adapter.carry f) (handOver (A := A) parts) (handOver (A := B) parts) := by
  induction parts with
  | nil => exact follows_pure ()
  | cons part rest ih => exact follows_bind (h.give part) fun _ => ih

theorem run_follows (h : Adapter.Carries f) (problem : Problem) (parameters : Given Parameters)
    (backend : Value) :
    Follows (Adapter.carry f) (run (A := A) problem parameters backend)
      (run (A := B) problem parameters backend) := by
  refine follows_bind (h.start parameters) fun _ => ?_
  refine follows_bind h.version fun version => ?_
  refine follows_bind (follows_onSecond _ _) fun _ => ?_
  refine follows_bind (handOver_follows h _) fun _ => ?_
  refine follows_bind h.solve fun answer => ?_
  refine follows_bind (follows_ofExcept _) fun status => ?_
  split
  · exact follows_pure _
  · refine follows_bind h.values fun raw => ?_
    refine follows_bind (follows_ofExcept _) fun values => ?_
    split
    · exact follows_pure _
    · refine follows_bind h.objectiveValue fun raw => ?_
      exact follows_bind (follows_ofExcept _) fun _ => follows_pure _

theorem closeQuietly_follows (h : Adapter.Carries f) (backend : Value) :
    Follows (Adapter.carry f) (closeQuietly (A := A) backend) (closeQuietly (A := B) backend) := by
  refine follows_bind (follows_attempt h.close) fun closed => ?_
  cases closed with
  | ok => exact follows_pure ()
  | error e => exact follows_onSecond _ _

/-- The drive of an adapter, seen through the map, is the drive of what it is mapped to. -/
theorem attempt_follows (h : Adapter.Carries f) (problem : Problem) (parameters : Given Parameters)
    (backend : Value) :
    Follows (Adapter.carry f) (attempt (A := A) problem parameters backend)
      (attempt (A := B) problem parameters backend) := by
  refine follows_bind (follows_attempt (run_follows h _ _ _)) fun ended => ?_
  cases ended with
  | error e =>
      refine follows_bind (follows_onSecond _ _) fun outcome => ?_
      exact follows_bind (closeQuietly_follows h _) fun _ => follows_pure _
  | ok outcome =>
      exact follows_bind (closeQuietly_follows h _) fun _ => follows_onSecond _ _

end Dispatch

/-! ## Backends

A backend is driven by driving the adapter that it is. -/

namespace Backend

theorem carries_orTools : Adapter.Carries Backend.orTools := by
  constructor <;> intros <;> exact fun _ => rfl

theorem carries_highs : Adapter.Carries Backend.highs := by
  constructor <;> intros <;> exact fun _ => rfl

theorem carries_gurobi : Adapter.Carries Backend.gurobi := by
  constructor <;> intros <;> exact fun _ => rfl

end Backend

end LinearDispatch
