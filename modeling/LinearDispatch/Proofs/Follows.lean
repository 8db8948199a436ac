import LinearDispatch.Action

/-!
# Runs on a larger state

What happens during an action is often more than what it leaves behind: which calls were made,
and how each of them ended. A proof about that runs the action on a larger state, one that keeps
notes, and then owes an argument that the notes changed nothing. `Follows` is that argument:
forgetting the notes, the run on the larger state is the plain run, failure or not.

Everything that actions are built from respects it, so it is carried through a program stage by
stage, and the only real case is the call that takes the note.
-/

namespace LinearDispatch.Action

variable {σ τ υ α β : Type}

/-- With part of the state forgotten by `π`, the run of `x` is the run of `y`: the same answer,
and the same state left behind. -/
def Follows (π : σ → τ) (x : Action σ α) (y : Action τ α) : Prop :=
  ∀ s, ((x.run s).1, π (x.run s).2) = y.run (π s)

theorem follows_pure {π : σ → τ} (a : α) :
    Follows π (pure a : Action σ α) (pure a) := fun _ => rfl

theorem follows_fail {π : σ → τ} (e : Failure) :
    Follows π (fail e : Action σ α) (fail e) := fun _ => rfl

theorem follows_ofExcept {π : σ → τ} (r : Except Failure α) :
    Follows π (ofExcept r) (ofExcept r) := fun _ => rfl

theorem follows_bind {π : σ → τ} {x : Action σ α} {y : Action τ α}
    {f : α → Action σ β} {g : α → Action τ β} (hx : Follows π x y)
    (hf : ∀ a, Follows π (f a) (g a)) : Follows π (x >>= f) (y >>= g) := by
  intro s
  rw [run_bind, run_bind, ← hx s]
  cases hr : x.run s with
  | mk r t =>
      cases r with
      | ok a => exact hf a t
      | error e => rfl

theorem follows_attempt {π : σ → τ} {x : Action σ α} {y : Action τ α}
    (hx : Follows π x y) : Follows π x.attempt y.attempt := by
  intro s
  rw [run_attempt, run_attempt, ← hx s]

/-- An action on the part of the state that is kept follows itself. -/
theorem follows_onSecond (f : σ → τ) (x : Action υ α) :
    Follows (fun s : σ × υ => (f s.1, s.2)) (onSecond x) (onSecond x) :=
  fun _ => rfl

theorem follows_onSecond_snd (x : Action τ α) :
    Follows (Prod.snd : σ × τ → τ) (onSecond x) x := fun _ => rfl

end LinearDispatch.Action
