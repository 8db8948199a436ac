import LinearDispatch.Adapter.Interface

/-!
# What the parts of an action respect

Much of what is said about an action is said of the states before and after it, whatever the answer:
the journal has only grown, a handle is as it was, an invariant still holds. `Within R` says so for
a relation `R`. If `R` relates every state to itself and can be chained, then an action respects it
as soon as its parts do, and this file has the rule for each way of building actions.
-/

namespace LinearDispatch.Action

variable {σ τ α β : Type} {R : σ → σ → Prop}

/-- What the action leaves is related to what it found, whether it returned or failed. -/
def Within (R : σ → σ → Prop) (x : Action σ α) : Prop :=
  ∀ s, R s (x.run s).2

theorem Within.mono {R' : σ → σ → Prop} {x : Action σ α} (h : ∀ s t, R s t → R' s t)
    (hx : Within R x) : Within R' x :=
  fun s => h _ _ (hx s)

section Rules

variable [Std.Refl R]

theorem within_pure (a : α) : Within R (pure a : Action σ α) :=
  fun s => Std.Refl.refl s

theorem within_fail (e : Failure) : Within R (fail e : Action σ α) :=
  fun s => Std.Refl.refl s

theorem within_ofExcept (r : Except Failure α) : Within R (ofExcept r) :=
  fun s => Std.Refl.refl s

theorem within_gets (f : σ → α) : Within R (gets f) :=
  fun s => Std.Refl.refl s

theorem within_check (e : Option Failure) : Within R (check e) := by
  cases e with
  | none => exact within_pure ()
  | some e => exact within_fail e

end Rules

theorem within_modify {f : σ → σ} (h : ∀ s, R s (f s)) : Within R (Action.modify f) :=
  h

theorem within_attempt {x : Action σ α} (hx : Within R x) : Within R x.attempt :=
  fun s => hx s

theorem within_ite {c : Prop} [Decidable c] {x y : Action σ α} (hx : Within R x)
    (hy : Within R y) : Within R (if c then x else y) := by
  split
  · exact hx
  · exact hy

/-- From one state: what the second action leaves is related to what the first one found, if each
of them does its part where it is run. -/
theorem related_bind [Trans R R R] {x : Action σ α} {f : α → Action σ β} {s : σ}
    (hx : R s (x.run s).2) (hf : ∀ a t, x.run s = (.ok a, t) → R t ((f a).run t).2) :
    R s ((x >>= f).run s).2 := by
  rw [run_bind]
  cases hr : x.run s with
  | mk r t =>
      rw [hr] at hx
      cases r with
      | ok a => exact Trans.trans hx (hf a t hr)
      | error e => exact hx

/-- After an action that changes nothing the next one is run where the first one was. -/
theorem related_bind_of_stays [Std.Refl R] {x : Action σ α} {f : α → Action σ β} {s : σ}
    (hx : Within Eq x) (hf : ∀ a, x.run s = (.ok a, s) → R s ((f a).run s).2) :
    R s ((x >>= f).run s).2 := by
  have stays := hx s
  rw [run_bind]
  cases hr : x.run s with
  | mk r t =>
      rw [hr] at stays
      cases stays
      cases r with
      | ok a => exact hf a hr
      | error e => exact Std.Refl.refl _

theorem within_bind [Trans R R R] {x : Action σ α} {f : α → Action σ β} (hx : Within R x)
    (hf : ∀ a, Within R (f a)) : Within R (x >>= f) :=
  fun s => related_bind (hx s) fun a t _ => hf a t

theorem related_ofExcept_bind [Std.Refl R] {r : Except Failure α} {f : α → Action σ β} {s : σ}
    (hf : ∀ a, r = .ok a → R s ((f a).run s).2) : R s ((ofExcept r >>= f).run s).2 := by
  cases r with
  | ok a => exact hf a rfl
  | error e => exact Std.Refl.refl s

/-- What an action leaves is related to what follows on it. -/
theorem within_after [Std.Refl R] {x : Action σ α} {f : α → Action σ β}
    (hf : ∀ a, Within R (f a)) (s : σ) : R (x.run s).2 ((x >>= f).run s).2 := by
  rw [run_bind]
  cases x.run s with
  | mk r t =>
      cases r with
      | ok a => exact hf a t
      | error e => exact Std.Refl.refl t

theorem within_forEach_of_mem [Std.Refl R] [Trans R R R] {f : α → Action σ β} {items : List α}
    (hf : ∀ a ∈ items, Within R (f a)) : Within R (forEach f items) := by
  induction items with
  | nil => exact within_pure []
  | cons a rest ih =>
      refine within_bind (hf a List.mem_cons_self) fun _ => ?_
      exact within_bind (ih fun b hb => hf b (List.mem_cons_of_mem a hb)) fun _ => within_pure _

theorem within_forEach [Std.Refl R] [Trans R R R] {f : α → Action σ β} (hf : ∀ a, Within R (f a))
    (items : List α) : Within R (forEach f items) :=
  within_forEach_of_mem fun a _ => hf a

end LinearDispatch.Action
