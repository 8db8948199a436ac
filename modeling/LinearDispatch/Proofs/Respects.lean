import LinearDispatch.Adapter.Interface

/-!
# Two runs of one action

What an action cannot read does not decide what it does. That is said of two runs: from states that
belong together the action gives the same answer twice and leaves states that belong together again.
Sometimes that holds only as long as nothing happens in the first run that the second one does not
share. So a `Comparison` has, besides the relation, the states with which it is over, and `Respects
R` holds of an action if it keeps to the relation or ends the comparison; what is over stays over.

As for `Within`, the parts of an action do so one by one, and this file has the rule for each way of
building actions; an action on an adapter and a workspace is followed with the adapter the same in
both runs.
-/

namespace LinearDispatch.Action

variable {σ τ α β : Type}

/-- Which states of two runs belong together, and which states of the first one end the
comparison. -/
structure Comparison (σ : Type) where
  Related : σ → σ → Prop
  Over : σ → Prop

/-- A comparison that is never over. -/
def Comparison.ever (R : σ → σ → Prop) : Comparison σ :=
  ⟨R, fun _ => False⟩

variable {R : Comparison σ}

/-- From related states the action gives the same answer and leaves related states, or the
comparison is over. -/
def Respects (R : Comparison σ) (x : Action σ α) : Prop :=
  ∀ s, (R.Over s → R.Over (x.run s).2) ∧ ∀ s', R.Related s s' →
    R.Over (x.run s).2 ∨ (x.run s).1 = (x.run s').1 ∧ R.Related (x.run s).2 (x.run s').2

theorem respects_pure (a : α) : Respects R (pure a : Action σ α) :=
  fun _ => ⟨id, fun _ h => .inr ⟨rfl, h⟩⟩

theorem respects_fail (e : Failure) : Respects R (fail e : Action σ α) :=
  fun _ => ⟨id, fun _ h => .inr ⟨rfl, h⟩⟩

theorem respects_ofExcept (r : Except Failure α) : Respects R (ofExcept r : Action σ α) :=
  fun _ => ⟨id, fun _ h => .inr ⟨rfl, h⟩⟩

theorem respects_check (e : Option Failure) : Respects R (check e : Action σ Unit) := by
  cases e with
  | none => exact respects_pure ()
  | some e => exact respects_fail e

theorem respects_gets {f : σ → α} (same : ∀ s s', R.Related s s' → f s = f s') :
    Respects R (gets f) :=
  fun s => ⟨id, fun s' h => .inr ⟨congrArg Except.ok (same s s' h), h⟩⟩

theorem respects_modify {f : σ → σ} (ends : ∀ s, R.Over s → R.Over (f s))
    (keeps : ∀ s s', R.Related s s' → R.Related (f s) (f s')) : Respects R (Action.modify f) :=
  fun s => ⟨ends s, fun s' h => .inr ⟨rfl, keeps s s' h⟩⟩

theorem respects_bind {x : Action σ α} {f : α → Action σ β} (hx : Respects R x)
    (hf : ∀ a, Respects R (f a)) : Respects R (x >>= f) := by
  intro s
  obtain ⟨ends, keeps⟩ := hx s
  -- what is over after the first part stays over
  have stays : R.Over (x.run s).2 → R.Over ((x >>= f).run s).2 := by
    intro ended
    rw [run_bind]
    cases ran : x.run s with
    | mk r t =>
        rw [ran] at ended
        cases r with
        | ok a => exact (hf a t).1 ended
        | error e => exact ended
  refine ⟨fun ended => stays (ends ended), fun s' h => ?_⟩
  obtain ended | ⟨answer, left⟩ := keeps s' h
  · exact .inl (stays ended)
  · rw [run_bind, run_bind]
    cases ran : x.run s with
    | mk r t =>
        cases ran' : x.run s' with
        | mk r' t' =>
            rw [ran, ran'] at answer left
            cases answer
            cases r with
            | ok a => exact (hf a t).2 t' left
            | error e => exact .inr ⟨rfl, left⟩

theorem respects_attempt {x : Action σ α} (hx : Respects R x) : Respects R x.attempt :=
  fun s => ⟨(hx s).1, fun s' h => ((hx s).2 s' h).imp_right fun both =>
    ⟨congrArg Except.ok both.1, both.2⟩⟩

theorem respects_ite {c : Prop} [Decidable c] {x y : Action σ α} (hx : Respects R x)
    (hy : Respects R y) : Respects R (if c then x else y) := by
  split
  · exact hx
  · exact hy

theorem respects_forEach {f : α → Action σ β} (hf : ∀ a, Respects R (f a)) (items : List α) :
    Respects R (forEach f items) := by
  induction items with
  | nil => exact respects_pure []
  | cons a rest ih =>
      exact respects_bind (hf a) fun _ => respects_bind ih fun _ => respects_pure _

/-! ## Beside something that both runs have -/

/-- The first halves are the same, the second ones belong together. -/
structure Agree (P : τ → τ → Prop) (s s' : σ × τ) : Prop where
  first : s.1 = s'.1
  second : P s.2 s'.2

abbrev Beside (R : Comparison τ) : Comparison (σ × τ) :=
  ⟨Agree R.Related, fun s => R.Over s.2⟩

variable {Q : Comparison τ}

theorem respects_onSecond {x : Action τ α} (hx : Respects Q x) :
    Respects (Beside (σ := σ) Q) (onSecond x) :=
  fun s => ⟨(hx s.2).1, fun s' h => ((hx s.2).2 s'.2 h.second).imp_right fun both =>
    ⟨both.1, h.first, both.2⟩⟩

theorem respects_look {R : Comparison Workspace} (f : σ → α) :
    Respects (Beside R) (Adapter.look f) :=
  respects_gets fun _ _ h => congrArg f h.first

theorem respects_remember {R : Comparison Workspace} (f : σ → σ) :
    Respects (Beside R) (Adapter.remember f) :=
  respects_modify (fun _ ended => ended) fun _ _ h => ⟨congrArg f h.first, h.second⟩

theorem respects_inside {A B : Type} {R : Comparison Workspace} {x : Action (A × Workspace) α}
    (hx : Respects (Beside R) x) (wrap : A → B) (a : A) :
    Respects (Beside R) (Adapter.inside wrap a x : Action (B × Workspace) α) :=
  fun s => ⟨(hx (a, s.2)).1, fun s' h => ((hx (a, s.2)).2 (a, s'.2) ⟨rfl, h.second⟩).imp_right
    fun both => ⟨both.1, congrArg wrap both.2.first, both.2.second⟩⟩

end LinearDispatch.Action
