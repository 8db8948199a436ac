import LinearDispatch.Action

/-!
# When an action returns

Some actions only prepare something: what matters is under which condition they return, and that
they leave alone what was there before. A `Frame` names the states that are looked at and what
counts as left alone, and `Returns` puts both halves of the statement together, because the second
half is what keeps the first one going: a condition on the first state is one on every later state.
-/

namespace LinearDispatch.Action

variable {σ α β : Type}

theorem exists_run_of_isOk {x : Action σ α} {s : σ} (h : (x.run s).1.isOk = true) :
    ∃ a t, x.run s = (.ok a, t) := by
  cases hr : x.run s with
  | mk r t =>
      rw [hr] at h
      cases r with
      | ok a => exact ⟨a, t, rfl⟩
      | error e => cases h

theorem isOk_map (f : α → β) (x : Except Failure α) : (x.map f).isOk = x.isOk := by
  cases x <;> rfl

theorem exists_of_bind_eq_ok {x : Except Failure α} {f : α → Except Failure β} {b : β}
    (h : (x >>= f) = .ok b) : ∃ a, x = .ok a ∧ f a = .ok b := by
  cases x with
  | error e => cases h
  | ok a => exact ⟨a, rfl, h⟩

/-- If an action in two parts returns, both parts do. -/
theorem run_bind_eq_ok {x : Action σ α} {f : α → Action σ β} {s t : σ} {b : β} :
    (x >>= f).run s = (.ok b, t) ↔
      ∃ a s', x.run s = (.ok a, s') ∧ (f a).run s' = (.ok b, t) := by
  rw [run_bind]
  cases hr : x.run s with
  | mk r s' =>
      cases r with
      | error e => exact ⟨nofun, fun ⟨a, s', ran, _⟩ => nomatch ran⟩
      | ok a =>
          constructor
          · exact fun later => ⟨a, s', rfl, later⟩
          · rintro ⟨a', s'', ran, later⟩
            cases ran
            exact later

/-- An attempt answers how the action ended, and leaves what it left. -/
theorem run_attempt_eq_ok {x : Action σ α} {s t : σ} {r : Except Failure α} :
    x.attempt.run s = (.ok r, t) ↔ x.run s = (r, t) := by
  rw [run_attempt]
  obtain ⟨r', t'⟩ := x.run s
  simp only [Prod.mk.injEq, Except.ok.injEq]

theorem run_withFirst_eq {τ : Type} {first : σ} {x : Action (σ × τ) α} {t t' : τ}
    {r : Except Failure α} :
    (withFirst first x).run t = (r, t') ↔ ∃ last, x.run (first, t) = (r, last, t') := by
  rw [run_withFirst]
  obtain ⟨r', last, t''⟩ := x.run (first, t)
  constructor
  · rintro ⟨⟩
    exact ⟨last, rfl⟩
  · rintro ⟨_, ⟨⟩⟩
    rfl

/-- States that are looked at, and what an action has to keep of them. What is kept is enough to
stay among these states. -/
structure Frame (σ : Type) where
  Here : σ → Prop
  Same : σ → σ → Prop
  refl : ∀ s, Same s s
  trans : ∀ {s t u}, Same s t → Same t u → Same s u
  stays : ∀ {s t}, Same s t → Here s → Here t

/-- From a state, an action returns just if `c` holds, and keeps what there is to keep. -/
def ReturnsFrom (F : Frame σ) (s : σ) (c : Prop) (x : Action σ α) : Prop :=
  ((x.run s).1.isOk = true ↔ c) ∧ F.Same s (x.run s).2

/-- An action does so from all states that are looked at. -/
def Returns (F : Frame σ) (c : Prop) (x : Action σ α) : Prop :=
  ∀ s, F.Here s → ReturnsFrom F s c x

variable {F : Frame σ} {c d : Prop}

theorem returns_pure (a : α) : Returns F True (pure a) :=
  fun s _ => ⟨iff_of_true rfl trivial, F.refl s⟩

theorem returns_gets (f : σ → α) : Returns F True (gets f) :=
  fun s _ => ⟨iff_of_true rfl trivial, F.refl s⟩

theorem returns_modify {f : σ → σ} (h : ∀ s, F.Same s (f s)) : Returns F True (modify f) :=
  fun s _ => ⟨iff_of_true rfl trivial, h s⟩

theorem returns_ofExcept (r : Except Failure α) : Returns F (r.isOk = true) (ofExcept r) :=
  fun s _ => ⟨Iff.rfl, F.refl s⟩

theorem returns_check (e : Option Failure) : Returns F (e = none) (check e) := by
  rintro s -
  cases e with
  | none => exact ⟨iff_of_true rfl rfl, F.refl s⟩
  | some e => exact ⟨iff_of_false Bool.false_ne_true nofun, F.refl s⟩

theorem returnsFrom_congr {s : σ} {x : Action σ α} (h : c ↔ d) (hx : ReturnsFrom F s c x) :
    ReturnsFrom F s d x :=
  ⟨hx.1.trans h, hx.2⟩

theorem returns_congr {x : Action σ α} (h : c ↔ d) (hx : Returns F c x) : Returns F d x :=
  fun s here => returnsFrom_congr h (hx s here)

/-- A run that is known to its end. -/
theorem returnsFrom_of_run {x : Action σ α} {s t : σ} {a : α} (ran : x.run s = (.ok a, t))
    (same : F.Same s t) : ReturnsFrom F s True x := by
  unfold ReturnsFrom
  rw [ran]
  exact ⟨iff_of_true rfl trivial, same⟩

/-- After a run that is known to its end, everything depends on what follows. -/
theorem returnsFrom_bind_of_run {x : Action σ α} {f : α → Action σ β} {s t : σ} {a : α}
    (ran : x.run s = (.ok a, t)) (same : F.Same s t) (hf : ReturnsFrom F t c (f a)) :
    ReturnsFrom F s c (x >>= f) := by
  unfold ReturnsFrom
  rw [run_bind, ran]
  exact ⟨hf.1, F.trans same hf.2⟩

theorem returnsFrom_bind {s : σ} (here : F.Here s) {x : Action σ α} {f : α → Action σ β}
    (hx : ReturnsFrom F s c x) (hf : ∀ a, Returns F d (f a)) :
    ReturnsFrom F s (c ∧ d) (x >>= f) := by
  obtain ⟨returns, same⟩ := hx
  unfold ReturnsFrom
  rw [run_bind]
  cases hr : x.run s with
  | mk r t =>
      rw [hr] at returns same
      cases r with
      | error e =>
          exact ⟨iff_of_false Bool.false_ne_true (fun both => nomatch returns.2 both.1), same⟩
      | ok a =>
          obtain ⟨returns', same'⟩ := hf a t (F.stays same here)
          exact ⟨returns'.trans (and_iff_right (returns.1 rfl)).symm, F.trans same same'⟩

theorem returns_bind {x : Action σ α} {f : α → Action σ β} (hx : Returns F c x)
    (hf : ∀ a, Returns F d (f a)) : Returns F (c ∧ d) (x >>= f) :=
  fun s here => returnsFrom_bind here (hx s here) hf

/-- A first action that always returns asks for nothing. -/
theorem returns_then {x : Action σ α} {f : α → Action σ β} (hx : Returns F True x)
    (hf : ∀ a, Returns F d (f a)) : Returns F d (x >>= f) :=
  returns_congr (iff_of_eq (true_and d)) (returns_bind hx hf)

/-- What fails after something that always returns fails there. -/
theorem error_then {x : Action σ α} {f : α → Action σ β} {e : Failure} (hx : Returns F True x)
    (hf : ∀ a t, F.Here t → ((f a).run t).1 = .error e) (s : σ) (here : F.Here s) :
    ((x >>= f).run s).1 = .error e := by
  obtain ⟨returns, same⟩ := hx s here
  obtain ⟨a, t, ran⟩ := exists_run_of_isOk (returns.2 trivial)
  rw [ran] at same
  rw [run_bind, ran]
  exact hf a t (F.stays same here)

/-- What always returns can be attempted, and its answer is there. -/
theorem returns_attempt {x : Action σ α} {f : Except Failure α → Action σ β}
    (hx : Returns F True x) (hf : ∀ a, Returns F c (f (.ok a))) :
    Returns F c (x.attempt >>= f) := by
  intro s here
  obtain ⟨returns, same⟩ := hx s here
  cases hr : x.run s with
  | mk r t =>
      rw [hr] at returns same
      cases r with
      | error e => cases returns.2 trivial
      | ok a =>
          have ran : x.attempt.run s = (.ok (.ok a), t) := by rw [run_attempt, hr]
          exact returnsFrom_bind_of_run ran same (hf a t (F.stays same here))

theorem returns_forEach {f : α → Action σ β} (hf : ∀ a, Returns F True (f a)) (items : List α) :
    Returns F True (forEach f items) := by
  induction items with
  | nil => exact returns_pure []
  | cons a rest ih => exact returns_then (hf a) fun _ => returns_then ih fun _ => returns_pure _

end LinearDispatch.Action
