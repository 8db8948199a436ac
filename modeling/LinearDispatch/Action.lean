import LinearDispatch.Failure

/-!
# Actions

A computation on a state that may fail. Failing undoes nothing: the state that an action leaves
behind is there whether it returned or failed, which is what matters for handles that have to be
released and models that have to be disposed of after a failure.
-/

namespace LinearDispatch

/-- A computation on `σ`: what it answers, and the state it leaves in either case. -/
def Action (σ α : Type) : Type :=
  σ → Except Failure α × σ

namespace Action

variable {σ τ α β : Type}

def run (x : Action σ α) (s : σ) : Except Failure α × σ :=
  x s

/-- The rest of an action runs only after an answer, on the state that the first part left. -/
instance : Monad (Action σ) where
  pure a := fun s => (.ok a, s)
  bind x f := fun s =>
    match x s with
    | (.ok a, s') => f a s'
    | (.error e, s') => (.error e, s')

@[simp] theorem run_pure (a : α) (s : σ) : (pure a : Action σ α).run s = (.ok a, s) := rfl

theorem run_bind (x : Action σ α) (f : α → Action σ β) (s : σ) :
    (x >>= f).run s =
      match x.run s with
      | (.ok a, s') => (f a).run s'
      | (.error e, s') => (.error e, s') := rfl

theorem run_bind_of_ok {x : Action σ α} {f : α → Action σ β} {s : σ} {a : α}
    (answered : (x.run s).1 = .ok a) : (x >>= f).run s = (f a).run (x.run s).2 := by
  rw [run_bind]
  cases ran : x.run s with
  | mk r t =>
    rw [ran] at answered
    cases answered
    rfl

instance : LawfulMonad (Action σ) :=
  LawfulMonad.mk' (Action σ)
    (fun x => by
      funext s
      change (match x s with | (.ok a, s') => (.ok a, s') | (.error e, s') => (.error e, s')) = x s
      rcases x s with ⟨_ | _, _⟩ <;> rfl)
    (fun _ _ => rfl)
    (fun x f g => by
      funext s
      change ((x >>= f) >>= g).run s = (x >>= fun a => f a >>= g).run s
      simp only [run_bind]
      rcases x.run s with ⟨_ | _, _⟩ <;> rfl)

def fail (e : Failure) : Action σ α :=
  fun s => (.error e, s)

def ofExcept (r : Except Failure α) : Action σ α :=
  fun s => (r, s)

/-- Runs an action and answers how it ended; never fails itself. -/
def attempt (x : Action σ α) : Action σ (Except Failure α) :=
  fun s => let (r, s') := x s; (.ok r, s')

def gets (f : σ → α) : Action σ α :=
  fun s => (.ok (f s), s)

def modify (f : σ → σ) : Action σ Unit :=
  fun s => (.ok (), f s)

/-- Fails with what the check finds, and changes nothing. -/
def check : Option Failure → Action σ Unit
  | none => pure ()
  | some e => fail e

/-- Runs an action on the second half of a state. -/
def onSecond (x : Action τ α) : Action (σ × τ) α :=
  fun s => let (r, t) := x s.2; (r, (s.1, t))

/-- Runs an action with a first half of the state of its own, which ends with it. -/
def withFirst (first : σ) (x : Action (σ × τ) α) : Action τ α :=
  fun t => let (r, s) := x (first, t); (r, s.2)

instance : MonadLift (Action τ) (Action (σ × τ)) := ⟨onSecond⟩

@[simp] theorem run_fail (e : Failure) (s : σ) : (fail e : Action σ α).run s = (.error e, s) := rfl

@[simp] theorem run_ofExcept (r : Except Failure α) (s : σ) :
    (ofExcept r : Action σ α).run s = (r, s) := rfl

@[simp] theorem run_attempt (x : Action σ α) (s : σ) :
    x.attempt.run s = (.ok (x.run s).1, (x.run s).2) := rfl

@[simp] theorem run_gets (f : σ → α) (s : σ) : (gets f).run s = (.ok (f s), s) := rfl

@[simp] theorem run_modify (f : σ → σ) (s : σ) : (modify f).run s = (.ok (), f s) := rfl

@[simp] theorem run_onSecond (x : Action τ α) (s : σ × τ) :
    (onSecond x).run s = ((x.run s.2).1, (s.1, (x.run s.2).2)) := rfl

@[simp] theorem run_liftM (x : Action τ α) (s : σ × τ) :
    (liftM x : Action (σ × τ) α).run s = ((x.run s.2).1, (s.1, (x.run s.2).2)) := rfl

@[simp] theorem run_withFirst (first : σ) (x : Action (σ × τ) α) (t : τ) :
    (withFirst first x).run t = ((x.run (first, t)).1, (x.run (first, t)).2.2) := rfl

/-- Runs `f` on the items in order and collects its answers; the first failure ends it. -/
def forEach (f : α → Action σ β) : List α → Action σ (List β)
  | [] => pure []
  | a :: rest => do
    let b ← f a
    let bs ← forEach f rest
    pure (b :: bs)

theorem run_forEach_cons_of_ok {f : α → Action σ β} {a : α} {b : β} {s s' : σ}
    (first : (f a).run s = (.ok b, s')) (rest : List α) :
    (forEach f (a :: rest)).run s =
      (((forEach f rest).run s').1.map (b :: ·), ((forEach f rest).run s').2) := by
  rw [forEach, run_bind, first]
  dsimp only
  rw [run_bind]
  rcases (forEach f rest).run s' with ⟨_ | _, _⟩ <;> rfl

theorem run_forEach_cons_of_error {f : α → Action σ β} {a : α} {e : Failure} {s s' : σ}
    (first : (f a).run s = (.error e, s')) (rest : List α) :
    (forEach f (a :: rest)).run s = (.error e, s') := by
  rw [forEach, run_bind, first]

theorem forEach_map {γ : Type} (f : β → Action σ γ) (g : α → β) (items : List α) :
    forEach f (items.map g) = forEach (fun a => f (g a)) items := by
  induction items with
  | nil => rfl
  | cons a rest ih => rw [List.map_cons, forEach, forEach, ih]

end Action

end LinearDispatch
