import LinearDispatch.Proofs.Assembly
import LinearDispatch.Proofs.EnvironmentLives
import LinearDispatch.Proofs.GurobiAssembly
import LinearDispatch.Proofs.GurobiEnvironment
import Mathlib.Data.List.ReduceOption

/-!
# What a solve leaves of an environment

A solve with Gurobi acquires an environment somewhere in the middle of starting its adapter, and
gives it back at the very end of closing it. In between anything may fail, and a failure to close is
logged and forgotten. So it is asked here what a handle has after a solve that it did not have
before, and the same for the question whether Gurobi is available.

`Balanced` is the answer. The count of holders is as before, and if there were none, the environment
that was obtained has been disposed of; unless the model could not be disposed of. In that case the
adapter is left with the environment, and as nobody has the adapter any more, the handle counts one
holder too many from then on.
-/

namespace LinearDispatch

open LinearDispatch.Action Workspace

open SharedEnvironment (Along Kept Holding holding after turn)

/-! ## Models that cannot be disposed of -/

namespace Workspace

/-- One of the native calls in between was to dispose of a model, and it failed. -/
def Stuck (w w' : Workspace) : Prop :=
  ∃ k, ((w.written w').filterMap Event.native?)[k]? = some (.gurobi .disposeModel) ∧
    (w.faults (w.nativeCalls + k) (.gurobi .disposeModel)).isSome = true

/-- The environments that models were to be created on in between. -/
def obtained (w w' : Workspace) : List Environment :=
  ((w.written w').filterMap Event.modelOn?).reduceOption

variable {w w₁ w' : Workspace}

theorem disposeModel_not_mem {events : List Event}
    (none : ∀ e ∈ events, e ≠ .native (.gurobi .disposeModel)) :
    NativeCall.gurobi .disposeModel ∉ events.filterMap Event.native? := by
  intro member
  obtain ⟨e, he, native⟩ := List.mem_filterMap.1 member
  cases e with
  | native c =>
      cases native
      exact none _ he rfl
  | _ => cases native

theorem not_stuck (grows : w.Grows (fun e => e ≠ .native (.gurobi .disposeModel)) w') :
    ¬w.Stuck w' := by
  rintro ⟨k, called, -⟩
  exact disposeModel_not_mem grows.forall_written (List.mem_of_getElem? called)

theorem getElem?_eq_middle {α : Type} {l l' : List α} {a : α} (first : a ∉ l) (rest : a ∉ l')
    (k : Nat) : (l ++ a :: l')[k]? = some a ↔ k = l.length := by
  constructor
  · intro here
    rw [List.getElem?_append] at here
    split at here
    · exact absurd (List.mem_of_getElem? here) first
    · cases place : k - l.length with
      | zero => omega
      | succ j =>
          rw [place, List.getElem?_cons_succ] at here
          exact absurd (List.mem_of_getElem? here) rest
  · rintro rfl
    rw [List.getElem?_append_right (Nat.le_refl _), Nat.sub_self]
    rfl

/-- If a model was to be disposed of once, the number of that call decides. -/
theorem stuck_iff (before : w.Grows (fun e => e ≠ .native (.gurobi .disposeModel)) w₁)
    (later : (w₁.afterCall (.gurobi .disposeModel)).Grows
      (fun e => e ≠ .native (.gurobi .disposeModel)) w') :
    w.Stuck w' ↔ (w.faults w₁.nativeCalls (.gurobi .disposeModel)).isSome = true := by
  have called : w₁.Grows (fun _ => True) (w₁.afterCall (.gurobi .disposeModel)) :=
    grows_afterCall trivial w₁
  have one : w₁.written (w₁.afterCall (.gurobi .disposeModel)) =
      [.native (.gurobi .disposeModel)] := written_of_append rfl
  have calls : (w.written w').filterMap Event.native? =
      (w.written w₁).filterMap Event.native? ++ .gurobi .disposeModel ::
        ((w₁.afterCall (.gurobi .disposeModel)).written w').filterMap Event.native? := by
    rw [before.written_trans (called.trans (later.mono fun _ _ => trivial)),
      called.written_trans later, one, List.filterMap_append]
    rfl
  -- The calls are numbered as they stand in the journal.
  obtain ⟨more, grown, counted, -⟩ := before.journal
  rw [counted, ← written_of_append grown]
  unfold Stuck
  rw [calls]
  simp only [getElem?_eq_middle (disposeModel_not_mem before.forall_written)
    (disposeModel_not_mem later.forall_written), exists_eq_left]

end Workspace

/-! ## The balance -/

/-- What a handle has after something that was to give back what it took. -/
structure Balanced (r : Ref SharedEnvironment) (w w' : Workspace) : Prop where
  holders : ¬w.Stuck w' →
    (w'.environments.get r).holders = (w.environments.get r).holders
  /-- Nobody held the environment before, and it has ended. -/
  alone : ¬w.Stuck w' → (w.environments.get r).holders = 0 →
    (w'.environments.get r).isOpen = false ∧ w.disposals w' = w.obtained w'
  /-- Somebody held the environment before, and it is still there. -/
  shared : ¬w.Stuck w' → 0 < (w.environments.get r).holders → w.disposals w' = [] ∧
    ∀ env, (w.environments.get r).environment = some env →
      (w'.environments.get r).environment = some env
  /-- The model could not be disposed of, and the environment was not given back. -/
  stuck : w.Stuck w' →
    (w'.environments.get r).holders = (w.environments.get r).holders + 1 ∧ w.disposals w' = []

namespace GurobiAdapter

variable {r : Ref SharedEnvironment} {w w' : Workspace}

/-- Nothing was acquired, and so nothing has to be given back. -/
theorem balanced_of_unchanged (idle : (w.environments.get r).holders = 0 →
      (w.environments.get r).environment = none)
    (same : holding r w' = holding r w)
    (grows : w.Grows (fun e => e.isPlain = true ∨ e.isAsking = true) w') : Balanced r w w' := by
  have sound : ¬w.Stuck w' := not_stuck (grows.mono fun e kind => by
    rintro rfl
    rcases kind with plain | asking
    · cases plain
    · cases asking)
  have disposals : w.disposals w' = [] := grows.disposals_eq_nil fun e kind =>
    kind.elim Event.disposes?_of_isPlain Event.disposes?_of_isAsking
  have obtained : w.obtained w' = [] := by
    rw [Workspace.obtained, grows.filterMap_eq_nil fun e kind =>
      kind.elim Event.modelOn?_of_isPlain Event.modelOn?_of_isAsking]
    rfl
  have environment : (w'.environments.get r).environment = (w.environments.get r).environment :=
    congrArg Holding.environment same
  refine ⟨fun _ => congrArg Holding.holders same, fun _ nobody => ⟨?_, ?_⟩,
    fun _ _ => ⟨disposals, fun env live => environment.trans live⟩, fun stuck => absurd stuck sound⟩
  · unfold SharedEnvironment.isOpen
    rw [environment, idle nobody]
    rfl
  · rw [disposals, obtained]

theorem released_grows (w : Workspace) :
    w.Grows (fun e => e.isEnding = true) (after r .release w) := by
  have left : after r .release w = ((SharedEnvironment.release r).run w).2 :=
    congrArg Prod.snd (SharedEnvironment.run_then_none _)
  rw [left]
  exact (SharedEnvironment.along_release (r := r) w).toGrows

/-- An adapter that holds the environment and has worked with a model, and what that has left. -/
structure Holds (r : Ref SharedEnvironment) (w : Workspace) (env : Option Environment)
    (t : GurobiAdapter × Workspace) : Prop where
  answer : (turn r .acquire w).answer = .ok env
  handle : t.1.environment = .proper r
  acquired : t.1.acquired = true
  along : Along Kept r (fun e => e.isPlain = true)
    ((after r .acquire w).afterCall (.gurobi (.createModel env))) t.2
  quiet : w.Grows (fun e => e ≠ .native (.gurobi .disposeModel)) t.2

namespace Holds

variable {env : Option Environment} {t : GurobiAdapter × Workspace}

/-- There is one holder more than before, and the environment is the one that was acquired. -/
theorem holding_eq (holds : Holds r w env t) (has : w.Has r) :
    (t.2.environments.get r).holders = (w.environments.get r).holders + 1 ∧
      (t.2.environments.get r).environment = env ∧
      ∀ e, (w.environments.get r).environment = some e → env = some e := by
  have same : holding r t.2 = holding r (after r .acquire w) := holding_of_kept holds.along.handle
  have step := SharedEnvironment.turn_step has .acquire
  rw [← same] at step
  obtain ⟨more, given, quiet⟩ := step.acquire_adds rfl holds.answer
  refine ⟨more, given, fun e live => ?_⟩
  rcases step.stays live with stays | ⟨disposed, -⟩
  · exact given.symm.trans stays
  · rw [quiet] at disposed
    cases disposed

theorem obtained_eq (holds : Holds r w env t)
    (later : t.2.Grows (fun e => e.modelOn? = none) w') : w.obtained w' = env.toList := by
  rw [Workspace.obtained, holds.quiet.written_trans later, List.filterMap_append,
    models_of_holds holds.along, later.filterMap_eq_nil fun _ => id]
  cases env <;> rfl

theorem balanced_of_stuck (holds : Holds r w env t) (has : w.Has r) {e : Failure}
    (fault : t.2.faults t.2.nativeCalls (.gurobi .disposeModel) = some e)
    (rest : Along Kept r (fun e => e.isPlain = true) (t.2.afterCall (.gurobi .disposeModel)) w') :
    Balanced r w w' := by
  have sound : w.Stuck w' := by
    refine (stuck_iff holds.quiet (rest.toGrows.mono fun e plain => ?_)).2 ?_
    · rintro rfl
      cases plain
    · rw [← holds.quiet.faults, fault]
      rfl
  have called : t.2.Grows (fun e => e.disposes? = none) (t.2.afterCall (.gurobi .disposeModel)) :=
    grows_afterCall (P := fun e => e.disposes? = none) rfl t.2
  have disposals : w.disposals w' = [] := by
    rw [holds.quiet.disposals_trans
        (called.trans (rest.toGrows.mono fun _ => Event.disposes?_of_isPlain)),
      disposals_of_holds holds.along, called.disposals_trans rest.toGrows,
      called.disposals_eq_nil fun _ => id,
      rest.disposals_eq_nil fun _ => Event.disposes?_of_isPlain]
    rfl
  have same : (w'.environments.get r).holders = (t.2.environments.get r).holders :=
    rest.handle.holders
  refine ⟨fun free => absurd sound free, fun free => absurd sound free,
    fun free => absurd sound free, fun _ => ⟨?_, disposals⟩⟩
  rw [same, (holds.holding_eq has).1]

theorem free_of_released (holds : Holds r w env t)
    (unstuck : t.1.model.isSome = true →
      t.2.faults t.2.nativeCalls (.gurobi .disposeModel) = none)
    (rest : (t.1.unloaded t.2).Grows (fun e => e ≠ .native (.gurobi .disposeModel)) w') :
    ¬w.Stuck w' := by
  by_cases model : t.1.model.isSome = true
  · rw [unloaded, if_pos model] at rest
    rw [stuck_iff holds.quiet rest, ← holds.quiet.faults, unstuck model]
    exact Bool.false_ne_true
  · rw [unloaded, if_neg model] at rest
    exact not_stuck (holds.quiet.trans rest)

theorem balanced_of_released (holds : Holds r w env t) (has : w.Has r)
    (unstuck : t.1.model.isSome = true →
      t.2.faults t.2.nativeCalls (.gurobi .disposeModel) = none)
    (rest : Along Kept r (fun e => e.isPlain = true) (after r .release (t.1.unloaded t.2)) w') :
    Balanced r w w' := by
  have unloading : Along Kept r (fun e => e = .native (.gurobi .disposeModel)) t.2
      (t.1.unloaded t.2) :=
    along_unloaded (P := fun e => e = .native (.gurobi .disposeModel)) rfl t.1 t.2
  have released := released_grows (r := r) (t.1.unloaded t.2)
  have tail : (t.1.unloaded t.2).Grows (fun e => e.isEnding = true ∨ e.isPlain = true) w' :=
    .trans (released.mono fun _ => .inl) (rest.toGrows.mono fun _ => .inr)
  have free : ¬w.Stuck w' := holds.free_of_released unstuck <| tail.mono fun e kind => by
    rintro rfl
    rcases kind with ending | plain
    · cases ending
    · cases plain
  -- What the release has done, seen from the state before the start and from the end.
  obtain ⟨more, given, same⟩ := holds.holding_eq has
  have step := SharedEnvironment.turn_step (unloading.has (holds.quiet.has has)) .release
  rw [holding_of_kept unloading.handle, ← holding_of_kept rest.handle] at step
  obtain ⟨less, stays, ends, disposed⟩ := step.release_subtracts rfl
    (show 0 < (t.2.environments.get r).holders by omega)
  have balance : (w'.environments.get r).holders = (w.environments.get r).holders := by
    have less' : (w'.environments.get r).holders + 1 = (t.2.environments.get r).holders := less
    omega
  have disposals : w.disposals w' =
      if (w'.environments.get r).holders = 0 then env.toList else [] := by
    have disposed' : (t.1.unloaded t.2).disposals (after r .release (t.1.unloaded t.2)) =
        if (w'.environments.get r).holders = 0 then env.toList else [] := by
      rw [← given]
      exact disposed
    have later : t.2.Grows (fun _ => True) w' :=
      .trans (unloading.toGrows.mono fun _ _ => trivial) (tail.mono fun _ _ => trivial)
    rw [holds.quiet.disposals_trans later, disposals_of_holds holds.along,
      unloading.disposals_trans tail, unloading.disposals_eq_nil (by rintro e rfl; rfl),
      released.disposals_trans rest.toGrows, disposed',
      rest.disposals_eq_nil fun _ => Event.disposes?_of_isPlain]
    exact List.append_nil _
  have obtained : w.obtained w' = env.toList := by
    refine holds.obtained_eq (.trans (unloading.toGrows.mono ?_) (tail.mono fun e kind => ?_))
    · rintro e rfl
      rfl
    · exact kind.elim Event.modelOn?_of_isEnding Event.modelOn?_of_isPlain
  refine ⟨fun _ => balance, fun _ nobody => ⟨?_, ?_⟩, fun _ somebody => ⟨?_, fun e live => ?_⟩,
    fun stuck => absurd stuck free⟩
  · have gone : (w'.environments.get r).environment = none := ends (balance.trans nobody)
    unfold SharedEnvironment.isOpen
    rw [gone]
    rfl
  · rw [disposals, obtained, if_pos (balance.trans nobody)]
  · rw [disposals, if_neg (by omega)]
  · have here : (w'.environments.get r).environment = (t.2.environments.get r).environment :=
      stays (show 0 < (w'.environments.get r).holders by omega)
    rw [here, given, same e live]

theorem balanced (holds : Holds r w env t) (has : w.Has r)
    (rest : Along Kept r (fun e => e.isPlain = true) (close.run t).2.2 w') : Balanced r w w' := by
  have closed : Closed r t.1 t.2 (close.run t) := close_closed holds.handle
  generalize close.run t = result at closed rest
  cases closed with
  | stuck model fault => exact holds.balanced_of_stuck has fault rest
  | idle unstuck acquired =>
      rw [holds.acquired] at acquired
      cases acquired
  | releases unstuck acquired answer => exact holds.balanced_of_released has unstuck rest

end Holds

/-! ## From the start to the close -/

/-- The adapter is as it was; something may have been written to the log. -/
structure Writes (r : Ref SharedEnvironment) (s t : GurobiAdapter × Workspace) : Prop where
  adapter : t.1 = s.1
  along : Along Kept r (fun e => e.isPlain = true) s.2 t.2

instance : Std.Refl (Writes r) where
  refl _ := ⟨rfl, Std.Refl.refl _⟩

theorem Writes.works {s t : GurobiAdapter × Workspace} (h : Writes r s t) : Works r s t :=
  ⟨congrArg GurobiAdapter.environment h.adapter, congrArg GurobiAdapter.acquired h.adapter, h.along⟩

/-- A start that ended in a certain way is followed by work with the model, unless it failed, and
by a close. -/
def Driven (r : Ref SharedEnvironment) (started : Except Failure Unit × GurobiAdapter × Workspace)
    (w' : Workspace) : Prop :=
  ∃ t, (started.1.isOk = false → Writes r started.2 t) ∧ Works r started.2 t ∧
    Along Kept r (fun e => e.isPlain = true) (close.run t).2.2 w'

/-- The close of an adapter that has acquired nothing. -/
theorem balanced_of_free {t : GurobiAdapter × Workspace}
    (idle : (w.environments.get r).holders = 0 → (w.environments.get r).environment = none)
    (same : holding r t.2 = holding r w)
    (grows : w.Grows (fun e => e.isPlain = true ∨ e.isAsking = true) t.2)
    (adapter : t.1 = make (.proper r))
    (rest : Along Kept r (fun e => e.isPlain = true) (close.run t).2.2 w') :
    Balanced r w w' := by
  obtain ⟨a, w₁⟩ := t
  cases adapter
  have closed := close_closed (r := r) (w := w₁) (a := make (.proper r)) rfl
  generalize close.run (make (.proper r), w₁) = result at closed rest
  cases closed with
  | stuck model fault => cases model
  | idle unstuck acquired =>
      exact balanced_of_unchanged idle ((holding_of_kept rest.handle).trans same)
        (grows.trans (rest.toGrows.mono fun _ => .inl))
  | releases unstuck acquired answer => cases acquired

theorem balanced_of_driven (has : w.Has r)
    (idle : (w.environments.get r).holders = 0 → (w.environments.get r).environment = none)
    {p : Given Parameters} (driven : Driven r ((start p).run (make (.proper r), w)) w') :
    Balanced r w w' := by
  obtain ⟨t, failed, works, rest⟩ := driven
  have opened := start_opened (w := w) (a := make (.proper r)) rfl p
  generalize (start p).run (make (.proper r), w) = started at opened failed works
  have quiet := opened.along
  cases opened with
  | absent missing =>
      obtain ⟨adapter, along⟩ := failed rfl
      exact balanced_of_free idle (holding_of_kept along.handle)
        (along.toGrows.mono fun _ => .inl) adapter rest
  | refused present answer =>
      obtain ⟨adapter, along⟩ := failed rfl
      have step := SharedEnvironment.turn_step has .acquire
      refine balanced_of_free idle
        ((holding_of_kept along.handle).trans (step.acquire_fails rfl answer)) ?_ adapter rest
      exact .trans ((SharedEnvironment.along_acquire w).toGrows.mono fun _ => .inr)
        (along.toGrows.mono fun _ => .inl)
  | @holds env reply s present answer environment acquired along =>
      have holds : Holds r w env t :=
        ⟨answer, works.environment.trans environment, works.acquired.trans acquired,
          along.trans works.along, quiet.toGrows.trans (works.along.toGrows.mono fun e plain => by
            rintro rfl
            cases plain)⟩
      exact holds.balanced has rest

theorem writes_onSecond {α : Type} {x : Action Workspace α}
    (hx : Within (Along Kept r fun e => e.isPlain = true) x) :
    Within (Writes r) (onSecond x : Action (GurobiAdapter × Workspace) α) :=
  fun s => ⟨rfl, hx s.2⟩

theorem plain_logShowing (values : List Value) (channel : Channel) (level : Level)
    (message : String) :
    Within (Along Kept r fun e => e.isPlain = true) (logShowing values channel level message) :=
  SharedEnvironment.along_logShowing _ _ _ _ rfl

theorem plain_giveUp (status : Status) (backend : Value) (diagnostics : List Diagnostic) :
    Within (Along Kept r fun e => e.isPlain = true)
      (Dispatch.giveUp status backend diagnostics) :=
  within_bind (plain_logShowing _ _ _ _) fun _ => within_pure _

theorem plain_giveUpAfter (e : Failure) (backend : Value) :
    Within (Along Kept r fun e => e.isPlain = true) (Dispatch.giveUpAfter e backend) :=
  within_ite (plain_giveUp _ _ _)
    (within_bind (plain_logShowing _ _ _ _) fun _ => plain_giveUp _ _ _)

theorem plain_conclude (outcome : Outcome) (backend : Value) :
    Within (Along Kept r fun e => e.isPlain = true) (Dispatch.conclude outcome backend) := by
  refine within_ite ?_ (within_bind (within_check _) fun _ => plain_giveUp _ _ _)
  cases outcome.solution.status.word with
  | ok word => exact within_bind (plain_logShowing _ _ _ _) fun _ => within_pure _
  | error e => exact within_pure _

theorem works_handOver (parts : List Part) :
    Within (Works r) (Dispatch.handOver (A := GurobiAdapter) parts) := by
  induction parts with
  | nil => exact within_pure ()
  | cons part rest ih => exact within_bind (works_give part) fun _ => ih

/-- What a drive does with an adapter once it was started. -/
theorem run_works (problem : Problem) (parameters : Given Parameters) (backend : Value)
    (s : GurobiAdapter × Workspace) :
    Works r ((start parameters).run s).2
      ((Dispatch.run (A := GurobiAdapter) problem parameters backend).run s).2 := by
  refine within_after (fun _ => ?_) s
  refine within_bind works_version fun version => within_bind (works_logShowing _ _ _ _) fun _ => ?_
  refine within_bind (works_handOver _) fun _ => ?_
  refine within_bind (within_bind works_solve fun _ => within_pure _) fun answer => ?_
  refine within_bind (within_ofExcept _) fun status => within_ite (within_pure _) ?_
  refine within_bind works_values fun raw => within_bind (within_ofExcept _) fun values => ?_
  refine within_ite (within_pure _) ?_
  refine within_bind works_objectiveValue fun raw => ?_
  exact within_bind (within_ofExcept _) fun _ => within_pure _

theorem closeQuietly_writes (backend : Value) (t : GurobiAdapter × Workspace) :
    Writes r (close.run t).2 ((Dispatch.closeQuietly (A := GurobiAdapter) backend).run t).2 := by
  refine within_after (x := (Adapter.close (A := GurobiAdapter)).attempt) (fun closed => ?_) t
  cases closed with
  | ok => exact within_pure _
  | error e => exact writes_onSecond (plain_logShowing _ _ _ _)

/-- Whatever a drive comes to, it starts the adapter and closes it at the end. -/
theorem attempt_driven (problem : Problem) (parameters : Given Parameters) (backend : Value)
    (s : GurobiAdapter × Workspace) :
    Driven r ((start parameters).run s)
      ((Dispatch.attempt (A := GurobiAdapter) problem parameters backend).run s).2.2 := by
  have works := run_works (r := r) problem parameters backend s
  have failed : ((start parameters).run s).1.isOk = false →
      ((Dispatch.run (A := GurobiAdapter) problem parameters backend).run s).1.isOk = false ∧
        ((Dispatch.run (A := GurobiAdapter) problem parameters backend).run s).2 =
          ((start parameters).run s).2 := by
    intro error
    unfold Dispatch.run
    rw [run_bind, show (Adapter.start parameters).run s = (start parameters).run s from rfl]
    cases ran : (start parameters).run s with
    | mk reply t =>
        rw [ran] at error
        cases reply with
        | ok => cases error
        | error e => exact ⟨rfl, rfl⟩
  unfold Dispatch.attempt
  rw [run_bind, run_attempt]
  generalize (Dispatch.run (A := GurobiAdapter) problem parameters backend).run s = ended
    at works failed ⊢
  obtain ⟨reply, t⟩ := ended
  cases reply with
  | error e =>
      have told : Writes r t (t.1, ((Dispatch.giveUpAfter e backend).run t.2).2) :=
        ⟨rfl, plain_giveUpAfter e backend t.2⟩
      refine ⟨_, fun error => ?_, Trans.trans works told.works, ?_⟩
      · rw [← (failed error).2]
        exact told
      · dsimp only
        rw [run_bind, run_liftM, Dispatch.run_giveUpAfter]
        dsimp only
        have closed := closeQuietly_writes (r := r) backend
          (t.1, ((Dispatch.giveUpAfter e backend).run t.2).2)
        exact closed.along.trans (within_after (fun _ => within_pure _) _ : Writes r _ _).along
  | ok outcome =>
      refine ⟨t, fun error => ?_, works, ?_⟩
      · cases (failed error).1
      · have closed := closeQuietly_writes (r := r) backend t
        have concluded : Within (Writes r) (onSecond (Dispatch.conclude outcome backend) :
            Action (GurobiAdapter × Workspace) Outcome) :=
          writes_onSecond (plain_conclude _ _)
        exact closed.along.trans (within_after (fun _ => concluded) t).along

/-- Seen as a backend, the adapter is closed as it is, and what follows may change nothing. -/
theorem close_bind_run {α : Type} {f : Unit → Action (Backend × Workspace) α}
    (still : ∀ u s, ((f u).run s).2 = s) (t : GurobiAdapter × Workspace) :
    (((Adapter.close (A := Backend)) >>= f).run (Adapter.carry Backend.gurobi t)).2.2 =
      (close.run t).2.2 := by
  rw [run_bind, ← Backend.carries_gurobi.close t]
  show _ = ((Adapter.close (A := GurobiAdapter)).run t).2.2
  cases (Adapter.close (A := GurobiAdapter)).run t with
  | mk reply u =>
      cases reply with
      | ok => exact congrArg Prod.snd (still () _)
      | error e => rfl

/-- So does the question whether the backend is available. -/
theorem probe_driven (name : Value) (s : GurobiAdapter × Workspace) :
    Driven r ((start (.proper .default)).run s)
      ((Registry.probe name).run (Adapter.carry Backend.gurobi s)).2.2 := by
  unfold Registry.probe
  rw [run_bind, run_attempt, ← Backend.carries_gurobi.start (.proper .default) s]
  show Driven r ((Adapter.start (.proper .default)).run s) _
  cases (Adapter.start (A := GurobiAdapter) (.proper .default)).run s with
  | mk reply t =>
      cases reply with
      | ok =>
          refine ⟨t, nofun, Std.Refl.refl _, ?_⟩
          dsimp only
          rw [close_bind_run fun _ _ => rfl]
          exact Std.Refl.refl _
      | error e =>
          dsimp only
          split
          · have along := plain_logShowing (r := r) [name] .registry .debug ("Backend '" ++
              name.shown ++ "' unavailable: " ++ e.message) t.2
            obtain ⟨w₁, logged, -⟩ := logShowing_run [name] .registry .debug ("Backend '" ++
              name.shown ++ "' unavailable: " ++ e.message) t.2
            rw [logged] at along
            have told : Writes r t (t.1, w₁) := ⟨rfl, along⟩
            refine ⟨_, fun _ => told, told.works, ?_⟩
            rw [run_bind, run_liftM, show (Adapter.carry Backend.gurobi t).2 = t.2 from rfl, logged]
            show Along Kept r _ _ ((Adapter.close (A := Backend) >>= fun _ => pure false).run
              (Adapter.carry Backend.gurobi (t.1, w₁))).2.2
            rw [close_bind_run fun _ _ => rfl]
            exact Std.Refl.refl _
          · refine ⟨t, fun _ => Std.Refl.refl _, Std.Refl.refl _, ?_⟩
            rw [close_bind_run fun _ _ => rfl]
            exact Std.Refl.refl _

end GurobiAdapter

/-! ## Solves -/

section

variable {r : Ref SharedEnvironment} {backend : Value} {w : Workspace}

theorem catalog_gurobi
    (registered : Registry.lookup backend w = .ok (some (.gurobi (.proper r)))) :
    Registry.catalog.lookup backend w = .ok (some (pure (.gurobi (.make (.proper r))))) := by
  unfold Registry.catalog
  rw [Registry.lookup_catalogBy, registered]
  rfl

/-- A problem that is not clear of defects is only complained of. -/
theorem Dispatch.solve_writes {p : Ref Program} (parameters : Given Parameters)
    (unclear : (w.models.problem p).inspect ≠ .ok []) :
    Along Kept r (fun e => e.isPlain = true) w
      ((Dispatch.solve Registry.catalog (.proper p) backend parameters).run w).2 := by
  have read : (liftM (Action.gets fun w => w.models.problem p : Action Workspace Problem) :
    Action Workspace Problem).run w = (.ok (w.models.problem p), w) := rfl
  unfold solve solveVia
  dsimp only
  rw [run_bind, read]
  dsimp only
  unfold solveWith prepare
  rw [run_bind, run_bind, run_ofExcept]
  cases found : (w.models.problem p).inspect with
  | error e => exact Std.Refl.refl w
  | ok defects =>
      cases defects with
      | nil => exact absurd found unclear
      | cons d ds =>
          have told := GurobiAdapter.plain_giveUp (r := r) .invalidProblem backend
            ((d :: ds).map fun d => ⟨.invalidProblem, d.message⟩) w
          have gave := run_giveUp .invalidProblem backend
            ((d :: ds).map fun d => ⟨.invalidProblem, d.message⟩) w
          generalize ran : (giveUp .invalidProblem backend
            ((d :: ds).map fun d => ⟨.invalidProblem, d.message⟩)).run w = given at told gave
          obtain ⟨reply, w'⟩ := given
          cases gave
          dsimp only
          rw [run_bind, show (liftM (giveUp .invalidProblem backend _) : Action Workspace Outcome) =
            giveUp .invalidProblem backend _ from rfl, ran]
          exact told

/-- A dispatch to Gurobi writes to the log, or drives a new adapter. -/
theorem Dispatch.solve_balanced
    (registered : Registry.lookup backend w = .ok (some (.gurobi (.proper r))))
    (has : w.Has r)
    (idle : (w.environments.get r).holders = 0 → (w.environments.get r).environment = none)
    (program : Given (Ref Program)) (parameters : Given Parameters) :
    Balanced r w ((Dispatch.solve Registry.catalog program backend parameters).run w).2 := by
  have written : ∀ {w'}, Along Kept r (fun e => e.isPlain = true) w w' → Balanced r w w' :=
    fun along => GurobiAdapter.balanced_of_unchanged idle
      (GurobiAdapter.holding_of_kept along.handle) (along.toGrows.mono fun _ => .inl)
  cases program with
  | other f => exact written (GurobiAdapter.plain_giveUp _ _ _ w)
  | proper p =>
      by_cases clear : (w.models.problem p).inspect = .ok []
      · have takes : refuses (w.models.problem p) (Backend.gurobi (.make (.proper r))) =
            .ok false := by
          unfold refuses
          split <;> rfl
        have driven := GurobiAdapter.attempt_driven (r := r) (w.models.problem p) parameters
          backend (.make (.proper r), w)
        have same := Dispatch.attempt_follows Backend.carries_gurobi (w.models.problem p)
          parameters backend (.make (.proper r), w)
        rw [solve_run_of_made parameters clear (catalog_gurobi registered) rfl takes,
          run_withFirst, show (Backend.gurobi (.make (.proper r)), w) =
            Adapter.carry Backend.gurobi (.make (.proper r), w) from rfl, ← same]
        exact GurobiAdapter.balanced_of_driven has idle driven
      · exact written (solve_writes parameters clear)

/-- Asking whether Gurobi is available starts an adapter and closes it. -/
theorem Registry.isAvailable_balanced
    (registered : Registry.lookup backend w = .ok (some (.gurobi (.proper r))))
    (has : w.Has r)
    (idle : (w.environments.get r).holders = 0 → (w.environments.get r).environment = none) :
    Balanced r w ((Registry.isAvailable backend).run w).2 := by
  have made : (Registry.create backend).run w = (.ok (.gurobi (.make (.proper r))), w) := by
    unfold Registry.create
    rw [Catalog.create_run, catalog_gurobi registered]
    rfl
  have driven := GurobiAdapter.probe_driven (r := r) backend (.make (.proper r), w)
  unfold Registry.isAvailable Registry.isAvailableFrom Registry.askWith
  rw [run_bind, run_attempt, show catalog.create backend = create backend from rfl, made]
  exact GurobiAdapter.balanced_of_driven has idle driven

/-- After a solve with Gurobi the handle has what it had before, whatever failed and whether the
solve returned or not, unless the model could not be disposed of. The same is true when it was
asked whether Gurobi is available. -/
theorem Solver.environment_balanced {s : Solver × Workspace}
    (registered : Registry.lookup backend s.2 = .ok (some (.gurobi (.proper r))))
    (has : s.2.Has r)
    (idle : (s.2.environments.get r).isOpen = true → 0 < (s.2.environments.get r).holders)
    (program : Given (Ref Program)) (parameters : Option (Given Parameters)) :
    Balanced r s.2 ((Solver.solve program backend parameters).run s).2.2 ∧
      Balanced r s.2 ((Registry.isAvailable backend).run s.2).2 := by
  have idle' : (s.2.environments.get r).holders = 0 →
      (s.2.environments.get r).environment = none := fun nobody => by
    rw [← Option.not_isSome_iff_eq_none]
    intro live
    exact Nat.lt_irrefl 0 (nobody ▸ idle live)
  refine ⟨?_, Registry.isAvailable_balanced registered has idle'⟩
  unfold Solver.solve Solver.solveFrom
  rw [Solver.keep_run]
  exact Dispatch.solve_balanced registered has idle' program _

end

namespace Sample

/-- A workspace with Gurobi as its one backend, where the next problem is infeasible and no model
can be disposed of. -/
def jammed : Workspace :=
  let w := registered (.gurobi (.proper gurobiEnvironment))
  { w with
    gurobi := { w.gurobi with statuses := [.ofInt 3] }
    faults := fun _ call => match call with
      | .gurobi .disposeModel => some (.foreign .gurobi "stuck")
      | _ => none }

end Sample

namespace Solver

/-- The solve returns, and the environment that it obtained is still there, held by nobody and
counted as held. -/
theorem solve_keeps_environment :
    let s : Solver × Workspace := (new none, Sample.jammed)
    let run := (solve Sample.program Sample.backend none).run s
    run.1 = .ok false ∧ (s.2.environments.get gurobiEnvironment).holders = 0 ∧
      (run.2.2.environments.get gurobiEnvironment).holders = 1 ∧
      (run.2.2.environments.get gurobiEnvironment).isOpen = true ∧
      (s.2.obtained run.2.2).length = 1 ∧ (s.2.disposals run.2.2).length = 0 := by
  intro s run
  have returns : run.1 = .ok false := by decide +kernel
  have held : (run.2.2.environments.get gurobiEnvironment).holders = 1 := by decide +kernel
  have there : (run.2.2.environments.get gurobiEnvironment).isOpen = true := by decide +kernel
  have obtained : (s.2.obtained run.2.2).length = 1 := by decide +kernel
  have kept : (s.2.disposals run.2.2).length = 0 := by decide +kernel
  exact ⟨returns, rfl, held, there, obtained, kept⟩

theorem environment_balanced_jammed :
    let s : Solver × Workspace := (new none, Sample.jammed)
    Balanced gurobiEnvironment s.2 ((solve Sample.program Sample.backend none).run s).2.2 ∧
      Balanced gurobiEnvironment s.2 ((Registry.isAvailable Sample.backend).run s.2).2 :=
  environment_balanced (s := (new none, Sample.jammed)) (Sample.lookup_registered _)
    Nat.zero_lt_one nofun Sample.program none

end Solver

end LinearDispatch
