import LinearDispatch.Adapter.Gurobi
import LinearDispatch.Proofs.EnvironmentTurns

/-!
# The Gurobi adapter and its environment

Two calls of the adapter touch its handle. Starting it acquires the environment, after the module
was found and before a model is created; closing it releases the environment, after the model was
disposed of. `Opened` and `Closed` list how these calls end, with what has become of the adapter and
of the workspace: failures may come before, between and after.

Everything else that the adapter does is `Works`: it changes nothing about who holds what, and no
environment and no model begins or ends.
-/

namespace LinearDispatch

open LinearDispatch.Action Workspace

open SharedEnvironment (Along Kept after turn)

/-- Nothing that has to do with an environment, or with a model as a whole. -/
def Event.isPlain : Event → Bool
  | .environmentCreated _ | .environmentDisposed .. => false
  | .native (.gurobi (.createEnvironment _)) | .native (.gurobi (.disposeEnvironment _)) => false
  | .native (.gurobi (.createModel _)) | .native (.gurobi .disposeModel) => false
  | _ => true

/-- The environment that a model is to be created on. -/
def Event.modelOn? : Event → Option (Option Environment)
  | .native (.gurobi (.createModel env)) => some env
  | _ => none

theorem Event.disposes?_of_isPlain {e : Event} (h : e.isPlain = true) : e.disposes? = none := by
  unfold disposes?
  split
  · cases h
  · cases h
  · rfl

theorem Event.modelOn?_of_isPlain {e : Event} (h : e.isPlain = true) : e.modelOn? = none := by
  unfold modelOn?
  split
  · cases h
  · rfl

theorem Event.modelOn?_of_isAsking {e : Event} (h : e.isAsking = true) : e.modelOn? = none := by
  unfold modelOn?
  split
  · cases h
  · rfl

theorem Event.modelOn?_of_isEnding {e : Event} (h : e.isEnding = true) : e.modelOn? = none := by
  unfold modelOn?
  split
  · cases h
  · rfl

namespace GurobiAdapter

variable {r : Ref SharedEnvironment}

/-! ## Work with the model -/

/-- The adapter may have worked with its model in between; what it holds is the same. -/
structure Works (r : Ref SharedEnvironment) (s t : GurobiAdapter × Workspace) : Prop where
  environment : t.1.environment = s.1.environment
  acquired : t.1.acquired = s.1.acquired
  along : Along Kept r (fun e => e.isPlain = true) s.2 t.2

instance : Std.Refl (Works r) where
  refl _ := ⟨rfl, rfl, Std.Refl.refl _⟩

instance : Trans (Works r) (Works r) (Works r) where
  trans h h' := ⟨h'.environment.trans h.environment, h'.acquired.trans h.acquired,
    Trans.trans h.along h'.along⟩

theorem works_onSecond {α : Type} {x : Action Workspace α}
    (hx : Within (Along Kept r fun e => e.isPlain = true) x) :
    Within (Works r) (onSecond x : Action (GurobiAdapter × Workspace) α) :=
  fun s => ⟨rfl, rfl, hx s.2⟩

theorem works_call {c : NativeCall} (plain : (Event.native c).isPlain = true) :
    Within (Works r) (onSecond (call c) : Action (GurobiAdapter × Workspace) Unit) :=
  works_onSecond (SharedEnvironment.along_call plain)

theorem works_log (channel : Channel) (level : Level) (message : String) :
    Within (Works r) (onSecond (log channel level message) :
      Action (GurobiAdapter × Workspace) Unit) :=
  works_onSecond (SharedEnvironment.along_log _ _ _ rfl)

theorem works_logShowing (values : List Value) (channel : Channel) (level : Level)
    (message : String) :
    Within (Works r) (onSecond (logShowing values channel level message) :
      Action (GurobiAdapter × Workspace) Unit) :=
  works_onSecond (SharedEnvironment.along_logShowing _ _ _ _ rfl)

theorem works_remember {f : GurobiAdapter → GurobiAdapter}
    (environment : ∀ a, (f a).environment = a.environment)
    (acquired : ∀ a, (f a).acquired = a.acquired) : Within (Works r) (Adapter.remember f) :=
  fun s => ⟨environment s.1, acquired s.1, Std.Refl.refl _⟩

theorem works_requireModel (part : String) : Within (Works r) (requireModel part) := by
  refine within_bind (within_gets _) fun model => ?_
  cases model with
  | none => exact within_fail _
  | some m => exact within_pure m

theorem works_requireLibrary : Within (Works r) requireLibrary := by
  refine within_bind (within_gets _) fun library => ?_
  cases library with
  | none => exact within_fail _
  | some library => exact within_pure library

theorem works_constant (name : String) : Within (Works r) (constant name) :=
  within_bind works_requireLibrary fun _ => within_check _

theorem works_code (name : String) : Within (Works r) (code name) :=
  within_bind (works_constant _) fun _ => within_bind works_requireLibrary fun _ => within_pure _

theorem works_readInfinity : Within (Works r) readInfinity :=
  within_bind (works_constant _) fun _ => within_bind works_requireLibrary fun _ => within_pure _

theorem works_setParameter (name : Key) (value : Value) :
    Within (Works r) (setParameter name value) :=
  works_call rfl

theorem works_setOptional (name : String) (value : Option Scalar) :
    Within (Works r) (setOptional name value) := by
  cases value with
  | none => exact within_pure ()
  | some value => exact works_setParameter _ _

theorem works_apply (p : Parameters) : Within (Works r) (apply p) := by
  refine within_bind (works_setParameter _ _) fun _ => ?_
  refine within_bind (works_setOptional _ _) fun _ => ?_
  refine within_bind (works_setOptional _ _) fun _ => ?_
  exact within_bind (within_forEach (fun _ => works_setParameter _ _) _) fun _ => within_pure _

theorem works_mapSide (side : Value) : Within (Works r) (mapSide side) := by
  refine within_bind (within_ofExcept _) fun s => within_bind (within_ofExcept _) fun infinite => ?_
  exact within_ite (within_bind works_readInfinity fun _ => within_pure _) (within_pure _)

theorem works_giveColumn (kind : VariableKind) (lower upper name : Value) :
    Within (Works r) (giveColumn kind lower upper name) := by
  refine within_bind (works_constant _) fun _ => within_bind (works_constant _) fun _ => ?_
  refine within_bind (works_constant _) fun _ => within_bind (works_requireModel _) fun model => ?_
  refine within_bind (works_mapSide _) fun lower => within_bind (works_mapSide _) fun upper => ?_
  refine within_bind (works_call rfl) fun _ => within_bind (within_gets _) fun values => ?_
  exact works_remember (fun _ => rfl) fun _ => rfl

theorem works_terms (coefficients : Coefficients) : Within (Works r) (terms coefficients) := by
  refine within_bind (within_ofExcept _) fun lookups => within_bind works_requireLibrary fun _ => ?_
  refine within_bind (within_ofExcept _) fun values => within_bind (within_gets _) fun columns => ?_
  exact within_bind (within_ofExcept _) fun places => within_pure _

theorem works_giveSide (expression : List (Nat × Value)) (sense : GurobiSense) (senseName : String)
    (side name : Value) : Within (Works r) (giveSide expression sense senseName side name) :=
  within_bind (works_requireModel _) fun _ => within_bind (works_constant _) fun _ => works_call rfl

theorem works_giveRow (coefficients : Coefficients) (lower upper name : Value) :
    Within (Works r) (giveRow coefficients lower upper name) := by
  refine within_bind (works_terms _) fun expression => within_ite (works_giveSide _ _ _ _ _) ?_
  refine within_bind (within_ofExcept _) fun lowerOpen => ?_
  refine within_bind (within_ofExcept _) fun upperOpen => ?_
  refine within_ite (works_logShowing _ _ _ _) (within_ite (works_giveSide _ _ _ _ _) ?_)
  refine within_ite (works_giveSide _ _ _ _ _) ?_
  exact within_bind (works_requireModel _) fun _ => works_call rfl

theorem works_give (part : Part) : Within (Works r) (give part) := by
  cases part with
  | column kind lower upper name => exact works_giveColumn kind lower upper name
  | row coefficients lower upper name => exact works_giveRow coefficients lower upper name
  | objective coefficients =>
      refine within_bind (works_requireModel _) fun _ => within_bind (works_terms _) fun _ => ?_
      exact within_bind (works_constant _) fun _ => works_call rfl

theorem works_optimize :
    Within (Along Kept r fun e => e.isPlain = true) GurobiService.optimize := by
  refine within_bind (SharedEnvironment.along_call rfl) fun _ => within_bind (within_gets _) ?_
  intro service
  refine within_bind (within_modify fun w => ?_) fun _ => within_pure _
  exact .of_environments ⟨⟨[], by simp⟩, rfl, rfl, Nat.le_refl _⟩ rfl

theorem works_meaning (status : Value) (meanings : List (String × Status)) :
    Within (Works r) (meaning status meanings) := by
  induction meanings with
  | nil => exact within_pure none
  | cons first rest ih =>
      exact within_bind (works_code _) fun _ => within_ite (within_pure _) ih

theorem works_classify (count : Except Failure Value) (status : Value) :
    Within (Works r) (classify count status) := by
  refine within_bind (works_meaning _ _) fun meant => ?_
  cases meant with
  | some meant => exact within_pure meant
  | none =>
      refine within_bind works_requireLibrary fun _ => within_bind (within_check _) fun _ => ?_
      refine within_ite ?_ (within_pure _)
      exact within_bind (within_ofExcept _) fun _ => within_pure _

theorem works_runOnce : Within (Works r) runOnce := by
  refine within_bind (works_onSecond works_optimize) fun run => ?_
  exact within_bind (works_remember (fun _ => rfl) fun _ => rfl) fun _ => within_pure _

theorem works_solve : Within (Works r) solve := by
  refine within_bind (works_requireModel _) fun _ => within_bind (works_call rfl) fun _ => ?_
  refine within_bind works_runOnce fun first => within_bind (works_code _) fun _ => ?_
  have classified (last : Value) : Within (Works r) (requireModel "SolCount" >>= fun model =>
      classify model.reading.solutionCount last) :=
    within_bind (works_requireModel _) fun model => works_classify _ last
  refine within_ite ?_ (classified first)
  refine within_bind (works_log _ _ _) fun _ => within_bind (works_setParameter _ _) fun _ => ?_
  exact within_bind works_runOnce classified

theorem works_version : Within (Works r) (Adapter.version (A := GurobiAdapter)) := by
  refine within_bind (within_gets _) fun a => ?_
  cases a.model with
  | none => exact within_pure _
  | some model =>
      exact within_bind (within_gets _) fun _ => within_bind (within_ofExcept _) fun _ =>
        within_pure _

theorem works_objectiveValue : Within (Works r) (Adapter.objectiveValue (A := GurobiAdapter)) :=
  within_bind (works_requireModel _) fun _ => within_ofExcept _

theorem works_values : Within (Works r) (Adapter.values (A := GurobiAdapter)) := by
  refine within_bind (within_gets _) fun a => ?_
  cases a.model with
  | none => exact within_pure _
  | some model => exact within_bind (within_ofExcept _) fun _ => within_pure _

theorem shared_run {s : GurobiAdapter × Workspace} (held : s.1.environment = .proper r)
    (part : String) : (shared part).run s = (.ok r, s) := by
  unfold shared
  rw [run_bind]
  show (ofExcept (s.1.environment.require part) : Action (GurobiAdapter × Workspace) _).run _ = _
  rw [held]
  rfl

/-! ## Starting -/

/-- How a start ends. The adapter holds the environment from the moment it was acquired, whatever
fails after that. -/
inductive Opened (r : Ref SharedEnvironment) (a : GurobiAdapter) (w : Workspace) :
    Except Failure Unit × GurobiAdapter × Workspace → Prop
  | absent {e : Failure} (missing : w.gurobi.present = false) : Opened r a w (.error e, a, w)
  | refused {e : Failure} (present : w.gurobi.present = true)
      (answer : (turn r .acquire w).answer = .error e) :
      Opened r a w (.error e, a, after r .acquire w)
  | holds {env : Option Environment} {reply : Except Failure Unit} {t : GurobiAdapter × Workspace}
      (present : w.gurobi.present = true) (answer : (turn r .acquire w).answer = .ok env)
      (environment : t.1.environment = a.environment) (acquired : t.1.acquired = true)
      (along : Along Kept r (fun e => e.isPlain = true)
        ((after r .acquire w).afterCall (.gurobi (.createModel env))) t.2) :
      Opened r a w (reply, t)

/-- What is in the journal after the environment was acquired and a model created on it. -/
theorem written_of_holds {w w' : Workspace} {env : Option Environment}
    (along : Along Kept r (fun e => e.isPlain = true)
      ((after r .acquire w).afterCall (.gurobi (.createModel env))) w') :
    ∃ asked worked, w.written w' = asked ++ .native (.gurobi (.createModel env)) :: worked ∧
      (∀ e ∈ asked, e.isAsking = true) ∧ ∀ e ∈ worked, e.isPlain = true := by
  have asking : w.Grows _ (after r .acquire w) :=
    (SharedEnvironment.along_acquire (r := r) w).toGrows
  have created : (after r .acquire w).Grows (fun _ => True)
      ((after r .acquire w).afterCall (.gurobi (.createModel env))) := grows_afterCall trivial _
  refine ⟨_, _, ?_, asking.forall_written, along.forall_written⟩
  rw [asking.written_trans (created.trans (along.toGrows.mono fun _ _ => trivial)),
    created.written_trans along.toGrows, show (after r .acquire w).written
    ((after r .acquire w).afterCall (.gurobi (.createModel env))) =
      [.native (.gurobi (.createModel env))] from written_of_append rfl]
  rfl

theorem disposals_of_holds {w w' : Workspace} {env : Option Environment}
    (along : Along Kept r (fun e => e.isPlain = true)
      ((after r .acquire w).afterCall (.gurobi (.createModel env))) w') :
    w.disposals w' = [] := by
  obtain ⟨asked, worked, written, asking, plain⟩ := written_of_holds along
  rw [disposals, written, List.filterMap_append, List.filterMap_cons]
  rw [List.filterMap_eq_nil_iff.2 fun e he => Event.disposes?_of_isAsking (asking e he),
    List.filterMap_eq_nil_iff.2 fun e he => Event.disposes?_of_isPlain (plain e he)]
  rfl

theorem models_of_holds {w w' : Workspace} {env : Option Environment}
    (along : Along Kept r (fun e => e.isPlain = true)
      ((after r .acquire w).afterCall (.gurobi (.createModel env))) w') :
    (w.written w').filterMap Event.modelOn? = [env] := by
  obtain ⟨asked, worked, written, asking, plain⟩ := written_of_holds along
  rw [written, List.filterMap_append, List.filterMap_cons]
  rw [List.filterMap_eq_nil_iff.2 fun e he => Event.modelOn?_of_isAsking (asking e he),
    List.filterMap_eq_nil_iff.2 fun e he => Event.modelOn?_of_isPlain (plain e he)]
  rfl

theorem holding_of_kept {w w' : Workspace}
    (kept : (w.environments.get r).Kept (w'.environments.get r)) :
    SharedEnvironment.holding r w' = SharedEnvironment.holding r w := by
  rw [SharedEnvironment.holding, kept.environment, kept.holders]
  rfl

/-- A start disposes of no model. -/
theorem Opened.along {a : GurobiAdapter} {w : Workspace}
    {result : Except Failure Unit × GurobiAdapter × Workspace} (opened : Opened r a w result) :
    Along SharedEnvironment.Lasts r (fun e => e ≠ .native (.gurobi .disposeModel)) w
      result.2.2 := by
  have asked : Along SharedEnvironment.Lasts r (fun e => e ≠ .native (.gurobi .disposeModel)) w
      (after r .acquire w) :=
    (SharedEnvironment.along_acquire w).mono fun e asking => by
      rintro rfl
      cases asking
  cases opened with
  | absent missing => exact Std.Refl.refl _
  | refused present answer => exact asked
  | @holds env reply t present answer environment acquired along =>
      have created := SharedEnvironment.along_afterCall (K := SharedEnvironment.Lasts) (r := r)
        (P := fun e => e ≠ .native (.gurobi .disposeModel))
        (c := .gurobi (.createModel env)) (by simp) (after r .acquire w)
      refine (asked.trans created).trans ?_
      exact along.lasts.mono fun e plain => by
        rintro rfl
        cases plain

/-- After the call that creates a model there is only work. -/
theorem works_createModel_bind {α : Type} {f : Unit → Action (GurobiAdapter × Workspace) α}
    (hf : ∀ u, Within (Works r) (f u)) (env : Option Environment)
    (s : GurobiAdapter × Workspace) :
    Works r (s.1, s.2.afterCall (.gurobi (.createModel env)))
      ((createModel env >>= f).run s).2 := by
  have rest : Within (Works r) (do
      let reading ← (Action.gets fun s => s.2.gurobi.reading :
        Action (GurobiAdapter × Workspace) _)
      Adapter.remember fun a => { a with model := some ⟨0, reading⟩, columns := [] }
      f ()) :=
    within_bind (within_gets _) fun g =>
      within_bind (works_remember (fun _ => rfl) fun _ => rfl) fun _ => hf ()
  unfold createModel
  rw [bind_assoc, run_bind, run_liftM, run_call]
  cases s.2.faults s.2.nativeCalls (.gurobi (.createModel env)) with
  | none => exact rest (s.1, s.2.afterCall (.gurobi (.createModel env)))
  | some e => exact Std.Refl.refl _

theorem start_opened {a : GurobiAdapter} {w : Workspace} (held : a.environment = .proper r)
    (p : Given Parameters) : Opened r a w ((start p).run (a, w)) := by
  unfold start
  rw [run_bind, run_liftM, locate_run]
  cases present : w.gurobi.present with
  | false => exact .absent present
  | true =>
      rw [if_pos rfl]
      dsimp only
      rw [run_bind, shared_run (by exact held)]
      dsimp only
      rw [run_bind, run_liftM]
      cases answer : ((SharedEnvironment.acquire r).run w).1 with
      | error e => exact .refused present answer
      | ok env =>
          dsimp only
          have works := works_createModel_bind (r := r)
            (f := fun _ => ofExcept (p.require "verbose") >>= apply)
            (fun _ => within_bind (within_ofExcept _) works_apply) env
            ({ a with acquired := true, library := some w.gurobi.library }, after r .acquire w)
          exact .holds present answer works.environment works.acquired works.along

/-! ## Closing -/

/-- The workspace after the model was disposed of, if there was one. -/
def unloaded (a : GurobiAdapter) (w : Workspace) : Workspace :=
  if a.model.isSome then w.afterCall (.gurobi .disposeModel) else w

/-- How a close ends. If the model cannot be disposed of, the adapter keeps it, and the environment
with it. -/
inductive Closed (r : Ref SharedEnvironment) (a : GurobiAdapter) (w : Workspace) :
    Except Failure Unit × GurobiAdapter × Workspace → Prop
  | stuck {e : Failure} (model : a.model.isSome = true)
      (fault : w.faults w.nativeCalls (.gurobi .disposeModel) = some e) :
      Closed r a w (.error e, a, w.afterCall (.gurobi .disposeModel))
  | idle (free : a.model.isSome = true → w.faults w.nativeCalls (.gurobi .disposeModel) = none)
      (acquired : a.acquired = false) :
      Closed r a w (.ok (), { a with model := none, columns := [] }, a.unloaded w)
  | releases {reply : Except Failure Unit}
      (free : a.model.isSome = true → w.faults w.nativeCalls (.gurobi .disposeModel) = none)
      (acquired : a.acquired = true)
      (answer : (turn r .release (a.unloaded w)).answer = reply.map fun _ => none) :
      Closed r a w (reply, { a with model := none, columns := [], acquired := false },
        after r .release (a.unloaded w))

/-- The second half of a close, after the model. -/
theorem release_closed {a : GurobiAdapter} {w : Workspace} (held : a.environment = .proper r)
    (free : a.model.isSome = true → w.faults w.nativeCalls (.gurobi .disposeModel) = none) :
    Closed r a w ((do
      Adapter.remember fun a => { a with columns := [] }
      if a.acquired then
        Adapter.remember fun a => { a with acquired := false }
        let r ← shared "release"
        SharedEnvironment.release r : Action (GurobiAdapter × Workspace) Unit).run
      ({ a with model := none }, a.unloaded w)) := by
  rw [run_bind]
  dsimp only [Adapter.remember, run_modify]
  by_cases acquired : a.acquired = true
  · have released := SharedEnvironment.run_then_none (SharedEnvironment.release r)
      (w := a.unloaded w)
    have left : after r .release (a.unloaded w) =
        ((SharedEnvironment.release r).run (a.unloaded w)).2 := congrArg Prod.snd released
    rw [if_pos acquired, run_bind]
    dsimp only [run_modify]
    rw [run_bind, shared_run (by exact held)]
    dsimp only
    rw [run_liftM, ← left]
    exact .releases free acquired (congrArg Prod.fst released)
  · rw [if_neg acquired]
    exact .idle free (eq_false_of_ne_true acquired)

theorem close_closed {a : GurobiAdapter} {w : Workspace} (held : a.environment = .proper r) :
    Closed r a w (close.run (a, w)) := by
  unfold close
  rw [run_bind]
  dsimp only [Adapter.look, run_gets, id]
  by_cases model : a.model.isSome = true
  · rw [if_pos model]
    cases fault : w.faults w.nativeCalls (.gurobi .disposeModel) with
    | some e =>
        rw [run_bind, run_liftM, run_call, fault]
        exact .stuck model fault
    | none =>
        have closed := release_closed held fun _ => fault
        rw [unloaded, if_pos model] at closed
        rw [run_bind, run_liftM, run_call, fault]
        exact closed
  · have closed := release_closed (w := w) held fun some => absurd some model
    have none : { a with model := none } = a := by
      rw [← Option.not_isSome_iff_eq_none.1 model]
    rw [unloaded, if_neg model, none] at closed
    rw [if_neg model]
    exact closed

theorem along_unloaded {P : Event → Prop} (may : P (.native (.gurobi .disposeModel)))
    (a : GurobiAdapter) (w : Workspace) : Along Kept r P w (a.unloaded w) := by
  unfold unloaded
  split
  · exact SharedEnvironment.along_afterCall may w
  · exact Std.Refl.refl _

theorem Closed.along {a : GurobiAdapter} {w : Workspace}
    {result : Except Failure Unit × GurobiAdapter × Workspace} (closed : Closed r a w result) :
    Along SharedEnvironment.Lasts r (fun _ => True) w result.2.2 := by
  cases closed with
  | stuck model fault => exact SharedEnvironment.along_afterCall trivial w
  | idle free acquired => exact (along_unloaded (P := fun _ => True) trivial a w).lasts
  | releases free acquired answer =>
      exact (along_unloaded (P := fun _ => True) trivial a w).lasts.trans
        ((SharedEnvironment.perform_along .release _).mono fun _ _ => trivial)

end GurobiAdapter

end LinearDispatch
