import LinearDispatch.Proofs.NativeCalls
import LinearDispatch.Proofs.Returns

/-!
# An OR-Tools adapter is started

Starting an adapter creates a native solver and hands it the parameters. With native calls that do
not fail there are still ways in which this ends early: the build does not have the solver, what
was given as parameters is something else, the time limit has no whole number of milliseconds, or an
option cannot be written. `start_run` says that there is no other way.

The settings come one after another, and some are left out. Each has a condition under which it
returns, and none of them touches the solver, its columns, what is in the model, or the answers in
store; the rules of `Returns` put them together.
-/

namespace LinearDispatch

open LinearDispatch.Action Workspace

namespace OrToolsAdapter

variable {α : Type}

/-- Everything a setting keeps: the solver and its columns, the model so far, and the answers that
the service has in store. -/
structure Kept (s s' : OrToolsAdapter × Workspace) : Prop where
  solverId : s'.1.solverId = s.1.solverId
  solver : s'.1.solver = s.1.solver
  columns : s'.1.columns = s.1.columns
  service : s'.2.orTools =
    { s.2.orTools with parameterAnswers := s'.2.orTools.parameterAnswers }
  calls : s.2.Extends (·.prepares = true) s'.2

theorem Kept.refl (s : OrToolsAdapter × Workspace) : Kept s s :=
  ⟨rfl, rfl, rfl, rfl, .refl _ _⟩

theorem Kept.trans {s s' s'' : OrToolsAdapter × Workspace} (h : Kept s s') (h' : Kept s' s'') :
    Kept s s'' := by
  refine ⟨h'.solverId.trans h.solverId, h'.solver.trans h.solver, h'.columns.trans h.columns,
    h'.service.trans ?_, h.calls.trans h'.calls⟩
  rw [h.service]

theorem Kept.version {s s' : OrToolsAdapter × Workspace} (h : Kept s s') :
    s'.2.orTools.version = s.2.orTools.version := by
  rw [h.service]

/-- Settings are made with calls that do not fail. -/
def settings : Frame (OrToolsAdapter × Workspace) where
  Here s := Quiet .orTools s.2
  Same := Kept
  refl := .refl
  trans := Kept.trans
  stays kept quiet := quiet.of_extends kept.calls

variable {c : Prop}

theorem Kept.of_noted {w w' : Workspace} (a : OrToolsAdapter) (noted : w.Noted w') :
    Kept (a, w) (a, w') :=
  ⟨rfl, rfl, rfl, by rw [noted.orTools_eq], noted.extends_ _⟩

theorem returns_log (level : Level) (message : String) :
    Returns settings True (liftM (log .orTools level message)) :=
  fun s _ => ⟨iff_of_true rfl trivial, .of_noted s.1 (noted_log _ _ _ s.2)⟩

theorem returns_logShowing (values : List Value) (level : Level) (message : String) :
    Returns settings True (liftM (logShowing values .orTools level message)) := by
  rintro ⟨a, w⟩ -
  obtain ⟨w', logged, noted⟩ := logShowing_run values .orTools level message w
  have ran : (liftM (logShowing values .orTools level message) :
      Action (OrToolsAdapter × Workspace) Unit).run (a, w) = (.ok (), a, w') := by
    rw [run_liftM, logged]
  exact returnsFrom_of_run ran (.of_noted a noted)

theorem Kept.of_call {c : OrToolsCall} (prepares : (NativeCall.orTools c).prepares = true)
    (a : OrToolsAdapter) (w : Workspace) : Kept (a, w) (a, w.afterCall (.orTools c)) := by
  have extends_ := makes_call (P := (·.prepares = true)) prepares w
  rw [run_call] at extends_
  exact ⟨rfl, rfl, rfl, rfl, extends_⟩

theorem returns_call {c : OrToolsCall} (prepares : (NativeCall.orTools c).prepares = true) :
    Returns settings True (liftM (Workspace.call (.orTools c))) :=
  fun ⟨a, w⟩ quiet => returnsFrom_of_run (quiet.run_call c a) (Kept.of_call prepares a w)

theorem returns_setThreads (n : Scalar) :
    Returns settings True (liftM (OrToolsService.setThreads n) :
      Action (OrToolsAdapter × Workspace) Bool) := by
  rintro ⟨a, w⟩ quiet
  have ran : (liftM (OrToolsService.setThreads n) : Action (OrToolsAdapter × Workspace) Bool).run
      (a, w) = (.ok w.orTools.acceptsThreads, a, w.afterCall (.orTools (.setThreads n))) := by
    unfold OrToolsService.setThreads
    rw [run_liftM, run_bind, run_call, quiet]
    rfl
  exact returnsFrom_of_run ran (Kept.of_call rfl a w)

theorem setParameterText_run (text : String) {w : Workspace} (quiet : Quiet .orTools w) :
    (OrToolsService.setParameterText text).run w =
      (.ok (w.orTools.parameterAnswers.headD true),
        { w.afterCall (.orTools (.setParameterText text)) with
          orTools := { w.orTools with
            parameterAnswers := w.orTools.parameterAnswers.tail } }) := by
  unfold OrToolsService.setParameterText
  rw [run_bind, run_call, quiet]
  rfl

theorem returns_setParameterText (text : String) :
    Returns settings True (liftM (OrToolsService.setParameterText text) :
      Action (OrToolsAdapter × Workspace) Bool) := by
  rintro ⟨a, w⟩ quiet
  have kept : Kept (a, w) (a, w.afterCall (.orTools (.setParameterText text))) :=
    Kept.of_call rfl a w
  have ran : (liftM (OrToolsService.setParameterText text) :
      Action (OrToolsAdapter × Workspace) Bool).run (a, w) = _ :=
    congrArg (fun r => (r.1, a, r.2)) (setParameterText_run text quiet)
  exact returnsFrom_of_run ran ⟨rfl, rfl, rfl, rfl, kept.calls.calls, rfl, rfl⟩

/-! ## The settings -/

theorem returns_limitTime (limit : Option Scalar) :
    Returns settings
      (∀ seconds, limit = some seconds → (milliseconds seconds).isOk = true) (limitTime limit) := by
  cases limit with
  | none => exact returns_congr (by simp) (returns_pure ())
  | some seconds =>
      unfold limitTime
      exact returns_congr (by simp) (returns_bind (returns_ofExcept (milliseconds seconds))
        fun whole => @returns_call (.setTimeLimit whole) rfl)

theorem returns_limitThreads (solverId : String) (limit : Option Scalar) :
    Returns settings True (limitThreads solverId limit) := by
  cases limit with
  | none => exact returns_pure ()
  | some n =>
      refine returns_then (returns_setThreads n) fun accepted => ?_
      cases accepted with
      | true => exact returns_pure ()
      | false =>
          rw [Bool.not_false, if_pos rfl]
          cases n.truncate with
          | ok whole => exact returns_logShowing _ _ _
          | error e => exact returns_pure ()

theorem returns_passOptions (solverId : String) (options : Mapping) :
    Returns settings (unwritableOption? options = none) (passOptions solverId options) := by
  unfold passOptions
  split
  · refine returns_congr (iff_of_eq (and_true _)) (returns_bind (returns_check _) fun _ => ?_)
    refine returns_then (returns_modify fun _ =>
      ⟨rfl, rfl, rfl, rfl, .refl _ _⟩) fun _ => ?_
    refine returns_then (returns_setParameterText _) fun accepted => ?_
    cases accepted with
    | true => exact returns_pure ()
    | false => exact returns_log _ _
  · next empty =>
      have nothing : unwritableOption? options = none := by
        have none : options.entries = [] := by simpa using empty
        rw [unwritableOption?, none, List.findSome?_nil]
      exact returns_congr (iff_of_true trivial nothing) (returns_pure ())

/-- What is asked of parameters: the time limit can be made a whole number of milliseconds, and the
options can be written. -/
def CanApply (p : Parameters) : Prop :=
  (∀ seconds, p.timeLimit = some seconds → (milliseconds seconds).isOk = true) ∧
    unwritableOption? p.options = none

theorem returns_apply (p : Parameters) : Returns settings (CanApply p) (apply p) := by
  unfold apply
  refine returns_then (returns_gets _) fun solverId => ?_
  refine returns_then (returns_call ?_) fun _ => ?_
  · cases p.verbose.isTrue <;> rfl
  refine returns_bind (returns_limitTime _) fun _ => ?_
  exact returns_then (returns_limitThreads _ _) fun _ => returns_passOptions _ _

/-- An adapter for a solver can be started with these parameters. -/
def CanStart (solverId : String) (service : OrToolsService) (p : Given Parameters) : Prop :=
  service.known.contains (Text.upper solverId) = true ∧
    ∃ q, p = .proper q ∧ CanApply q

/-- Nothing is solved while an adapter is started, whether that works or not. -/
theorem start_makes (p : Given Parameters) :
    Makes Prod.snd (fun c => c.solves = false) (Adapter.start (A := OrToolsAdapter) p) := by
  have sets : ∀ p : Parameters, Makes Prod.snd (fun c => c.solves = false) (apply p) := by
    intro p
    refine makes_bind (makes_look _) fun solverId => ?_
    refine makes_bind (makes_onSecond (makes_call ?_)) fun _ => ?_
    · cases p.verbose.isTrue <;> rfl
    refine makes_bind ?_ fun _ => makes_bind ?_ fun _ => makes_ite ?_ (makes_pure _)
    · cases p.timeLimit with
      | none => exact makes_pure ()
      | some seconds =>
          exact makes_bind (makes_ofExcept _) fun _ => makes_onSecond (makes_call rfl)
    · cases p.threads with
      | none => exact makes_pure ()
      | some threads =>
          refine makes_bind (makes_onSecond (makes_bind (makes_call rfl) fun _ => makes_gets _))
            fun accepted => makes_ite ?_ (makes_pure _)
          cases threads.truncate with
          | ok whole => exact makes_onSecond (makes_logShowing _ _ _ _)
          | error e => exact makes_pure ()
    · refine makes_bind (makes_check _) fun _ => makes_bind (makes_remember _) fun _ => ?_
      refine makes_bind (makes_onSecond ?_) fun accepted =>
        makes_ite (makes_onSecond (makes_log _ _ _)) (makes_pure _)
      exact makes_bind (makes_call rfl) fun _ => makes_bind (makes_gets _) fun _ =>
        makes_bind (makes_modify fun _ => .of_eq rfl rfl rfl) fun _ => makes_pure _
  show Makes Prod.snd (fun c => c.solves = false) (start p)
  refine makes_bind (makes_look _) fun solverId => ?_
  refine makes_bind (makes_onSecond (makes_bind (makes_call rfl) fun _ => makes_gets _))
    fun created => ?_
  refine makes_bind (makes_check _) fun _ => makes_bind (makes_remember _) fun _ => ?_
  exact makes_bind (makes_ofExcept _) sets

theorem createSolver_run (solverId : String) {w : Workspace} (quiet : Quiet .orTools w) :
    (OrToolsService.createSolver solverId).run w =
      (.ok (w.orTools.known.contains solverId),
        w.afterCall (.orTools (.createSolver solverId))) := by
  unfold OrToolsService.createSolver
  rw [run_bind, run_call, quiet]
  rfl

/-- Starting an adapter again is no different from starting it for the first time: there is a new
solver, and what comes after it was created are settings. -/
theorem start_spec (a : OrToolsAdapter) (p : Given Parameters) {w : Workspace}
    (quiet : Quiet .orTools w) :
    (((Adapter.start p).run (a, w)).1.isOk = true ↔
      w.orTools.known.contains a.solverId = true ∧
        ∃ q, p = .proper q ∧ CanApply q) ∧
      ∀ s, (Adapter.start p).run (a, w) = (.ok (), s) →
        Kept (⟨a.solverId, some ⟨0, none⟩, [], ""⟩,
          w.afterCall (.orTools (.createSolver a.solverId))) s := by
  show (((start p).run (a, w)).1.isOk = true ↔ _) ∧ ∀ s, (start p).run _ = _ → _
  unfold start
  rw [run_bind, show (Adapter.look (·.solverId)).run (a, w) = (.ok a.solverId, a, w) from rfl]
  dsimp only
  rw [run_bind, run_liftM, createSolver_run a.solverId quiet]
  cases w.orTools.known.contains a.solverId with
  | false => exact ⟨iff_of_false Bool.false_ne_true (by simp), fun s h => nomatch h⟩
  | true =>
      cases p with
      | other f => exact ⟨iff_of_false Bool.false_ne_true (by simp), fun s h => nomatch h⟩
      | proper q =>
          obtain ⟨returns, keeps⟩ := returns_apply q (⟨a.solverId, some ⟨0, none⟩, [], ""⟩,
            w.afterCall (.orTools (.createSolver a.solverId))) quiet
          refine ⟨returns.trans ⟨fun can => ⟨rfl, q, rfl, can⟩, ?_⟩, fun s ran => ?_⟩
          · rintro ⟨-, q', same, can⟩
            cases same
            exact can
          · have applied : (apply q).run (⟨a.solverId, some ⟨0, none⟩, [], ""⟩,
                w.afterCall (.orTools (.createSolver a.solverId))) = (.ok (), s) := ran
            rw [applied] at keeps
            exact keeps

/-- A new adapter can be started if there is the solver and the parameters can be applied. -/
theorem start_run (solverId : String) (p : Given Parameters) {w : Workspace}
    (quiet : Quiet .orTools w) :
    (((Adapter.start p).run (make solverId, w)).1.isOk = true ↔ CanStart solverId w.orTools p) ∧
      ∀ s, (Adapter.start p).run (make solverId, w) = (.ok (), s) →
        Kept (⟨Text.upper solverId, some ⟨0, none⟩, [], ""⟩,
          w.afterCall (.orTools (.createSolver (Text.upper solverId)))) s :=
  start_spec (make solverId) p quiet

end OrToolsAdapter

end LinearDispatch
