import LinearDispatch.Model.Building
import LinearDispatch.Proofs.Conversation

/-!
# The course of a solve

A solve goes through four stages: the check of the program, the making of an adapter, the question
whether the adapter takes columns of whole values, and the conversation with it. `Course` lists
the ways through them, each with the calls made on that way and with what the solve comes to.
The lists of calls are complete: what a way does not mention was not called. What a solve comes to
is kept by the solver before the caller is answered, `Outcome.answer`, which can still fail.

`Solver.solve_course` is the inversion lemma for everything about a whole solve: a theorem about
the calls, the outcome or the failures of a solve is a case analysis over the ways.
-/

namespace LinearDispatch

/-- `problem` is what the program stands for in the store, and nothing is wrong with it. -/
structure Sound (models : Store) (program : Given (Ref Program)) (problem : Problem) : Prop where
  reads : ∃ p, program = .proper p ∧ models.problem p = problem
  check : Model.defectMessages models program = .ok []

/-- The program is sound, and `r` comes of making the adapter that the catalog has for it. -/
structure Made {A : Type} (catalog : Catalog Workspace A) (program : Given (Ref Program))
    (backend : Value) (w : Workspace) (problem : Problem) (r : Except Failure A) : Prop where
  sound : Sound w.models program problem
  maker : ∃ make, catalog.lookup backend w = .ok (some make) ∧ (make.run w).1 = r

/-- The adapter made for the program takes its problem: it takes columns of whole values, if there
are any. -/
structure Accepted {A : Type} [Adapter A] (catalog : Catalog Workspace A)
    (program : Given (Ref Program)) (backend : Value) (w : Workspace) (problem : Problem)
    (adapter : A) : Prop where
  made : Made catalog program backend w problem (.ok adapter)
  takes : problem.hasInteger = true → Adapter.supportsInteger adapter = .ok true

/-! There is one such problem and one such result. -/

theorem Sound.unique {models : Store} {program : Given (Ref Program)} {problem problem' : Problem}
    (h : Sound models program problem) (h' : Sound models program problem') :
    problem = problem' := by
  obtain ⟨p, rfl, rfl⟩ := h.reads
  obtain ⟨_, hp, rfl⟩ := h'.reads
  cases hp
  rfl

section

variable {A : Type} {catalog : Catalog Workspace A} {program : Given (Ref Program)}
  {backend : Value} {w : Workspace}

theorem Made.unique {problem problem' : Problem} {r r' : Except Failure A}
    (h : Made catalog program backend w problem r)
    (h' : Made catalog program backend w problem' r') : problem = problem' ∧ r = r' := by
  refine ⟨h.sound.unique h'.sound, ?_⟩
  obtain ⟨make, present, rfl⟩ := h.maker
  obtain ⟨make', present', rfl⟩ := h'.maker
  cases present.symm.trans present'
  rfl

theorem Made.present {problem : Problem} {r : Except Failure A}
    (h : Made catalog program backend w problem r) :
    ∃ make, catalog.lookup backend w = .ok (some make) := by
  obtain ⟨make, present, -⟩ := h.maker
  exact ⟨make, present⟩

theorem Catalog.lookup_of_written {σ : Type} (catalog : Catalog σ A)
    (written : backend.isWritable = true) (w : Workspace) :
    catalog.lookup backend w = .ok (catalog backend w) :=
  if_pos written

theorem Catalog.lookup_of_unwritten {σ : Type} (catalog : Catalog σ A)
    (unwritten : backend.isWritable = false) (w : Workspace) :
    catalog.lookup backend w = .error .notWritable :=
  if_neg (by rw [unwritten]; nofun)

/-- The one thing that can be wrong with a name is that it cannot be written. -/
theorem Catalog.lookup_eq_error {σ : Type} {catalog : Catalog σ A} {e : Failure}
    (h : catalog.lookup backend w = .error e) : e = .notWritable := by
  unfold lookup Value.whenWritable at h
  split at h
  · cases h
  · cases h
    rfl

end

/-- The ways of a solve from a workspace: the calls that are made, and the outcome, or the failure
that is let through. -/
inductive Course {A : Type} [Adapter A] (catalog : Catalog Workspace A)
    (program : Given (Ref Program)) (parameters : Given Parameters) (backend : Value)
    (w : Workspace) : List Entry → Except Failure Outcome → Prop
  /-- the check stumbles over something that is no row -/
  | unchecked {e : Failure} (check : Model.defectMessages w.models program = .error e) :
      Course catalog program parameters backend w [] (.error e)
  /-- the check finds something -/
  | invalid {messages : List String}
      (check : Model.defectMessages w.models program = .ok messages) (found : messages ≠ []) :
      Course catalog program parameters backend w []
        (.ok ⟨.without .invalidProblem backend, messages.map fun m => ⟨.invalidProblem, .text m⟩⟩)
  /-- the name of the backend cannot be written -/
  | unnamed {problem : Problem} (sound : Sound w.models program problem)
      (unwritten : catalog.lookup backend w = .error .notWritable) :
      Course catalog program parameters backend w [] (.error .notWritable)
  /-- there is no such backend -/
  | unknown {problem : Problem} (sound : Sound w.models program problem)
      (absent : catalog.lookup backend w = .ok none) :
      Course catalog program parameters backend w []
        (.ok ⟨.without .backendUnavailable backend,
          [⟨.backendUnavailable, (Failure.notRegistered backend.shown).message⟩]⟩)
  /-- the maker finds that the backend cannot be reached -/
  | unavailable {problem : Problem} {e : Failure}
      (made : Made catalog program backend w problem (.error e))
      (caught : e.isUnavailable = true) :
      Course catalog program parameters backend w [.create (.error e)]
        (.ok ⟨.without .backendUnavailable backend, [⟨.backendUnavailable, e.message⟩]⟩)
  /-- the maker fails in another way -/
  | unmade {problem : Problem} {e : Failure}
      (made : Made catalog program backend w problem (.error e))
      (missed : e.isUnavailable = false) :
      Course catalog program parameters backend w [.create (.error e)] (.error e)
  /-- the adapter does not know whether it takes columns of whole values -/
  | unasked {problem : Problem} {adapter : A} {e : Failure}
      (made : Made catalog program backend w problem (.ok adapter))
      (whole : problem.hasInteger = true) (asked : Adapter.supportsInteger adapter = .error e) :
      Course catalog program parameters backend w [.create (.ok ())] (.error e)
  /-- the adapter does not take columns of whole values -/
  | refused {problem : Problem} {adapter : A}
      (made : Made catalog program backend w problem (.ok adapter))
      (whole : problem.hasInteger = true) (lacks : Adapter.supportsInteger adapter = .ok false) :
      Course catalog program parameters backend w [.create (.ok ())]
        (.ok ⟨.without .invalidProblem backend, [Dispatch.refusal problem backend]⟩)
  /-- the adapter is driven and closed -/
  | driven {problem : Problem} {adapter : A} {w' : Workspace} {talk : List Entry}
      {ended : Except Failure Outcome} {closed : Except Failure Unit} {r : Except Failure Outcome}
      (accepted : Accepted catalog program backend w problem adapter)
      (made : (catalog.create backend).run w = (.ok adapter, w'))
      (drive : ((Dispatch.run problem parameters backend).run (adapter, w')).1 = ended)
      (conversation : Conversation problem parameters backend talk ended)
      (told : Dispatch.verdict backend ended = r) :
      Course catalog program parameters backend w
        (.create (.ok ()) :: (talk ++ [.close closed])) r

namespace Dispatch

open LinearDispatch.Action

variable {A : Type} [Adapter A]

theorem defectMessages_proper (models : Store) (p : Ref Program) :
    Model.defectMessages models (.proper p) =
      (models.problem p).inspect.map (List.map Defect.message) := by
  unfold Model.defectMessages
  dsimp only
  cases (models.problem p).inspect <;> rfl

theorem refuses_cases (problem : Problem) (adapter : A) :
    (∃ e, refuses problem adapter = .error e ∧ problem.hasInteger = true ∧
        Adapter.supportsInteger adapter = .error e) ∨
      (refuses problem adapter = .ok true ∧ problem.hasInteger = true ∧
        Adapter.supportsInteger adapter = .ok false) ∨
      (refuses problem adapter = .ok false ∧
        (problem.hasInteger = true → Adapter.supportsInteger adapter = .ok true)) := by
  unfold refuses
  split
  · next whole =>
      cases Adapter.supportsInteger adapter with
      | error e => exact .inl ⟨e, rfl, whole, rfl⟩
      | ok supports =>
          cases supports with
          | false => exact .inr (.inl ⟨rfl, whole, rfl⟩)
          | true => exact .inr (.inr ⟨rfl, fun _ => rfl⟩)
  · next none => exact .inr (.inr ⟨rfl, fun whole => absurd whole none⟩)

theorem drive_run (parameters : Given Parameters) (backend : Value) (problem : Problem)
    (adapter : A) (made : List Entry) (w : Workspace) :
    ∃ talk ended closed w',
      (Watched.drive parameters backend problem adapter).run (made, w) =
        (verdict backend ended, made ++ (talk ++ [.close closed]), w') ∧
      ((run problem parameters backend).run (adapter, w)).1 = ended ∧
      Conversation problem parameters backend talk ended ∧
      talk.head? = some (.start parameters ((Adapter.start parameters).run (adapter, w)).1) := by
  obtain ⟨talk, ended, closed, hl, hr, drive, conversation, starts⟩ :=
    attempt_converses problem parameters backend (⟨adapter, made⟩, w)
  exact ⟨talk, ended, closed, _, Prod.ext hr (Prod.ext hl rfl), drive, conversation, starts⟩

/-- A program is read when its solve begins. -/
theorem solveWatched_proper (catalog : Catalog Workspace A) (p : Ref Program) (backend : Value)
    (parameters : Given Parameters) (w : Workspace) :
    (solveWatched catalog (.proper p) backend parameters).run ([], w) =
      (solveWith ((Watched.catalog catalog).create backend)
        (Watched.drive parameters backend (w.models.problem p)) (w.models.problem p) backend).run
          ([], w) := by
  unfold solveWatched solveVia
  dsimp only
  rw [run_bind, run_liftM, run_gets]

/-- A sound problem whose adapter takes it is what the adapter that comes of the maker is driven
through. -/
theorem solveWith_accepted {catalog : Catalog Workspace A} {parameters : Given Parameters}
    {backend : Value} {w w₁ : Workspace} {problem : Problem} {make : Action Workspace A}
    {adapter : A} (present : catalog.lookup backend w = .ok (some make))
    (clear : problem.inspect = .ok [])
    (ran : make.run w = (.ok adapter, w₁)) (takes : refuses problem adapter = .ok false) :
    (solveWith ((Watched.catalog catalog).create backend)
      (Watched.drive parameters backend problem) problem backend).run ([], w) =
      (Watched.drive parameters backend problem adapter).run ([.create (.ok ())], w₁) := by
  unfold solveWith prepare
  simp only [run_bind, run_ofExcept, run_attempt, clear, Watched.create_run, present,
    Watched.make_run, ran, takes, Bool.false_eq_true, if_false, run_pure, Except.map,
    List.nil_append]

/-- What a solve does with the maker of an adapter for a sound problem. -/
theorem made_course {catalog : Catalog Workspace A} {program : Given (Ref Program)}
    {parameters : Given Parameters} {backend : Value} {w : Workspace} {problem : Problem}
    {make : Action Workspace A} (sound : Sound w.models program problem)
    (present : catalog.lookup backend w = .ok (some make)) (clear : problem.inspect = .ok []) :
    Course catalog program parameters backend w
      ((solveWith ((Watched.catalog catalog).create backend)
        (Watched.drive parameters backend problem) problem backend).run ([], w)).2.1
      ((solveWith ((Watched.catalog catalog).create backend)
        (Watched.drive parameters backend problem) problem backend).run ([], w)).1 := by
  cases ran : make.run w with
  | mk new w₁ =>
      cases new with
      | error e =>
          have made : Made catalog program backend w problem (.error e) :=
            ⟨sound, make, present, congrArg Prod.fst ran⟩
          unfold solveWith prepare
          simp only [run_bind, run_ofExcept, run_attempt, clear, Watched.create_run, present,
            Watched.make_run, ran]
          cases caught : e.isUnavailable with
          | true =>
              have handled := run_giveUpAfter e backend w₁
              rw [afterFailure, if_pos caught] at handled
              simp only [if_true, run_bind, run_liftM, handled]
              exact .unavailable made caught
          | false => exact .unmade made caught
      | ok adapter =>
          have made : Made catalog program backend w problem (.ok adapter) :=
            ⟨sound, make, present, congrArg Prod.fst ran⟩
          rcases refuses_cases problem adapter with
            ⟨e, refuses, whole, asked⟩ | ⟨refuses, whole, lacks⟩ | ⟨refuses, takes⟩
          · unfold solveWith prepare
            simp only [run_bind, run_ofExcept, run_attempt, clear, Watched.create_run, present,
              Watched.make_run, ran, refuses]
            exact .unasked made whole asked
          · unfold solveWith prepare
            simp only [run_bind, run_ofExcept, run_attempt, clear, Watched.create_run, present,
              Watched.make_run, ran, refuses, if_true, run_liftM, run_giveUp, run_pure]
            exact .refused made whole lacks
          · obtain ⟨talk, ended, closed, w', driven, drive, conversation, -⟩ :=
              drive_run parameters backend problem adapter [.create (.ok ())] w₁
            have created : (catalog.create backend).run w = (.ok adapter, w₁) := by
              rw [Catalog.create_run, present]
              exact ran
            rw [solveWith_accepted present clear ran refuses, driven]
            exact .driven ⟨made, takes⟩ created drive conversation rfl

/-- Every solve takes one of the courses. -/
theorem solve_course (catalog : Catalog Workspace A) (program : Given (Ref Program))
    (parameters : Given Parameters) (backend : Value) (w : Workspace) :
    Course catalog program parameters backend w
      ((solveWatched catalog program backend parameters).run ([], w)).2.1
      ((solveWatched catalog program backend parameters).run ([], w)).1 := by
  cases program with
  | other f =>
      have check : Model.defectMessages w.models (.other f) =
          .ok [(Defect.notAProblem f.typeText).message] := rfl
      have course : Course catalog (.other f) parameters backend w [] _ :=
        .invalid check (List.cons_ne_nil _ _)
      unfold solveWatched solveVia
      dsimp only
      rw [run_liftM, run_giveUp]
      exact course
  | proper p =>
      have check := defectMessages_proper w.models p
      rw [solveWatched_proper]
      cases found : (w.models.problem p).inspect with
      | error e =>
          rw [found] at check
          unfold solveWith prepare
          simp only [run_bind, run_ofExcept, found]
          exact .unchecked check
      | ok defects =>
          rw [found] at check
          cases defects with
          | cons defect rest =>
              have course : Course catalog (.proper p) parameters backend w [] _ :=
                .invalid check (List.cons_ne_nil _ _)
              rw [List.map_map] at course
              unfold solveWith prepare
              simp only [run_bind, run_ofExcept, found, run_liftM, run_giveUp]
              exact course
          | nil =>
              have sound : Sound w.models (.proper p) (w.models.problem p) :=
                ⟨⟨p, rfl, rfl⟩, check⟩
              cases present : catalog.lookup backend w with
              | error e =>
                  cases Catalog.lookup_eq_error present
                  unfold solveWith prepare
                  simp only [run_bind, run_ofExcept, run_attempt, found, Watched.create_run,
                    present]
                  exact .unnamed sound present
              | ok listed =>
                  cases listed with
                  | none =>
                      have caught : (Failure.notRegistered backend.shown).isUnavailable = true :=
                        rfl
                      have handled := run_giveUpAfter (.notRegistered backend.shown) backend w
                      rw [afterFailure, if_pos caught] at handled
                      unfold solveWith prepare
                      simp only [run_bind, run_ofExcept, run_attempt, found, Watched.create_run,
                        present, caught, if_true, run_liftM, handled, run_pure]
                      exact .unknown sound present
                  | some make => exact made_course sound present found

end Dispatch

namespace Solver

open LinearDispatch.Action

variable {A : Type} [Adapter A]

/-- The solver after a solve that came to `r`. -/
def after (solver : Solver) (backend : Value) : Except Failure Outcome → Solver
  | .ok outcome =>
    { solver with solution := outcome.solution, diagnostics := outcome.diagnostics }
  | .error _ => { solver with solution := .without .notSolved backend, diagnostics := [] }

theorem keep_run {τ : Type} (backend : Value) (parameters : Option (Given Parameters))
    (dispatch : Given Parameters → Action τ Outcome) (s : Solver × τ) :
    (keep backend parameters dispatch).run s =
      (((dispatch (s.1.parameters.replacedBy parameters)).run s.2).1.bind Outcome.answer,
        s.1.after backend ((dispatch (s.1.parameters.replacedBy parameters)).run s.2).1,
        ((dispatch (s.1.parameters.replacedBy parameters)).run s.2).2) := by
  unfold keep
  simp only [run_bind, run_modify, run_gets, run_liftM]
  cases (dispatch (s.1.parameters.replacedBy parameters)).run s.2 with
  | mk r t => cases r <;> rfl

/-- A solve of a solver is a solve with the parameters of the call, or else those of the solver.
Its calls are those of that solve, and the solver answers and keeps what that solve came to. -/
theorem solve_watched (catalog : Catalog Workspace A) (program : Given (Ref Program))
    (backend : Value) (parameters : Option (Given Parameters)) (s : Solver × Workspace) :
    ∃ t, (Dispatch.solveWatched catalog program backend (s.1.parameters.replacedBy parameters)).run
        ([], s.2) = t ∧ ledger catalog program backend parameters s = t.2.1 ∧
      ((solveFrom catalog program backend parameters).run s).1 = t.1.bind Outcome.answer ∧
      ((solveFrom catalog program backend parameters).run s).2.1 = s.1.after backend t.1 := by
  have kept := keep_run backend parameters (Dispatch.solve catalog program backend) s
  have watched := keep_run backend parameters (Dispatch.solveWatched catalog program backend)
    (s.1, [], s.2)
  have follows := congrArg Prod.fst (Dispatch.solveWatched_follows catalog program backend
    (s.1.parameters.replacedBy parameters) ([], s.2))
  refine ⟨_, rfl, ?_, (congrArg Prod.fst kept).trans ?_, (congrArg (fun r => r.2.1) kept).trans ?_⟩
  · unfold ledger solveWatched
    rw [watched]
  · exact congrArg (Except.bind · Outcome.answer) follows.symm
  · exact congrArg (after s.1 backend) follows.symm

/-- A solve of a solver takes one of the courses. -/
theorem solve_course (catalog : Catalog Workspace A) (program : Given (Ref Program))
    (backend : Value) (parameters : Option (Given Parameters)) (s : Solver × Workspace) :
    ∃ r, Course catalog program (s.1.parameters.replacedBy parameters) backend s.2
        (ledger catalog program backend parameters s) r ∧
      ((solveFrom catalog program backend parameters).run s).1 = r.bind Outcome.answer ∧
      ((solveFrom catalog program backend parameters).run s).2.1 = s.1.after backend r := by
  obtain ⟨_, rfl, entered, answer, left⟩ := solve_watched catalog program backend parameters s
  rw [entered]
  exact ⟨_, Dispatch.solve_course catalog program _ backend s.2, answer, left⟩

/-- A solve that returns took a course with an outcome, which is what the solver has kept. -/
theorem course_of_returns {catalog : Catalog Workspace A} {program : Given (Ref Program)}
    {backend : Value} {parameters : Option (Given Parameters)} {s s' : Solver × Workspace}
    {success : Bool}
    (returns : (solveFrom catalog program backend parameters).run s = (.ok success, s')) :
    ∃ outcome, Course catalog program (s.1.parameters.replacedBy parameters) backend s.2
        (ledger catalog program backend parameters s) (.ok outcome) ∧
      s'.1.solution = outcome.solution ∧ s'.1.diagnostics = outcome.diagnostics ∧
      success = outcome.solution.success := by
  obtain ⟨r, course, answer, left⟩ := solve_course catalog program backend parameters s
  rw [returns] at answer left
  cases r with
  | error e => cases answer
  | ok outcome =>
      exact ⟨outcome, course, congrArg Solver.solution left, congrArg Solver.diagnostics left,
        Outcome.success_of_answer answer.symm⟩

/-- Solving once is a solve with the parameters of the call or the default ones. It answers the
solution, if a solver would answer at all. -/
theorem once_run (catalog : Catalog Workspace A) (program : Given (Ref Program))
    (backend : Value) (parameters : Option (Given Parameters)) (w : Workspace) :
    let ran := (Dispatch.solve catalog program backend
      ((Supplied.proper .default).replacedBy parameters)).run w
    (onceFrom catalog program backend parameters).run w =
      (ran.1.bind fun outcome => outcome.answer.map fun _ => outcome.solution, ran.2) := by
  intro ran
  have kept : (solveFrom catalog program backend none).run (new parameters, w) =
      (ran.1.bind Outcome.answer, (new parameters).after backend ran.1, ran.2) :=
    keep_run backend none (Dispatch.solve catalog program backend) (new parameters, w)
  unfold onceFrom
  rw [run_withFirst, run_bind, kept]
  cases ran with
  | mk r t =>
      cases r with
      | error e => rfl
      | ok outcome =>
          dsimp only [Except.bind]
          cases outcome.answer <;> rfl

end Solver

end LinearDispatch
