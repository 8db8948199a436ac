import LinearDispatch.Proofs.AskThenSolve
import LinearDispatch.Proofs.GurobiStart
import LinearDispatch.Proofs.NumberOverflow
import LinearDispatch.Proofs.OptionMerging
import LinearDispatch.Proofs.OrToolsStart
import LinearDispatch.Proofs.UnorderedBounds

/-!
# Time limits that pass the check

Parameters are checked when they are made: a time limit must not be below zero, and there must not
be fewer threads than one. What passes is then taken in three ways. OR-Tools wants whole
milliseconds, HiGHS a binary64 number of seconds, and Gurobi takes what it is given.

The check is one comparison, and neither infinity nor the number that is none is below zero, nor is
any integer too large. So there are limits that parameters can have and backends cannot be started
with, however willing their libraries are. `LimitFails` lists them, and `timeLimit_exact` says that
the list is complete: a start fails just where a limit on the list says so, or where OR-Tools would
be sent an option that cannot be written, and a solve with such a limit comes to a numerical
failure.
-/

namespace LinearDispatch

open LinearDispatch.Action Workspace

/-! ## What the check lets through -/

namespace Parameters

variable {timeLimit threads verbose : Value} {options : Option (List (Key × Value))}
  {p : Parameters} {s : Scalar}

theorem atLeast_of_make (made : make timeLimit threads verbose options = .ok p) :
    atLeast 0 .negativeTimeLimit timeLimit = .ok p.timeLimit :=
  (make_eq_ok.1 made).1

theorem timeLimit_eq_some (made : make timeLimit threads verbose options = .ok p) :
    p.timeLimit = some s ↔ timeLimit = .scalar s := by
  have kept := atLeast_of_make made
  cases timeLimit with
  | scalar s' =>
      rw [(atLeast_scalar_eq_ok kept).2, Option.some.injEq, Value.scalar.injEq]
  | none =>
      rw [← Except.ok.inj kept]
      exact iff_of_false (by rintro ⟨⟩) (by rintro ⟨⟩)
  | text | list | member => cases kept

/-- A time limit that passes the check is not below zero, if it is anywhere. -/
theorem point_nonneg (made : make (.scalar s) threads verbose options = .ok p) {x : EReal}
    (stands : s.point = some x) : 0 ≤ x := by
  by_contra negative
  have below : s.lt (.int 0) = true :=
    Scalar.lt_iff.2 ⟨x, 0, stands, Scalar.point_zero, not_le.1 negative⟩
  cases below.symm.trans (atLeast_scalar_eq_ok (atLeast_of_make made)).1

end Parameters

/-! ## What the conversions stumble over -/

theorem Number.truncate?_eq_none_iff {x : Float} :
    truncate? x = none ↔ x.isNaN = true ∨ x.isInf = true := by
  have undefined : x.isNaN = (unpack x).isNaN := rfl
  have infinite : x.isInf = (unpack x).isInf := rfl
  rw [undefined, infinite]
  unfold truncate?
  cases unpack x with
  | notANumber => exact iff_of_true rfl (.inl rfl)
  | infinity sign => exact iff_of_true rfl (.inr rfl)
  | zero sign => exact iff_of_false nofun (by rintro (⟨⟨⟩⟩ | ⟨⟨⟩⟩))
  | finite sign m e hm =>
      dsimp only
      split <;> exact iff_of_false nofun (by rintro (⟨⟨⟩⟩ | ⟨⟨⟩⟩))

theorem Number.isInf_of_isNaN {x : Float} (undefined : x.isNaN = true) : x.isInf = false := by
  have undefined : (unpack x).isNaN = true := undefined
  show (unpack x).isInf = false
  cases unpacked : unpack x with
  | notANumber => rfl
  | infinity | zero | finite =>
      rw [unpacked] at undefined
      cases undefined

theorem Scalar.truncate_real_eq_error {x : Float} {e : Failure} :
    (real x).truncate = .error e ↔
      x.isNaN = true ∧ e = .undefinedToInteger ∨ x.isInf = true ∧ e = .infiniteToInteger := by
  unfold truncate
  dsimp only
  cases whole : Number.truncate? x with
  | some n =>
      refine iff_of_false nofun fun fails => ?_
      cases whole.symm.trans (Number.truncate?_eq_none_iff.2 (fails.imp And.left And.left))
  | none =>
      have cause := Number.truncate?_eq_none_iff.1 whole
      cases undefined : x.isNaN with
      | true => simp [Number.isInf_of_isNaN undefined, eq_comm]
      | false =>
          rw [undefined] at cause
          simp [cause.resolve_left nofun, eq_comm]

theorem Scalar.toFloat_eq_error {s : Scalar} {e : Failure} :
    s.toFloat = .error e ↔
      ∃ n : ℤ, s = .int n ∧ Number.overflow ≤ n.natAbs ∧ e = .integerTooLarge := by
  unfold Scalar.toFloat Scalar.toFloat?
  cases s with
  | bool b => simp
  | real x => simp
  | int n =>
      dsimp only
      cases rounded : Number.ofInt? n with
      | none => simp [Number.ofInt?_eq_none_iff.1 rounded, eq_comm]
      | some x =>
          have fits : ¬Number.overflow ≤ n.natAbs := fun large => by
            cases rounded.symm.trans (Number.ofInt?_eq_none_iff.2 large)
          simp [fits]

example : (Scalar.int (2 ^ 1024 - 1)).toFloat = .error .integerTooLarge := by decide +kernel

/-- The time limits that a backend cannot be started with, and the failure of the start. -/
inductive LimitFails : Factory → Value → Failure → Prop
  /-- the number that is none has no whole milliseconds -/
  | undefined {solverId : String} {x : Float} (undefined : x.isNaN = true) :
      LimitFails (.orTools solverId) (.ofFloat x) .undefinedToInteger
  /-- a number whose thousandfold is past the binary64 numbers has none either -/
  | infinite {solverId : String} {x : Float} {p : EReal} (stands : Number.point x = some p)
      (large : ((Number.overflow / 1000 : ℝ) : EReal) ≤ p) :
      LimitFails (.orTools solverId) (.ofFloat x) .infiniteToInteger
  /-- an integer past the binary64 numbers is no binary64 number of seconds -/
  | tooLarge {n : ℤ} (large : (Number.overflow : ℤ) ≤ n) :
      LimitFails .highs (.ofInt n) .integerTooLarge

namespace LimitFails

variable {factory : Factory} {limit : Value} {s : Scalar} {e : Failure}

theorem scalar (h : LimitFails factory limit e) : ∃ s, limit = .scalar s := by
  cases h <;> exact ⟨_, rfl⟩

theorem reachable (h : LimitFails factory limit e) : e.isUnavailable = false := by
  cases h <;> rfl

/-- A time limit that passed the check fails where its conversion does. -/
theorem iff_of_make {timeLimit threads verbose : Value} {options : Option (List (Key × Value))}
    {p : Parameters} (made : Parameters.make timeLimit threads verbose options = .ok p)
    {fails : Scalar → Prop} (converts : ∀ s : Scalar, (∀ x, s.point = some x → 0 ≤ x) →
      (fails s ↔ LimitFails factory (.scalar s) e)) :
    (∃ s, p.timeLimit = some s ∧ fails s) ↔ LimitFails factory timeLimit e := by
  constructor
  · rintro ⟨s, limited, h⟩
    obtain rfl := (Parameters.timeLimit_eq_some made).1 limited
    exact (converts s fun _ => Parameters.point_nonneg made).1 h
  · intro h
    obtain ⟨s, rfl⟩ := h.scalar
    exact ⟨s, (Parameters.timeLimit_eq_some made).2 rfl,
      (converts s fun _ => Parameters.point_nonneg made).2 h⟩

theorem orTools_iff {solverId : String} (nonneg : ∀ x, s.point = some x → 0 ≤ x) :
    OrToolsAdapter.milliseconds s = .error e ↔ LimitFails (.orTools solverId) (.scalar s) e := by
  cases s with
  | bool b => exact ⟨nofun, nofun⟩
  | int n => exact ⟨nofun, nofun⟩
  | real x =>
      show (Scalar.real (x * 1000.0)).truncate = .error e ↔ _
      rw [Scalar.truncate_real_eq_error, Number.isNaN_mul_thousand]
      constructor
      · rintro (⟨undefined, rfl⟩ | ⟨infinite, rfl⟩)
        · exact .undefined undefined
        · have defined : x.isNaN = false := by
            by_contra undefined
            rw [Bool.not_eq_false, ← Number.isNaN_mul_thousand] at undefined
            cases infinite.symm.trans (Number.isInf_of_isNaN undefined)
          obtain ⟨p, stands⟩ := Number.exists_point defined
          exact .infinite stands ((Number.isInf_mul_thousand stands (nonneg p stands)).1 infinite)
      · rintro (undefined | ⟨stands, large⟩)
        · exact .inl ⟨undefined, rfl⟩
        · exact .inr ⟨(Number.isInf_mul_thousand stands (nonneg _ stands)).2 large, rfl⟩

theorem highs_iff (nonneg : ∀ x, s.point = some x → 0 ≤ x) :
    s.toFloat = .error e ↔ LimitFails .highs (.scalar s) e := by
  rw [Scalar.toFloat_eq_error]
  constructor
  · rintro ⟨n, rfl, large, rfl⟩
    have whole : (0 : ℝ) ≤ n := EReal.coe_nonneg.1 (nonneg _ rfl)
    rw [Int.cast_nonneg_iff] at whole
    exact .tooLarge (by omega)
  · rintro ⟨large⟩
    exact ⟨_, rfl, by omega, rfl⟩

end LimitFails

/-! ## The starts -/

theorem OrToolsAdapter.apply_of_no_milliseconds {p : Parameters} {s : Scalar} {e : Failure}
    (limited : p.timeLimit = some s) (fails : milliseconds s = .error e) (a : OrToolsAdapter)
    {w : Workspace} (quiet : Quiet .orTools w) : ((apply p).run (a, w)).1 = .error e := by
  unfold apply limitTime
  simp only [Adapter.look, run_bind, run_gets, quiet.run_call, limited, run_ofExcept, fails]

/-- If the settings before the options are made, an option that cannot be written is what the
settings end with. -/
theorem OrToolsAdapter.apply_of_unwritable {p : Parameters} {e : Failure}
    (whole : ∀ s, p.timeLimit = some s → (milliseconds s).isOk = true)
    (unwritable : unwritableOption? p.options = some e) (a : OrToolsAdapter) {w : Workspace}
    (quiet : Quiet .orTools w) : ((apply p).run (a, w)).1 = .error e := by
  have given : p.options.entries ≠ [] := by
    intro none
    rw [unwritableOption?, none] at unwritable
    cases unwritable
  have stops : ∀ t, ((passOptions a.solverId p.options).run t).1 = .error e := by
    intro t
    unfold passOptions
    rw [if_pos (by simpa using given), unwritable]
    rfl
  have switch : (NativeCall.orTools
      (if p.verbose.isTrue then .enableOutput else .suppressOutput)).prepares = true := by
    cases p.verbose.isTrue <;> rfl
  unfold apply
  rw [run_bind, show (Adapter.look (·.solverId)).run (a, w) = (.ok a.solverId, a, w) from rfl]
  dsimp only
  refine error_then (returns_call switch) (fun _ => error_then ?_ fun _ =>
    error_then (returns_limitThreads _ _) fun _ t _ => stops t) _ quiet
  exact returns_congr (iff_of_true whole trivial) (returns_limitTime _)

/-- With calls that do not fail and a solver that is there, only the time limit can keep an adapter
from being started, or else an option that cannot be written. -/
theorem OrToolsAdapter.start_eq_error (solverId : String) (p : Parameters) {w : Workspace}
    (quiet : Quiet .orTools w) (known : w.orTools.known.contains (Text.upper solverId) = true)
    {e : Failure} :
    ((Adapter.start (.proper p)).run (make solverId, w)).1 = .error e ↔
      (∃ s, p.timeLimit = some s ∧ milliseconds s = .error e) ∨
        (¬∃ e' s, p.timeLimit = some s ∧ milliseconds s = .error e') ∧
          unwritableOption? p.options = some e := by
  have applies : ((Adapter.start (.proper p)).run (make solverId, w)).1 =
      ((apply p).run (⟨Text.upper solverId, some ⟨0, none⟩, [], ""⟩,
        w.afterCall (.orTools (.createSolver (Text.upper solverId))))).1 := by
    show ((start (.proper p)).run (make solverId, w)).1 = _
    unfold start
    rw [run_bind, show (Adapter.look (·.solverId)).run (make solverId, w) =
      (.ok (Text.upper solverId), make solverId, w) from rfl]
    dsimp only
    rw [run_bind, run_liftM, createSolver_run _ quiet, known]
    rfl
  rw [applies]
  have quiet : Quiet .orTools
      (w.afterCall (.orTools (.createSolver (Text.upper solverId)))) := quiet
  by_cases limited : ∃ e' s, p.timeLimit = some s ∧ milliseconds s = .error e'
  · obtain ⟨e', s, given, fails⟩ := limited
    rw [apply_of_no_milliseconds given fails _ quiet]
    constructor
    · rintro ⟨⟩
      exact .inl ⟨s, given, fails⟩
    · rintro (⟨s', given', fails'⟩ | ⟨unlimited, -⟩)
      · cases given.symm.trans given'
        cases fails.symm.trans fails'
        rfl
      · exact absurd ⟨e', s, given, fails⟩ unlimited
  · have whole : ∀ s, p.timeLimit = some s → (milliseconds s).isOk = true := by
      intro s given
      cases converted : milliseconds s with
      | ok n => rfl
      | error e' => exact absurd ⟨e', s, given, converted⟩ limited
    have timely : ¬∃ s, p.timeLimit = some s ∧ milliseconds s = .error e :=
      fun ⟨s, fails⟩ => limited ⟨e, s, fails⟩
    rw [or_iff_right timely, and_iff_right limited]
    cases written : unwritableOption? p.options with
    | some e' =>
        rw [apply_of_unwritable whole written _ quiet, Except.error.injEq, Option.some.injEq]
    | none =>
        obtain ⟨returns, -⟩ := returns_apply p (⟨Text.upper solverId, some ⟨0, none⟩, [], ""⟩,
          w.afterCall (.orTools (.createSolver (Text.upper solverId)))) quiet
        obtain ⟨_, t, ran⟩ := exists_run_of_isOk (returns.2 ⟨whole, written⟩)
        rw [ran]
        exact iff_of_false nofun nofun

theorem HighsAdapter.ownOptions_eq_error {p : Parameters} {e : Failure} :
    ownOptions p = .error e ↔ ∃ s, p.timeLimit = some s ∧ s.toFloat = .error e := by
  unfold ownOptions
  cases p.timeLimit with
  | none => exact iff_of_false nofun (by simp)
  | some s =>
      show (do let x ← s.toFloat; pure _) = Except.error e ↔ _
      cases converted : s.toFloat with
      | ok x => exact iff_of_false nofun (by simp [converted])
      | error e' => simp [converted, bind, Except.bind]

/-- The start of a HiGHS adapter turns the time limit into a number of seconds; nothing else in it
can fail. -/
theorem HighsAdapter.start_eq_error (a : HighsAdapter) (p : Parameters) (w : Workspace)
    {e : Failure} :
    ((Adapter.start (.proper p)).run (a, w)).1 = .error e ↔
      ∃ s, p.timeLimit = some s ∧ s.toFloat = .error e := by
  rw [← ownOptions_eq_error]
  show ((start (.proper p)).run (a, w)).1 = .error e ↔ _
  unfold start
  simp only [run_bind, Adapter.remember, run_modify, Given.require, run_ofExcept]
  cases ownOptions p with
  | error e' =>
      constructor
      · rintro ⟨⟩
        rfl
      · rintro ⟨⟩
        rfl
  | ok options =>
      refine iff_of_false ?_ (by rintro ⟨⟩)
      cases p.threads.isSome <;> rintro ⟨⟩

namespace Factory

/-- Makes a backend and starts it. -/
def start (factory : Factory) (p : Given Parameters) : Action Workspace Unit := do
  let backend ← factory.make
  Action.withFirst backend (Adapter.start p)

/-- The library behind a factory is there and accepts every call. -/
def Willing (w : Workspace) : Factory → Prop
  | scripted _ => False
  | orTools solverId => Quiet .orTools w ∧ w.orTools.known.contains (Text.upper solverId) = true
  | highs => True
  | gurobi environment =>
    Quiet .gurobi w ∧ w.gurobi.present = true ∧
      ∃ r, environment.orElse (.proper gurobiEnvironment) = .proper r ∧
        ((w.environments.get r).isOpen = true ∨ (w.environments.get r).CanMake)

/-- What keeps a backend from being handed the options: OR-Tools has them written. -/
def unwritable? (options : Mapping) : Factory → Option Failure
  | orTools _ => OrToolsAdapter.unwritableOption? options
  | scripted _ | highs | gurobi _ => none

/-- Where the library is willing, a start with parameters that passed the check fails just where
the time limit does, or else where an option cannot be written. -/
theorem start_eq_error {timeLimit threads verbose : Value} {options : Option (List (Key × Value))}
    {p : Parameters} (made : Parameters.make timeLimit threads verbose options = .ok p)
    {factory : Factory} {w : Workspace} (willing : factory.Willing w) {e : Failure} :
    ((factory.start (.proper p)).run w).1 = .error e ↔
      LimitFails factory timeLimit e ∨
        (¬∃ e', LimitFails factory timeLimit e') ∧ factory.unwritable? p.options = some e := by
  cases factory with
  | scripted script => cases willing
  | orTools solverId =>
      obtain ⟨quiet, known⟩ := willing
      have converts (e : Failure) :
          (∃ s, p.timeLimit = some s ∧ OrToolsAdapter.milliseconds s = .error e) ↔
            LimitFails (.orTools solverId) timeLimit e :=
        LimitFails.iff_of_make made fun _ => LimitFails.orTools_iff
      show ((Adapter.start (.proper p)).run (OrToolsAdapter.make solverId, w)).1 = .error e ↔ _
      rw [OrToolsAdapter.start_eq_error solverId p quiet known]
      exact or_congr (converts e) (and_congr (not_congr (exists_congr converts)) Iff.rfl)
  | highs =>
      show ((Adapter.start (.proper p)).run (HighsAdapter.new, w)).1 = .error e ↔ _
      rw [HighsAdapter.start_eq_error, or_iff_left fun h => nomatch h.2]
      exact LimitFails.iff_of_make made fun _ => LimitFails.highs_iff
  | gurobi environment =>
      obtain ⟨quiet, present, held⟩ := willing
      have starts := (GurobiAdapter.start_run environment (.proper p) quiet).1.2
        ⟨present, held, p, rfl⟩
      refine iff_of_false (fun failed => ?_) fun h => h.elim nofun fun h => nomatch h.2
      have failed : ((Adapter.start (.proper p)).run (GurobiAdapter.make environment, w)).1 =
        .error e := failed
      rw [failed] at starts
      cases starts

end Factory

/-! ## The solves -/

namespace Solver

/-- Parameters can have time limits that a backend cannot be started with, and these are all there
are: where the library behind a backend is willing, a start with parameters that passed their check
fails just as `LimitFails` says, and otherwise only where an option cannot be written. A solve of a
program that the backend takes starts the backend like that, and such a failure is what the solve
comes to. -/
theorem timeLimit_exact {timeLimit threads verbose : Value}
    {options : Option (List (Key × Value))} {p : Parameters}
    (made : Parameters.make timeLimit threads verbose options = .ok p) (factory : Factory)
    (w : Workspace) (willing : factory.Willing w) :
    (∀ e, ((factory.start (.proper p)).run w).1 = .error e ↔
        LimitFails factory timeLimit e ∨
          (¬∃ e', LimitFails factory timeLimit e') ∧ factory.unwritable? p.options = some e) ∧
      ∀ (program : Given (Ref Program)) (name : Value) (solver : Solver) (problem : Problem)
        (backend : Backend), Registry.lookup name w = .ok (some factory) →
        Accepted Registry.catalog program name w problem backend →
        let run := (solve program name (some (.proper p))).run (solver, w)
        let calls := ledger Registry.catalog program name (some (.proper p)) (solver, w)
        (∃ later, calls = .create (.ok ()) ::
          .start (.proper p) ((factory.start (.proper p)).run w).1 :: later) ∧
        ∀ e, LimitFails factory timeLimit e →
          run.1 = .ok false ∧ run.2.1.solution = .without .numericalFailure name ∧
            run.2.1.diagnostics =
              [⟨.solverOutcome, "backend '" ++ name.shown ++ "' raised " ++ e.report⟩] := by
  have starts := fun e => Factory.start_eq_error (e := e) made willing
  refine ⟨starts, ?_⟩
  intro program name solver problem backend registered accepted run calls
  have present : Registry.catalog.lookup name w = .ok (some factory.make) := by
    rw [Registry.catalog, Registry.lookup_catalogBy, registered]
    rfl
  obtain ⟨make, found, new⟩ := accepted.made.maker
  cases found.symm.trans present
  obtain ⟨w₁, ran⟩ : ∃ w₁, factory.make.run w = (.ok backend, w₁) := ⟨_, Prod.ext new rfl⟩
  have opens : ((factory.start (.proper p)).run w).1 =
      ((Adapter.start (.proper p)).run (backend, w₁)).1 := by
    unfold Factory.start
    rw [run_bind, ran]
    rfl
  have given : (solver.parameters.replacedBy (some (.proper p)) : Given Parameters) = .proper p :=
    rfl
  obtain ⟨talk, ended, closed, entered, answer, left, conversation, first⟩ :=
    solve_started (s := (solver, w)) given accepted.made.sound present ran accepted.takes
  rw [← opens] at first
  refine ⟨?_, fun e fails => ?_⟩
  · obtain ⟨later, rfl⟩ := List.head?_eq_some_iff.1 first
    exact ⟨_, entered⟩
  rw [(starts e).2 (.inl fails)] at first
  obtain ⟨-, rfl⟩ := conversation.of_start_failed first
  rw [Dispatch.verdict_of_other fails.reachable] at answer left
  exact ⟨answer, congrArg Solver.solution left, congrArg Solver.diagnostics left⟩

end Solver

/-- The small program with SCIP for a backend. -/
def Sample.scip : Workspace :=
  { Sample.registered (.orTools "scip") with
    orTools := { (Sample.workspace .binary).orTools with
      known := ["SCIP"]
      infinity := .ofFloat Number.infinity } }

theorem Sample.willing_scip : Factory.Willing Sample.scip (.orTools "scip") :=
  ⟨fun _ _ => rfl, by decide +kernel⟩

namespace Solver

/-- An infinite time limit, for a caller who wants none. -/
theorem timeLimit_exact_infinite :
    let p : Parameters := ⟨some (.real Number.infinity), none, .scalar (.bool false), .empty⟩
    let run := (solve Sample.program Sample.backend (some (.proper p))).run (new none, Sample.scip)
    Parameters.make (.ofFloat Number.infinity) .none (.scalar (.bool false)) (some []) = .ok p ∧
      Factory.Willing Sample.scip (.orTools "scip") ∧
      ((Factory.start (.orTools "scip") (.proper p)).run Sample.scip).1 =
        .error .infiniteToInteger ∧
      run.1 = .ok false ∧ run.2.1.solution = .without .numericalFailure Sample.backend := by
  intro p run
  have made : Parameters.make (.ofFloat Number.infinity) .none (.scalar (.bool false)) (some []) =
      .ok p := by rfl
  have fails : LimitFails (.orTools "scip") (.ofFloat Number.infinity) .infiniteToInteger :=
    .infinite Number.point_infinity le_top
  have sound : Sound Sample.scip.models Sample.program (Sample.scip.models.problem ⟨0⟩) :=
    ⟨⟨⟨0⟩, rfl, rfl⟩, by decide +kernel⟩
  have whole : OrToolsAdapter.continuousOnly.contains (Text.upper "scip") = false := by
    decide +kernel
  have takes : Adapter.supportsInteger (Backend.orTools (.make "scip")) = .ok true := by
    show Except.ok (!OrToolsAdapter.continuousOnly.contains (Text.upper "scip")) = _
    rw [whole]
    rfl
  have registered : Registry.lookup Sample.backend Sample.scip = .ok (some (.orTools "scip")) :=
    Sample.lookup_registered (.orTools "scip")
  have present : Registry.catalog.lookup Sample.backend Sample.scip =
      .ok (some (Factory.orTools "scip").make) := by
    rw [Registry.catalog, Registry.lookup_catalogBy, registered]
    rfl
  obtain ⟨starts, solves⟩ :=
    timeLimit_exact made (.orTools "scip") Sample.scip Sample.willing_scip
  obtain ⟨-, comes⟩ := solves Sample.program Sample.backend (new none) _ (.orTools (.make "scip"))
    registered ⟨⟨sound, _, present, rfl⟩, fun _ => takes⟩
  obtain ⟨answer, solution, -⟩ := comes _ fails
  exact ⟨made, Sample.willing_scip, (starts _).2 (.inl fails), answer, solution⟩

/-- Not every time limit that passes the check can be used, however willing the libraries are. -/
theorem timeLimit_unusable :
    ¬∀ (timeLimit threads verbose : Value) (p : Parameters) (factory : Factory) (w : Workspace),
      Parameters.make timeLimit threads verbose (some []) = .ok p → factory.Willing w →
      ((factory.start (.proper p)).run w).1 = .ok () := by
  intro usable
  have started := usable (.ofFloat Number.infinity) .none (.scalar (.bool false)) _
    (.orTools "scip") Sample.scip rfl Sample.willing_scip
  have failed : ((Factory.start (.orTools "scip") (.proper
      ⟨some (.real Number.infinity), none, .scalar (.bool false), .empty⟩)).run Sample.scip).1 =
      .error .infiniteToInteger := by decide +kernel
  cases failed.symm.trans started

end Solver

end LinearDispatch
