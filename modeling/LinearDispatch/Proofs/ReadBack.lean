import LinearDispatch.Proofs.LastAnswer
import LinearDispatch.Proofs.SolveInStep

/-!
# Solutions are read back as they were answered

Columns are made one by one, the indices of rows are looked up among them, and much later their
values are read back, through a list of columns or by the places of a vector; and it may be that the
model was solved twice in between. A value that ends up at another place would still look like a
value. This file proves that each one is where it belongs: if the last answer of the native solver
is one that can be used, then the solve succeeds, and the value at each place of the solution is
what that answer has for the native column that was made for the variable at this place.

That is said of a run without native failures. Such a run goes in step with the run from a workspace
in which no call would fail, `Workspace.calm`, and there every adapter can be followed.
-/

namespace LinearDispatch

open LinearDispatch.Action Workspace

/-! ## Runs without native failures -/

namespace Workspace

def callsSince (w w' : Workspace) : List NativeCall :=
  w'.calls.drop w.calls.length

/-- None of the native calls that were made in between failed. -/
def Undisturbed (w w' : Workspace) : Prop :=
  ∀ (k : ℕ) (c : NativeCall), (w.callsSince w')[k]? = some c →
    w.faults (w.nativeCalls + k) c = none

/-- The same workspace, in which no native call fails. -/
def calm (w : Workspace) : Workspace :=
  { w with faults := fun _ _ => none }

variable {w w' t t' : Workspace}

theorem quiet_calm {C : Type} (library : C → NativeCall) : Quiet library w.calm :=
  fun _ _ => rfl

theorem callsSince_of_calls {more : List NativeCall} (h : w'.calls = w.calls ++ more) :
    w.callsSince w' = more := by
  unfold callsSince
  rw [h, List.drop_left]

theorem callsSince_of_journal {more : List Event} (h : w'.journal = w.journal ++ more) :
    w.callsSince w' = more.filterMap Event.native? := by
  refine callsSince_of_calls ?_
  unfold calls
  rw [h, List.filterMap_append]

theorem Abreast.callsSince_eq (h : Abreast w w' t t') : w'.callsSince t' = w.callsSince t := by
  obtain ⟨more, grown, grown'⟩ := h.written
  rw [callsSince_of_journal grown.journal, callsSince_of_journal grown'.journal]

theorem Tells.callsSince {made : List NativeCall} {solves : ℕ} (h : w.Tells made solves w') :
    (w.callsSince w').filter (·.makes) = made ∧ (w.callsSince w').countP (·.solves) = solves := by
  obtain ⟨more, calls, made, solved⟩ := h
  rw [callsSince_of_calls calls]
  exact ⟨made, solved⟩

/-- Without failures a run does what it does where no call fails. -/
theorem Undisturbed.not_parted (h : w.Undisturbed w') : ¬Parted w w.calm w' := by
  rintro ⟨more, grown, k, c, called, differ⟩
  rw [← callsSince_of_journal grown] at called
  exact differ (h k c called)

theorem Extends.solves_eq (h : w.Extends (fun c => c.solves = false) w') :
    (w.callsSince w').countP (·.solves) = 0 := by
  obtain ⟨more, calls, all⟩ := h.calls
  rw [callsSince_of_calls calls]
  refine List.countP_eq_zero.2 fun c hc => ?_
  rw [all c hc]
  exact Bool.false_ne_true

end Workspace

/-! ## Answers -/

namespace Backend

/-- What is asked of the native side: OR-Tools has a number for infinity, the array library keeps
the numbers that it makes a model for HiGHS of and counts columns by a machine word, and the module
of Gurobi has its constants. -/
def Served (w : Workspace) (columns : ℕ) : Backend → Prop
  | scripted _ => False
  | orTools _ => ∃ infinity, w.orTools.infinity = .scalar infinity
  | highs _ => w.highs.arrays.Keeps ∧ columns ≤ 2 ^ 63
  | gurobi _ => GurobiAdapter.describesModels w.gurobi.library.missing = true ∧
      GurobiAdapter.describesStatuses w.gurobi.library.missing = true

/-- The native calls make a native column for each column of the problem, in their order and after
the model that the columns are made in; they are numbered as they are made. HiGHS is given the
columns as vectors. -/
def Creates (w : Workspace) (problem : Problem) (calls : List NativeCall) : Backend → Prop
  | scripted _ => False
  | orTools a => ∀ infinity, w.orTools.infinity = .scalar infinity →
      calls.filter (·.makes) = .orTools (.createSolver a.solverId) ::
        problem.columns.mapIdx fun i c => .orTools (OrToolsAdapter.callOf infinity i c)
  | highs _ => ∀ m, .highs m ∈ calls → m.Portrays problem
  | gurobi _ => ∃ env, calls.filter (·.makes) = .gurobi (.createModel env) ::
      problem.columns.mapIdx fun i c =>
        .gurobi (GurobiAdapter.callOf w.gurobi.library.infinity i c)

/-- Answer number `k` of the native solver: the status that it is classified as, and what there is
to be read after that solve, the values of the native columns by their numbers and the value of the
objective. Of HiGHS the message of the first answer is written in any case. -/
inductive Answers (w : Workspace) (columns k : ℕ) :
    Backend → Status → List Value → Value → Prop where
  | orTools (a : OrToolsAdapter) {values : List Value} {objective : Value}
      (gives : (w.orTools.readingAt k).Gives columns values objective) :
      Answers w columns k (.orTools a)
        (OrToolsAdapter.classify w.orTools.code (w.orTools.statuses.getD k (.ofInt 0))) values
        objective
  | highs (a : HighsAdapter) {status : Status} {items : List Value}
      (written : (w.highs.answerTo columns 0).message.isWritable = true)
      (means : ((HighsAdapter.classify (w.highs.answerTo columns k)).run w).1 = .ok status)
      (listed : ((w.highs.answerTo columns k).values.getD .none).items = .ok items)
      (each : items.length = columns) :
      Answers w columns k (.highs a) status items (w.highs.answerTo columns k).objective
  | gurobi (a : GurobiAdapter) {status : Status} {values : List Value} {objective : Value}
      (means : ((GurobiAdapter.classify (w.gurobi.readingAt k).solutionCount
        (w.gurobi.statuses.getD k (.ofInt 2))).run
          ({ a with library := some w.gurobi.library }, w)).1 = .ok status)
      (gives : (w.gurobi.readingAt k).Gives columns values objective) :
      Answers w columns k (.gurobi a) status values objective

theorem Answers.length_eq {w : Workspace} {columns k : ℕ} {b : Backend} {status : Status}
    {values : List Value} {objective : Value}
    (h : Answers w columns k b status values objective) : values.length = columns := by
  cases h with
  | orTools a gives => exact gives.values.length_eq.symm.trans List.length_range
  | highs a written means listed each => exact each
  | gurobi a means gives => exact gives.values.length_eq.symm.trans List.length_range

/-- What an answer is does not depend on which calls would fail. -/
theorem Answers.calm {w : Workspace} {columns k : ℕ} {b : Backend} {status : Status}
    {values : List Value} {objective : Value}
    (h : Answers w columns k b status values objective) :
    Answers w.calm columns k b status values objective := by
  cases h with
  | orTools a gives => exact .orTools a gives
  | highs a written means listed each =>
      refine .highs a written (Eq.trans ?_ means) listed each
      exact (HighsAdapter.classify_answer _ w.calm).trans (HighsAdapter.classify_answer _ w).symm
  | gurobi a means gives =>
      rw [GurobiAdapter.classify_run rfl] at means
      refine .gurobi a ?_ gives
      rw [GurobiAdapter.classify_run rfl]
      exact means

end Backend

/-! ## Where no call fails -/

/-- What a solve has come to if something was solved: the columns were made, the last answer was the
one after `k` others, and if that one can be used and has numbers, it is the solution. -/
structure Backend.Solves (b : Backend) (w : Workspace) (problem : Problem) (backend : Value)
    (k : ℕ) (t : Except Failure Bool × Solver × Workspace) : Prop where
  solved : (w.callsSince t.2.2).countP (·.solves) = k + 1
  creates : b.Creates w problem (w.callsSince t.2.2)
  found : ∀ {status values objective xs x},
    Answers w problem.columns.length k b status values objective → status.usable = true →
    Numbers values xs → objective.toFloat = .ok x →
    t.1 = .ok true ∧ t.2.1.solution = ⟨status, some (.real x), xs.map .real, backend⟩

namespace Solver

variable {p : Ref Program} {backend : Value} {parameters : Option (Given Parameters)}
  {s : Solver × Workspace} {factory : Factory}

section

variable {A : Type} [Adapter A] {wrap : A → Backend} {a : A}

/-- Something is solved only after the adapter was started and has told its version. -/
theorem ready_of_solves (carries : Adapter.Carries wrap)
    (settles : Adapter.Settles A fun c => c.solves = false)
    (starts : ∀ p, Makes Prod.snd (fun c => c.solves = false) (Adapter.start (A := A) p))
    (replies : Adapter.Replies A)
    (check : Model.defectMessages s.2.models (.proper p) = .ok [])
    (registered : Registry.lookup backend s.2 = .ok (some factory))
    (made : factory.make = pure (wrap a))
    (takes : (s.2.models.problem p).hasInteger = true →
      Adapter.supportsInteger (wrap a) = .ok true)
    (solves : 0 < (s.2.callsSince
      ((solve (.proper p) backend parameters).run s).2.2).countP (·.solves)) :
    ∃ s₁, (Adapter.start (s.1.parameters.replacedBy parameters)).run (a, s.2) = (.ok (), s₁) ∧
      Adapter.Tells s₁ := by
  have ready : ∀ e t, (Adapter.start (s.1.parameters.replacedBy parameters) >>=
      fun _ => Adapter.version (A := A)).run (a, s.2) ≠ (.error e, t) := by
    intro e t failed
    have none := solve_of_not_ready carries settles check registered made takes starts replies
      failed
    rw [none.solves_eq] at solves
    exact absurd solves (Nat.lt_irrefl 0)
  rw [run_bind] at ready
  cases ran : (Adapter.start (s.1.parameters.replacedBy parameters)).run (a, s.2) with
  | mk r s₁ =>
      rw [ran] at ready
      obtain ⟨told, asked⟩ := replies s₁
      cases r with
      | error e => exact absurd rfl (ready e s₁)
      | ok =>
          cases told with
          | error e => exact absurd asked (ready e s₁)
          | ok version => exact ⟨s₁, rfl, version, asked⟩

end

theorem orTools_solves {a : OrToolsAdapter} {infinity : Scalar} (quiet : Quiet .orTools s.2)
    (reads : s.2.orTools.infinity = .scalar infinity)
    (check : Model.defectMessages s.2.models (.proper p) = .ok [])
    (registered : Registry.lookup backend s.2 = .ok (some factory))
    (made : factory.make = pure (.orTools a))
    (takes : (s.2.models.problem p).hasInteger = true →
      Adapter.supportsInteger (Backend.orTools a) = .ok true)
    (solves : 0 < (s.2.callsSince
      ((solve (.proper p) backend parameters).run s).2.2).countP (·.solves)) :
    ∃ k, (Backend.orTools a).Solves s.2 (s.2.models.problem p) backend k
      ((solve (.proper p) backend parameters).run s) := by
  have sound : Sound s.2.models (.proper p) (s.2.models.problem p) := ⟨⟨p, rfl, rfl⟩, check⟩
  obtain ⟨s₁, started, tells⟩ := ready_of_solves Backend.carries_orTools
    (OrToolsAdapter.settles.mono fun _ => False.elim) OrToolsAdapter.start_makes
    OrToolsAdapter.replies check registered made takes solves
  have kept := (OrToolsAdapter.start_spec a _ quiet).2 s₁ started
  obtain ⟨s₂, taking, later, found⟩ := solve_comes Backend.carries_orTools OrToolsAdapter.settles
    check registered made takes started tells
    (OrToolsAdapter.takes sound infinity s₁.1.solverId s₁.2) fun w hw =>
      ⟨.of_start quiet reads started hw, rfl, hw.orTools_eq, .of_calls_eq hw.calls_eq⟩
  obtain ⟨k, solved, yields⟩ := OrToolsAdapter.solve_yields taking.toServing
  -- the solver was made at the start, then the columns, and nothing since
  have called := (((((Tells.afterCall s.2 (.orTools (.createSolver a.solverId))).and_nothing
    (.of_prepares kept.calls)).trans taking.tells).trans solved).and_nothing
      (.of_extends (fun _ => False.elim) later)).callsSince
  have service : s₂.2.orTools = { s.2.orTools with
      parameterAnswers := s₁.2.orTools.parameterAnswers } := taking.service.trans kept.service
  rw [service] at yields
  refine ⟨k, called.2.trans (Nat.zero_add _), fun infinity' reads' => ?_, ?_⟩
  · cases reads.symm.trans reads'
    exact called.1.trans (List.append_nil _)
  · intro status values objective xs x answers usable numbers number
    have length := answers.length_eq
    cases answers with
    | orTools _ gives =>
        exact found (yields usable gives numbers number) (numbers.length_eq.symm.trans length)

theorem highs_solves {a : HighsAdapter} (quiet : Quiet .highs s.2)
    (keeps : s.2.highs.arrays.Keeps)
    (fits : (s.2.models.problem p).columns.length ≤ 2 ^ 63)
    (check : Model.defectMessages s.2.models (.proper p) = .ok [])
    (registered : Registry.lookup backend s.2 = .ok (some factory))
    (made : factory.make = pure (.highs a))
    (solves : 0 < (s.2.callsSince
      ((solve (.proper p) backend parameters).run s).2.2).countP (·.solves)) :
    ∃ k, (Backend.highs a).Solves s.2 (s.2.models.problem p) backend k
      ((solve (.proper p) backend parameters).run s) := by
  have sound : Sound s.2.models (.proper p) (s.2.models.problem p) := ⟨⟨p, rfl, rfl⟩, check⟩
  obtain ⟨s₁, started, tells⟩ := ready_of_solves Backend.carries_highs
    (HighsAdapter.settles.mono fun _ => False.elim) HighsAdapter.start_makes
    HighsAdapter.replies check registered made (fun _ => rfl) solves
  obtain ⟨collected, noted⟩ := HighsAdapter.start_spec started
  obtain ⟨s₂, ⟨ready, ⟨m, built, portrays⟩, noted'⟩, later, found⟩ := solve_comes
    Backend.carries_highs HighsAdapter.settles check registered made (fun _ => rfl) started tells
    (HighsAdapter.assembles_of sound keeps fits s₁.2.Noted) fun w hw => ⟨collected, hw⟩
  have noted₂ := noted.trans noted'
  rw [← noted₂.highs_eq] at built
  obtain ⟨k, models, called, count, which, yields⟩ :=
    HighsAdapter.solve_yields (quiet.of_faults noted₂.faults_eq) ready built
  have columns : m.lower.length = (s.2.models.problem p).columns.length := by
    rw [portrays.lower, List.length_map]
  have calls : s.2.callsSince ((solve (.proper p) backend parameters).run s).2.2 =
      models.map .highs := by
    refine callsSince_of_calls ?_
    rw [later.calls_eq, called, noted₂.calls_eq]
  rw [columns, noted₂.highs_eq] at yields
  refine ⟨k, ?_, fun m' hm' => ?_, ?_⟩
  · rw [calls, List.countP_map, ← count]
    exact List.countP_eq_length.2 fun m' _ => rfl
  · rw [calls] at hm'
    obtain ⟨m'', hm'', same⟩ := List.mem_map.1 hm'
    cases same
    obtain rfl | rfl := which _ hm''
    · exact portrays
    · exact ⟨portrays.cost, portrays.integrality, portrays.lower, portrays.upper, portrays.rows⟩
  · intro status values objective xs x answers usable numbers number
    have length := answers.length_eq
    cases answers with
    | highs _ written means listed each =>
        rw [HighsAdapter.classify_answer] at means
        exact found (yields written means usable listed numbers number)
          (numbers.length_eq.symm.trans length)

theorem gurobi_solves {a : GurobiAdapter} (quiet : Quiet .gurobi s.2)
    (describes : GurobiAdapter.describesModels s.2.gurobi.library.missing = true)
    (describes' : GurobiAdapter.describesStatuses s.2.gurobi.library.missing = true)
    (check : Model.defectMessages s.2.models (.proper p) = .ok [])
    (registered : Registry.lookup backend s.2 = .ok (some factory))
    (made : factory.make = pure (.gurobi a))
    (solves : 0 < (s.2.callsSince
      ((solve (.proper p) backend parameters).run s).2.2).countP (·.solves)) :
    ∃ k, (Backend.gurobi a).Solves s.2 (s.2.models.problem p) backend k
      ((solve (.proper p) backend parameters).run s) := by
  have sound : Sound s.2.models (.proper p) (s.2.models.problem p) := ⟨⟨p, rfl, rfl⟩, check⟩
  obtain ⟨s₁, started, tells⟩ := ready_of_solves Backend.carries_gurobi
    (GurobiAdapter.settles_of (fun _ => rfl) rfl) GurobiAdapter.start_makes
    GurobiAdapter.replies check registered made (fun _ => rfl) solves
  have fresh := (GurobiAdapter.start_spec a _ quiet).2 s₁ started
  obtain ⟨s₂, taking, later, found⟩ := solve_comes Backend.carries_gurobi
    (GurobiAdapter.settles_of (P := fun c => c.makes = false ∧ c.solves = false)
      (fun _ => ⟨rfl, rfl⟩) ⟨rfl, rfl⟩) check registered made (fun _ => rfl) started tells
    (GurobiAdapter.takes sound s.2.gurobi s₁.2) fun w hw =>
      ⟨.of_fresh describes fresh hw, .of_calls_eq hw.calls_eq⟩
  obtain ⟨k, solved, yields⟩ := GurobiAdapter.solve_yields taking.toServing describes'
  obtain ⟨env, opened⟩ := fresh.tells
  -- the model was made at the start, then the columns, and nothing since
  have called := (((opened.trans taking.tells).trans solved).and_nothing
    (.of_extends (fun _ hc => hc) later)).callsSince
  refine ⟨k, called.2.trans (Nat.zero_add _), ⟨env, called.1.trans (List.append_nil _)⟩, ?_⟩
  intro status values objective xs x answers usable numbers number
  have length := answers.length_eq
  cases answers with
  | gurobi _ means gives =>
      rw [GurobiAdapter.classify_run rfl] at means
      exact found (yields means usable gives numbers number)
        (numbers.length_eq.symm.trans length)

/-! ## The read-back -/

/-- Without native failures a solve does what it does where no call fails. -/
theorem solve_calm {program : Given (Ref Program)}
    (undisturbed : s.2.Undisturbed ((solve program backend parameters).run s).2.2) :
    let t := (solve program backend parameters).run s
    let t' := (solve program backend parameters).run (s.1, s.2.calm)
    t'.1 = t.1 ∧ t'.2.1 = t.2.1 ∧ s.2.calm.callsSince t'.2.2 = s.2.callsSince t.2.2 := by
  have kept := fun w => keep_run backend parameters
    (Dispatch.solve Registry.catalog program backend) (s.1, w)
  have ran : (solve program backend parameters).run s = _ := kept s.2
  have ran' : (solve program backend parameters).run (s.1, s.2.calm) = _ := kept s.2.calm
  rw [ran] at undisturbed
  rw [ran, ran']
  obtain ⟨outcome, left, -⟩ := (@Dispatch.solve_inStep s.2 s.2.calm rfl rfl
    ⟨rfl, rfl, rfl, rfl⟩ program backend (s.1.parameters.replacedBy parameters)).resolve_left
      undisturbed.not_parted
  dsimp only
  rw [outcome]
  exact ⟨rfl, rfl, left.callsSince_eq⟩

/-- A program that passes the check is solved with a backend that takes it, without native failures,
and the last answer of the native solver, the one after `k` others, can be used and has a number for
the objective and for each native column. Then the solve succeeds, and what it keeps is that answer:
the objective as it is, and at each place the value of the native column that was made for the
variable at this place, also if a variable stands at several places. -/
theorem read_back {b : Backend} {k : ℕ} {status : Status} {values : List Value}
    {objective : Value} {xs : List Float} {x : Float}
    (check : Model.defectMessages s.2.models (.proper p) = .ok [])
    (registered : Registry.lookup backend s.2 = .ok (some factory))
    (made : factory.make = pure b)
    (takes : (s.2.models.problem p).hasInteger = true → Adapter.supportsInteger b = .ok true)
    (served : b.Served s.2 (s.2.models.programs.get p).vars.length)
    (undisturbed : s.2.Undisturbed ((solve (.proper p) backend parameters).run s).2.2)
    (solved : (s.2.callsSince
      ((solve (.proper p) backend parameters).run s).2.2).countP (·.solves) = k + 1)
    (answered : b.Answers s.2 (s.2.models.programs.get p).vars.length k status values objective)
    (usable : status.usable = true) (numbers : Numbers values xs)
    (number : objective.toFloat = .ok x) :
    ((solve (.proper p) backend parameters).run s).1 = .ok true ∧
      ((solve (.proper p) backend parameters).run s).2.1.solution =
        ⟨status, some (.real x), xs.map .real, backend⟩ ∧
      xs.length = (s.2.models.programs.get p).vars.length ∧
      b.Creates s.2 (s.2.models.problem p)
        (s.2.callsSince ((solve (.proper p) backend parameters).run s).2.2) := by
  obtain ⟨success, kept, calls⟩ := solve_calm undisturbed
  have columns : (s.2.models.problem p).columns.length = (s.2.models.programs.get p).vars.length :=
    List.length_map _
  rw [← columns] at served answered
  have count : xs.length = (s.2.models.programs.get p).vars.length :=
    numbers.length_eq.symm.trans (answered.length_eq.trans columns)
  have some : 0 < (s.2.calm.callsSince ((solve (.proper p) backend parameters).run
      (s.1, s.2.calm)).2.2).countP (·.solves) := by
    rw [calls, solved]
    exact Nat.succ_pos k
  obtain ⟨k', solves⟩ : ∃ k', b.Solves s.2.calm (s.2.models.problem p) backend k'
      ((solve (.proper p) backend parameters).run (s.1, s.2.calm)) := by
    cases b with
    | scripted a => exact served.elim
    | orTools a =>
        obtain ⟨infinity, reads⟩ := served
        exact orTools_solves (s := (s.1, s.2.calm)) (quiet_calm _) reads check registered made
          takes some
    | highs a =>
        exact highs_solves (s := (s.1, s.2.calm)) (quiet_calm _) served.1 served.2 check registered
          made some
    | gurobi a =>
        exact gurobi_solves (s := (s.1, s.2.calm)) (quiet_calm _) served.1 served.2 check
          registered made some
  obtain rfl : k' = k := by
    have same := solves.solved
    rw [calls, solved] at same
    exact (Nat.succ_inj.1 same).symm
  obtain ⟨ok, solution⟩ := solves.found answered.calm usable numbers number
  have creates := solves.creates
  rw [calls] at creates
  refine ⟨success.symm.trans ok, (congrArg (·.solution) kept).symm.trans solution, count, ?_⟩
  cases b <;> exact creates

/-- A program in which one variable stands at two places, solved with HiGHS, which leaves open at
first whether it is infeasible or unbounded and then answers 1 and 0. -/
theorem read_back_twice :
    let w := Sample.registered .highs
    let s : Solver × Workspace := (new none, { w with
      models := { w.models with programs := ⟨#[⟨.none, [⟨0⟩, ⟨0⟩], ⟨0⟩, [.proper ⟨0⟩]⟩]⟩ }
      highs := ⟨"1.11", Grid.arrays, [⟨.ofInt 4, none, .text "Unbounded or infeasible", .none⟩,
        ⟨.ofInt 0, some (.list [.ofFloat 1.0, .ofFloat 0.0]), .text "", .ofFloat 3.0⟩]⟩ })
    let t := (solve Sample.program Sample.backend none).run s
    (s.2.callsSince t.2.2).countP (·.solves) = 2 ∧ t.1 = .ok true ∧
      t.2.1.solution = ⟨.optimal, some (.real 3.0), [.real 1.0, .real 0.0], Sample.backend⟩ ∧
      ∀ m, .highs m ∈ s.2.callsSince t.2.2 → m.Portrays (s.2.models.problem ⟨0⟩) := by
  intro w s t
  have check : Model.defectMessages s.2.models (.proper ⟨0⟩) = .ok [] := by decide +kernel
  have solved : (s.2.callsSince t.2.2).countP (·.solves) = 2 := by decide +kernel
  have means : ((HighsAdapter.classify (s.2.highs.answerTo 2 1)).run s.2).1 = .ok .optimal := by
    decide +kernel
  have answered : (Backend.highs .new).Answers s.2 2 1 .optimal [.ofFloat 1.0, .ofFloat 0.0]
      (.ofFloat 3.0) := .highs .new (by decide +kernel) means rfl rfl
  have served : (Backend.highs .new).Served s.2 2 := ⟨Grid.keeps_arrays, by decide⟩
  obtain ⟨success, solution, -, creates⟩ := read_back check (Sample.lookup_registered .highs) rfl
    (fun _ => rfl) served (fun _ _ _ => rfl) solved answered rfl (.cons rfl (.cons rfl .nil)) rfl
  exact ⟨solved, success, solution, creates⟩

end Solver

end LinearDispatch
