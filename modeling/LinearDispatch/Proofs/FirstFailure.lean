import LinearDispatch.Grid.Arrays
import LinearDispatch.Proofs.CallOrder

/-!
# The first failure decides

Many things can go wrong in one solve, and a solve reports one of them: the one that came first.
`Decided` reads the outcome off the stages in their order, and off the ledger for the calls on the
adapter. The ledger holds the calls with their answers, so the first entry that stands for a
failure is found there whichever call it was, and whether the call failed or its answer could not
be read. What happens after it has no say, the closing of the adapter included.
-/

namespace LinearDispatch

/-- What a solve comes to by the first stage that goes wrong, or by the answers of the adapter if
none does. The list is the ledger of the solve. -/
inductive Decided {A : Type} [Adapter A] (catalog : Catalog Workspace A)
    (program : Given (Ref Program)) (backend : Value) (w : Workspace) :
    List Entry → Solution → List Diagnostic → Prop
  /-- the check finds something; each finding is told, and nothing is called -/
  | invalid {messages : List String}
      (check : Model.defectMessages w.models program = .ok messages) (found : messages ≠ []) :
      Decided catalog program backend w [] (.without .invalidProblem backend)
        (messages.map fun m => ⟨.invalidProblem, .text m⟩)
  /-- nothing is registered under the name -/
  | unknown {problem : Problem} (sound : Sound w.models program problem)
      (absent : catalog.lookup backend w = .ok none) :
      Decided catalog program backend w [] (.without .backendUnavailable backend)
        [⟨.backendUnavailable, (Failure.notRegistered backend.shown).message⟩]
  /-- the maker finds that the backend cannot be reached -/
  | unavailable {problem : Problem} {e : Failure}
      (made : Made catalog program backend w problem (.error e))
      (caught : e.isUnavailable = true) :
      Decided catalog program backend w [.create (.error e)] (.without .backendUnavailable backend)
        [⟨.backendUnavailable, e.message⟩]
  /-- the problem has columns of whole values and the adapter does not take them -/
  | refused {problem : Problem} {adapter : A}
      (made : Made catalog program backend w problem (.ok adapter))
      (whole : problem.hasInteger = true) (lacks : Adapter.supportsInteger adapter = .ok false) :
      Decided catalog program backend w [.create (.ok ())] (.without .invalidProblem backend)
        [Dispatch.refusal problem backend]
  /-- the first call that fails, or whose answer cannot be read, finds that the backend cannot be
  reached -/
  | unreachable {problem : Problem} {adapter : A} {l : List Entry} {e : Failure}
      (accepted : Accepted catalog program backend w problem adapter)
      (first : l.findSome? Entry.failure? = some e) (caught : e.isUnavailable = true) :
      Decided catalog program backend w l (.without .backendUnavailable backend)
        [⟨.backendUnavailable, e.message⟩]
  /-- the first call that fails, or whose answer cannot be read, does so in another way -/
  | failed {problem : Problem} {adapter : A} {l : List Entry} {e : Failure}
      (accepted : Accepted catalog program backend w problem adapter)
      (first : l.findSome? Entry.failure? = some e) (other : e.isUnavailable = false) :
      Decided catalog program backend w l (.without .numericalFailure backend)
        [⟨.solverOutcome, .text ("backend '" ++ backend.shown ++ "' raised " ++ e.report)⟩]
  /-- nothing fails, and the adapter answers a status that cannot be used -/
  | unusable {problem : Problem} {adapter : A} {l : List Entry} {status : Status}
      (accepted : Accepted catalog program backend w problem adapter)
      (clean : l.findSome? Entry.failure? = none)
      (answered : .solve (.ok (.proper status)) ∈ l) (bad : status.usable = false) :
      Decided catalog program backend w l (.without status backend)
        [⟨.solverOutcome, status.explanation⟩]
  /-- nothing fails, and there is not one value for each column -/
  | misfit {problem : Problem} {adapter : A} {l : List Entry} {raw : Value} {values : List Float}
      (accepted : Accepted catalog program backend w problem adapter)
      (clean : l.findSome? Entry.failure? = none) (valued : .values (.ok raw) ∈ l)
      (read : Dispatch.readValues raw = .ok values)
      (bad : values.length ≠ problem.columns.length) :
      Decided catalog program backend w l (.without .numericalFailure backend)
        [Dispatch.wrongLength values.length problem.columns.length,
          ⟨.solverOutcome, Status.numericalFailure.explanation⟩]
  /-- nothing fails, and the answers of the adapter are the solution -/
  | solved {problem : Problem} {adapter : A} {l : List Entry} {status : Status}
      {rawValues rawObjective : Value} {values : List Float} {objective : Float}
      (accepted : Accepted catalog program backend w problem adapter)
      (clean : l.findSome? Entry.failure? = none)
      (answered : .solve (.ok (.proper status)) ∈ l) (usable : status.usable = true)
      (valued : .values (.ok rawValues) ∈ l) (read : Dispatch.readValues rawValues = .ok values)
      (fits : values.length = problem.columns.length)
      (weighed : .objectiveValue (.ok rawObjective) ∈ l)
      (readObjective : rawObjective.toFloat = .ok objective) :
      Decided catalog program backend w l
        ⟨status, some (.real objective), values.map .real, backend⟩ []

/-- The last call of a conversation is the first that can have failed, and neither the making of
the adapter before nor the close after it counts. -/
theorem InOrder.findSome?_failure? {todo : List Request} {columns : Nat} {done : List Entry}
    {last : Entry} (h : InOrder todo columns done last) (closed : Except Failure Unit) :
    (.create (.ok ()) :: (done ++ [last] ++ [.close closed])).findSome? Entry.failure? =
      last.failure? := by
  have quiet : done.findSome? Entry.failure? = none :=
    List.findSome?_eq_none_iff.2 fun x hx => (h.fine x hx).failure?_eq_none
  have made : (Entry.create (.ok ())).failure?.isNone := rfl
  have closing : (Entry.close closed).failure? = none := rfl
  rw [List.findSome?_cons_of_isNone made, List.findSome?_append, List.findSome?_append, quiet,
    List.findSome?_singleton, List.findSome?_singleton, closing, Option.none_or, Option.or_none]

theorem mem_ledger {done : List Entry} {x : Entry} (h : x ∈ done) (last : Entry)
    (closed : Except Failure Unit) :
    x ∈ .create (.ok ()) :: (done ++ [last] ++ [.close closed]) :=
  List.mem_cons_of_mem _ (List.mem_append_left _ (List.mem_append_left _ h))

theorem last_mem_ledger (done : List Entry) (last : Entry) (closed : Except Failure Unit) :
    last ∈ .create (.ok ()) :: (done ++ [last] ++ [.close closed]) :=
  List.mem_cons_of_mem _ (List.mem_append_left _ List.mem_concat_self)

section

variable {A : Type} [Adapter A] {catalog : Catalog Workspace A} {program : Given (Ref Program)}
  {parameters : Given Parameters} {backend : Value} {w : Workspace}

theorem Conversation.decided {problem : Problem} {adapter : A} {talk : List Entry}
    {ended : Except Failure Outcome} {outcome : Outcome}
    (accepted : Accepted catalog program backend w problem adapter)
    (h : Conversation problem parameters backend talk ended)
    (told : Dispatch.verdict backend ended = .ok outcome) (closed : Except Failure Unit) :
    Decided catalog program backend w (.create (.ok ()) :: (talk ++ [.close closed]))
      outcome.solution outcome.diagnostics := by
  cases h with
  | @failed done last e order fails =>
      have first := (order.findSome?_failure? closed).trans fails
      cases caught : e.isUnavailable with
      | true =>
          rw [Dispatch.verdict_of_unavailable caught] at told
          cases told
          exact .unreachable accepted first caught
      | false =>
          rw [Dispatch.verdict_of_other caught] at told
          cases told
          exact .failed accepted first caught
  | @unusable done status order bad =>
      have clean := order.findSome?_failure? closed
      have unusable : (Solution.without status backend).success = false := bad
      cases explained : status.unexplained? with
      | some e =>
          rw [Dispatch.verdict_of_unexplained unusable explained] at told
          cases told
      | none =>
          rw [Dispatch.verdict_of_explained unusable explained] at told
          cases told
          exact .unusable accepted clean (last_mem_ledger _ _ _) bad
  | @misfit done raw values order read bad =>
      have clean := (order.findSome?_failure? closed).trans (congrArg failureOf read)
      have unusable : (Solution.without .numericalFailure backend).success = false := rfl
      rw [Dispatch.verdict_of_explained unusable rfl] at told
      cases told
      exact .misfit accepted clean (last_mem_ledger _ _ _) read bad
  | @solved done status rawValues values rawObjective objective order answered valued read
      readObjective =>
      have clean := (order.findSome?_failure? closed).trans (congrArg failureOf readObjective)
      have usable : status.usable = true := order.fine _ answered
      obtain ⟨values', read', fits⟩ := order.fine _ valued
      cases read.symm.trans read'
      have success : (Solution.mk status (some (.real objective)) (values.map .real)
          backend).success = true := usable
      rw [Dispatch.verdict_of_success success] at told
      cases told
      exact .solved accepted clean (mem_ledger answered _ _) usable (mem_ledger valued _ _) read
        fits (last_mem_ledger _ _ _) readObjective

theorem Course.decided {l : List Entry} {outcome : Outcome}
    (h : Course catalog program parameters backend w l (.ok outcome)) :
    Decided catalog program backend w l outcome.solution outcome.diagnostics := by
  cases h with
  | invalid check found => exact .invalid check found
  | unknown sound absent => exact .unknown sound absent
  | unavailable made caught => exact .unavailable made caught
  | refused made whole lacks => exact .refused made whole lacks
  | driven accepted made drive conversation told => exact conversation.decided accepted told _

end

namespace Solver

/-- A solve that returns has the outcome of the first stage that goes wrong, or of the answers of
the adapter if none does; and it answers whether that is a solution that can be used. -/
theorem outcome_decided {A : Type} [Adapter A] (catalog : Catalog Workspace A)
    (program : Given (Ref Program)) (backend : Value) (parameters : Option (Given Parameters))
    (s s' : Solver × Workspace) (success : Bool)
    (returns : (solveFrom catalog program backend parameters).run s = (.ok success, s')) :
    Decided catalog program backend s.2 (ledger catalog program backend parameters s)
        s'.1.solution s'.1.diagnostics ∧
      success = s'.1.solution.success := by
  obtain ⟨outcome, course, solution, diagnostics, answer⟩ := course_of_returns returns
  rw [solution, diagnostics]
  exact ⟨course.decided, answer⟩

end Solver

/-! ## A small solve -/

namespace Sample

/-- The statuses of OR-Tools, counted from 0. -/
def orToolsCode (name : String) : Int :=
  List.idxOf name
    ["OPTIMAL", "FEASIBLE", "INFEASIBLE", "UNBOUNDED", "ABNORMAL", "MODEL_INVALID", "NOT_SOLVED"]

/-- The statuses of Gurobi, counted from 1. -/
def gurobiCode (name : String) : Int :=
  List.idxOf name
    ["LOADED", "OPTIMAL", "INFEASIBLE", "INF_OR_UNBD", "UNBOUNDED", "CUTOFF", "ITERATION_LIMIT",
      "NODE_LIMIT", "TIME_LIMIT", "SOLUTION_LIMIT", "INTERRUPTED", "NUMERIC", "SUBOPTIMAL",
      "INPROGRESS", "USER_OBJ_LIMIT", "WORK_LIMIT", "MEM_LIMIT"] + 1

/-- A workspace with one program, which has a column between -1 and 3 and a row that bounds it
from above. -/
def workspace (kind : VariableKind) : Workspace :=
  let models : Store :=
    { bounds := ⟨#[⟨.double, -1.0, 3.0⟩, ⟨.upper, Number.negInfinity, 2.0⟩]⟩
      expressions := ⟨#[⟨.ofList [(0, 1.0)]⟩]⟩
      vars := ⟨#[⟨kind, ⟨0⟩, .text "x"⟩]⟩
      constraints := ⟨#[⟨⟨0⟩, ⟨1⟩, .text "r"⟩]⟩
      programs := ⟨#[⟨.none, [⟨0⟩], ⟨0⟩, [.proper ⟨0⟩]⟩]⟩ }
  let reading : Reading := ⟨.ok .none, fun _ => .ok .none⟩
  let nothing : Workspace := .fresh .empty
    ⟨[], .none, orToolsCode, true, [], [], .ok .none, [], reading⟩ ⟨"", Grid.arrays, []⟩
    ⟨true, ⟨"", [], 1e100, gurobiCode⟩, [], .ok ("", "", ""), [], ⟨reading, .ok .none⟩, 0⟩
  { nothing with models }

def program : Given (Ref Program) := .proper ⟨0⟩

/-- The name under which the one backend is registered. -/
def backend : Value := .text "sample"

/-- The workspace with one backend. -/
def registered (factory : Factory) : Workspace :=
  { workspace .binary with registry := OrderedMap.empty.put (Registry.key backend) factory }

theorem lookup_registered (factory : Factory) :
    Registry.lookup backend (registered factory) = .ok (some factory) := by
  refine Value.whenWritable_eq_ok.2 ⟨rfl, ?_⟩
  unfold registered
  rw [OrderedMap.get?_put, if_pos rfl]

/-- An adapter that takes every column, finds an optimum, and fails where `fault` says so. -/
def script (fault : AdapterCall → Option Failure) : Script :=
  ⟨.text "sample", true, .optimal, none, .scalar (.int 0), none, fun _ call => fault call⟩

/-- A catalog with such an adapter under every name. -/
def catalog (fault : AdapterCall → Option Failure) : Catalog Workspace Backend :=
  fun _ _ => some (Factory.make (.scripted (script fault)))

/-- Fails at the solve and at the close. -/
def failsTwice : AdapterCall → Option Failure
  | .solve => some (.foreign .runtime "no solve")
  | .close => some (.foreign .unavailable "no close")
  | _ => none

end Sample

namespace Solver

theorem outcome_decided_failsTwice :
    let run := (solveFrom (Sample.catalog Sample.failsTwice) Sample.program (.text "s") none).run
      (new none, Sample.workspace .binary)
    run.1 = .ok false ∧
      Decided (Sample.catalog Sample.failsTwice) Sample.program (.text "s")
        (Sample.workspace .binary)
        (ledger (Sample.catalog Sample.failsTwice) Sample.program (.text "s") none
          (new none, Sample.workspace .binary))
        run.2.1.solution run.2.1.diagnostics ∧
      run.2.1.diagnostics = [⟨.solverOutcome, "backend 's' raised RuntimeError: no solve"⟩] := by
  intro run
  have returns : run.1 = .ok false := by decide +kernel
  exact ⟨returns, (outcome_decided _ _ _ _ _ run.2 _ (Prod.ext returns rfl)).1, by decide +kernel⟩

end Solver

end LinearDispatch
