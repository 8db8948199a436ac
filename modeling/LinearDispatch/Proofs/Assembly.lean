import LinearDispatch.Proofs.Check
import LinearDispatch.Proofs.NativeCalls

/-!
# Models that are assembled part by part

A native model comes about in small steps: every column, every row and the objective of a problem
is one call of `give`, and an adapter turns it into native calls or puts it aside. What stands
after some of the parts is a predicate `State` on the columns and the rows given so far, and an
adapter owes one step for each kind of part. The induction over the parts is made here, once for
all adapters.

`Solver.solve_extends` puts that into a solve of a registered backend: the problem passes the
check, the adapter takes it and can be started, and so the solve comes to where all parts are
handed over and to what the adapter's own solve makes of that.
-/

namespace LinearDispatch

open LinearDispatch.Action

/-- What an adapter owes for each kind of part, with what stands before and after it. -/
structure Assembles (A : Type) [Adapter A] (problem : Problem)
    (State : List Column → List Row → A × Workspace → Prop) (Done : A × Workspace → Prop) :
    Prop where
  column : ∀ {done c s}, c ∈ problem.columns → State done [] s →
    ∃ s', (Adapter.give (c.part done.length)).run s = (.ok (), s') ∧ State (done ++ [c]) [] s'
  row : ∀ {done r s}, r ∈ problem.rows → State problem.columns done s →
    ∃ s', (Adapter.give (r.part done.length)).run s = (.ok (), s') ∧
      State problem.columns (done ++ [r]) s'
  objective : ∀ {s}, State problem.columns problem.rows s →
    ∃ s', (Adapter.give (.objective problem.objective.handedOver)).run s = (.ok (), s') ∧ Done s'

namespace Dispatch

variable {A : Type} [Adapter A]

theorem handOver_append {ps : List Part} {s s' : A × Workspace}
    (h : (handOver ps).run s = (.ok (), s')) (qs : List Part) :
    (handOver (ps ++ qs)).run s = (handOver qs).run s' := by
  induction ps generalizing s with
  | nil =>
      have here : s = s' := congrArg Prod.snd h
      rw [here, List.nil_append]
  | cons part rest ih =>
      rw [handOver, run_bind] at h
      rw [List.cons_append, handOver, run_bind]
      cases hr : (Adapter.give part).run s with
      | mk r t =>
          rw [hr] at h
          cases r with
          | ok a => exact ih h
          | error e => cases h

/-- Items are handed over one by one, each with its place, and each extends what stands so far. -/
theorem handOver_mapIdx_from {α : Type} {f : Nat → α → Part}
    (Inv : List α → A × Workspace → Prop) (items : List α) :
    ∀ {done : List α} {s : A × Workspace},
      (∀ done a s, a ∈ items → Inv done s →
        ∃ s', (Adapter.give (f done.length a)).run s = (.ok (), s') ∧ Inv (done ++ [a]) s') →
      Inv done s →
      ∃ s', (handOver (items.mapIdx fun i => f (i + done.length))).run s = (.ok (), s') ∧
        Inv (done ++ items) s' := by
  induction items with
  | nil =>
      intro done s step start
      refine ⟨s, rfl, ?_⟩
      rw [List.append_nil]
      exact start
  | cons a rest ih =>
      intro done s step start
      obtain ⟨s₁, given, here⟩ := step done a s List.mem_cons_self start
      obtain ⟨s', handed, all⟩ := @ih (done ++ [a]) s₁
        (fun done b t hb => step done b t (List.mem_cons_of_mem a hb)) here
      have places : (fun i => f (i + (done ++ [a]).length)) = fun i => f (i + 1 + done.length) := by
        funext i
        rw [List.length_append, List.length_singleton, Nat.add_right_comm, Nat.add_assoc]
      rw [places] at handed
      refine ⟨s', ?_, ?_⟩
      · rw [List.mapIdx_cons, Nat.zero_add, handOver, run_bind, given]
        exact handed
      · rw [List.append_cons]
        exact all

theorem handOver_mapIdx {α : Type} {f : Nat → α → Part} (Inv : List α → A × Workspace → Prop)
    (items : List α) {s : A × Workspace}
    (step : ∀ done a s, a ∈ items → Inv done s →
      ∃ s', (Adapter.give (f done.length a)).run s = (.ok (), s') ∧ Inv (done ++ [a]) s')
    (start : Inv [] s) :
    ∃ s', (handOver (items.mapIdx f)).run s = (.ok (), s') ∧ Inv items s' :=
  handOver_mapIdx_from Inv items step start

/-- An adapter that owes nothing takes all parts of a problem. -/
theorem handOver_parts {problem : Problem}
    {State : List Column → List Row → A × Workspace → Prop} {Done : A × Workspace → Prop}
    (h : Assembles A problem State Done) {s : A × Workspace} (start : State [] [] s) :
    ∃ s', (handOver problem.parts).run s = (.ok (), s') ∧ Done s' := by
  obtain ⟨s₁, columns, here⟩ := handOver_mapIdx (fun done s => State done [] s)
    problem.columns (fun _ _ _ hc => h.column hc) start
  obtain ⟨s₂, rows, there⟩ := handOver_mapIdx (fun done s => State problem.columns done s)
    problem.rows (fun _ _ _ hr => h.row hr) here
  obtain ⟨s₃, objective, done⟩ := h.objective there
  refine ⟨s₃, ?_, done⟩
  unfold Problem.parts
  rw [List.append_assoc, handOver_append columns, handOver_append rows, handOver, run_bind,
    objective]
  rfl

/-- A solve with an adapter that takes the problem is the drive of that adapter. -/
theorem solve_run_of_made {catalog : Catalog Workspace A} {p : Ref Program} {backend : Value}
    {w w' : Workspace} {make : Action Workspace A} {adapter : A} (parameters : Given Parameters)
    (check : (w.models.problem p).inspect = .ok [])
    (present : catalog.lookup backend w = .ok (some make))
    (made : make.run w = (.ok adapter, w'))
    (takes : refuses (w.models.problem p) adapter = .ok false) :
    (solve catalog (.proper p) backend parameters).run w =
      (withFirst adapter (attempt (w.models.problem p) parameters backend)).run w' := by
  have read : (Action.gets fun w => w.models.problem p : Action Workspace Problem).run w =
      (.ok (w.models.problem p), w) := rfl
  unfold solve solveVia
  dsimp only
  rw [run_bind, show (liftM (Action.gets fun w => w.models.problem p : Action Workspace Problem) :
    Action Workspace Problem).run w = _ from read]
  unfold solveWith prepare
  simp only [run_bind, run_ofExcept, run_attempt, check, Catalog.create_run, present, made, takes,
    Bool.false_eq_true, if_false, run_pure]

end Dispatch

namespace Solver

section

variable {A : Type} [Adapter A] {wrap : A → Backend} {P : NativeCall → Prop} {p : Ref Program}
  {backend : Value} {parameters : Option (Given Parameters)} {s : Solver × Workspace}
  {factory : Factory} {a : A}

/-- A solve of a registered backend that takes the problem keeps what the drive of the adapter comes
to. -/
theorem solve_run_of_made (carries : Adapter.Carries wrap)
    (check : Model.defectMessages s.2.models (.proper p) = .ok [])
    (registered : Registry.lookup backend s.2 = .ok (some factory))
    (made : factory.make = pure (wrap a))
    (takes : (s.2.models.problem p).hasInteger = true →
      Adapter.supportsInteger (wrap a) = .ok true) :
    let drive := (Dispatch.attempt (s.2.models.problem p) (s.1.parameters.replacedBy parameters)
      backend).run (a, s.2)
    (solve (.proper p) backend parameters).run s =
      (drive.1.bind Outcome.answer, s.1.after backend drive.1, drive.2.2) := by
  have accepts : Dispatch.refuses (s.2.models.problem p) (wrap a) = .ok false := by
    unfold Dispatch.refuses
    split
    · next whole =>
        rw [takes whole]
        rfl
    · rfl
  have present : Registry.catalog.lookup backend s.2 = .ok (some (pure (wrap a))) := by
    rw [Registry.catalog, Registry.lookup_catalogBy, registered, ← made]
    rfl
  have ran := Dispatch.solve_run_of_made (s.1.parameters.replacedBy parameters)
    (Sound.inspect ⟨⟨p, rfl, rfl⟩, check⟩) present rfl accepts
  have carried := Dispatch.attempt_follows carries (s.2.models.problem p)
    (s.1.parameters.replacedBy parameters) backend (a, s.2)
  unfold solve solveFrom
  rw [keep_run, ran, run_withFirst, show (wrap a, s.2) = Adapter.carry wrap (a, s.2) from rfl,
    ← carried]
  rfl

/-- A solve with an adapter that cannot be started, or does not tell its version then, makes the
calls of the start, and closes it. -/
theorem solve_of_not_ready (carries : Adapter.Carries wrap) (settles : Adapter.Settles A P)
    (check : Model.defectMessages s.2.models (.proper p) = .ok [])
    (registered : Registry.lookup backend s.2 = .ok (some factory))
    (made : factory.make = pure (wrap a))
    (takes : (s.2.models.problem p).hasInteger = true →
      Adapter.supportsInteger (wrap a) = .ok true)
    (starts : ∀ p, Makes Prod.snd P (Adapter.start (A := A) p)) (replies : Adapter.Replies A)
    {e : Failure} {t : A × Workspace}
    (failed : (Adapter.start (s.1.parameters.replacedBy parameters) >>=
      fun _ => Adapter.version (A := A)).run (a, s.2) = (.error e, t)) :
    s.2.Extends P ((solve (.proper p) backend parameters).run s).2.2 := by
  rw [solve_run_of_made carries check registered made takes]
  exact Dispatch.attempt_of_not_ready settles backend (starts _) replies failed

/-- A solve of a registered backend, from the start of the adapter to the end: it comes to a state
in which all parts are handed over, goes on with the solve of the adapter, and makes no other calls
after that than those of the read-back. What the solve of the adapter yields is the solution. -/
theorem solve_comes (carries : Adapter.Carries wrap) (settles : Adapter.Settles A P)
    (check : Model.defectMessages s.2.models (.proper p) = .ok [])
    (registered : Registry.lookup backend s.2 = .ok (some factory))
    (made : factory.make = pure (wrap a))
    (takes : (s.2.models.problem p).hasInteger = true →
      Adapter.supportsInteger (wrap a) = .ok true)
    {s₁ : A × Workspace}
    (started : (Adapter.start (s.1.parameters.replacedBy parameters)).run (a, s.2) = (.ok (), s₁))
    (tells : Adapter.Tells s₁)
    {State : List Column → List Row → A × Workspace → Prop} {Done : A × Workspace → Prop}
    (assembles : Assembles A (s.2.models.problem p) State Done)
    (begins : ∀ w, s₁.2.Noted w → State [] [] (s₁.1, w)) :
    ∃ s₂, Done s₂ ∧
      (Adapter.solve.run s₂).2.2.Extends P ((solve (.proper p) backend parameters).run s).2.2 ∧
      ∀ {status xs x}, Adapter.Yields s₂ status xs x →
        xs.length = (s.2.models.problem p).columns.length →
        ((solve (.proper p) backend parameters).run s).1 = .ok true ∧
          ((solve (.proper p) backend parameters).run s).2.1.solution =
            ⟨status, some (.real x), xs.map .real, backend⟩ := by
  obtain ⟨s₂, done, later, found⟩ := Dispatch.attempt_comes settles backend started tells
    fun w hw => Dispatch.handOver_parts assembles (begins w hw)
  rw [solve_run_of_made carries check registered made takes]
  refine ⟨s₂, done, later, fun {status xs x} yields count => ?_⟩
  rw [found yields count]
  refine ⟨?_, rfl⟩
  have answer : Outcome.answer ⟨⟨status, some (.real x), xs.map .real, backend⟩, []⟩ =
      .ok status.usable := Outcome.answer_of_announced yields.announced
  exact answer.trans (congrArg Except.ok yields.usable)

theorem solve_extends (carries : Adapter.Carries wrap) (settles : Adapter.Settles A P)
    (check : Model.defectMessages s.2.models (.proper p) = .ok [])
    (registered : Registry.lookup backend s.2 = .ok (some factory))
    (made : factory.make = pure (wrap a))
    (takes : (s.2.models.problem p).hasInteger = true →
      Adapter.supportsInteger (wrap a) = .ok true)
    {s₁ : A × Workspace}
    (started : (Adapter.start (s.1.parameters.replacedBy parameters)).run (a, s.2) = (.ok (), s₁))
    (tells : Adapter.Tells s₁)
    {State : List Column → List Row → A × Workspace → Prop} {Done : A × Workspace → Prop}
    (assembles : Assembles A (s.2.models.problem p) State Done)
    (begins : ∀ w, s₁.2.Noted w → State [] [] (s₁.1, w)) :
    ∃ s₂, Done s₂ ∧
      (Adapter.solve.run s₂).2.2.Extends P ((solve (.proper p) backend parameters).run s).2.2 := by
  obtain ⟨s₂, done, later, -⟩ :=
    solve_comes carries settles check registered made takes started tells assembles begins
  exact ⟨s₂, done, later⟩

end

end Solver

end LinearDispatch
