import LinearDispatch.Proofs.Assembly
import LinearDispatch.Proofs.FirstFailure
import LinearDispatch.Proofs.GurobiModel
import LinearDispatch.Proofs.GurobiStart

/-!
# A Gurobi adapter builds the problem

Every part of a problem becomes one native call, or none for a row that constrains nothing, and the
calls build the model of `GurobiDraft.of`. What the adapter remembers is its model, with the number
of its columns and with what is to be read of it, and the native column of each index; `Serving`
says that both agree with the columns handed over so far, and `Built` also that the calls since the
start are a portrait of what was handed over.

The adapter looks up constants of the module as it goes. It needs those that describe a model, and
those that describe a status only afterwards.
-/

namespace LinearDispatch

open LinearDispatch.Action Workspace

namespace GurobiAdapter

/-! ## What is looked up -/

/-- The constants that describe a model. -/
def modelConstants : List String :=
  ["CONTINUOUS", "INTEGER", "BINARY", "INFINITY", "EQUAL", "LESS_EQUAL", "GREATER_EQUAL",
    "MINIMIZE"]

/-- A module without the constants in `missing` can describe a model. -/
def describesModels (missing : List String) : Bool :=
  modelConstants.all fun name => !missing.contains name

theorem requireLibrary_run {a : GurobiAdapter} {library : GurobiModule}
    (known : a.library = some library) (w : Workspace) :
    requireLibrary.run (a, w) = (.ok library, a, w) := by
  have read : (Adapter.look (·.library)).run (a, w) = (.ok a.library, a, w) := rfl
  unfold requireLibrary
  rw [run_bind, read, known]
  rfl

/-- The module has the constant. -/
def defined (library : GurobiModule) (name : String) : Except Failure Unit :=
  if library.missing.contains name then .error (.missingPart library.constantsType name) else .ok ()

theorem defined_of_has {library : GurobiModule} {name : String}
    (has : library.missing.contains name = false) : defined library name = .ok () := by
  rw [defined, has]
  rfl

theorem constant_answer {a : GurobiAdapter} {library : GurobiModule}
    (known : a.library = some library) (name : String) (w : Workspace) :
    (constant name).run (a, w) = (defined library name, a, w) := by
  unfold constant defined
  rw [run_bind, requireLibrary_run known]
  dsimp only
  cases library.missing.contains name <;> rfl

theorem code_answer {a : GurobiAdapter} {library : GurobiModule}
    (known : a.library = some library) (name : String) (w : Workspace) :
    (code name).run (a, w) = ((defined library name).map fun _ => library.code name, a, w) := by
  unfold code
  rw [run_bind, constant_answer known]
  cases defined library name with
  | error e => rfl
  | ok =>
      dsimp only
      rw [run_bind, requireLibrary_run known]
      rfl

theorem constant_run {a : GurobiAdapter} {library : GurobiModule}
    (known : a.library = some library) (describes : describesModels library.missing = true)
    {name : String} (h : name ∈ modelConstants) (w : Workspace) :
    (constant name).run (a, w) = (.ok (), a, w) := by
  rw [constant_answer known,
    defined_of_has (Bool.not_eq_true' _ ▸ List.all_eq_true.1 describes name h)]

theorem requireModel_run {a : GurobiAdapter} {m : GurobiModel} (h : a.model = some m)
    (part : String) (w : Workspace) : (requireModel part).run (a, w) = (.ok m, a, w) := by
  unfold requireModel
  rw [run_bind, show (Adapter.look (·.model)).run (a, w) = (.ok a.model, a, w) from rfl, h]
  rfl

theorem isInfinite_ofFloat (x : Float) : isInfinite (.ofFloat x) = .ok x.isInf :=
  rfl

/-- The sign of an infinite side is told by comparing it with 0. -/
theorem side_of_isInf (infinity : Float) {x : Float} (infinite : x.isInf = true) :
    side infinity x = .real (if Scalar.lt (.int 0) (.real x) then infinity else -infinity) := by
  unfold side
  cases Number.isInf_iff.1 infinite with
  | inl top =>
      have above : Scalar.lt (.int 0) (.real x) = true :=
        Scalar.lt_iff.2 ⟨((0 : ℤ) : ℝ), ⊤, rfl, top, EReal.coe_lt_top _⟩
      rw [Scalar.ofSide_top top, above]
      rfl
  | inr bot =>
      have notAbove : Scalar.lt (.int 0) (.real x) = false := by
        refine Bool.eq_false_iff.2 fun above => ?_
        obtain ⟨p, q, -, hq, less⟩ := Scalar.lt_iff.1 above
        cases bot.symm.trans hq
        exact not_lt_bot less
      rw [Scalar.ofSide_bot bot, notAbove]
      rfl

theorem readInfinity_run {a : GurobiAdapter} {library : GurobiModule}
    (known : a.library = some library) (describes : describesModels library.missing = true)
    (w : Workspace) : readInfinity.run (a, w) = (.ok library.infinity, a, w) := by
  unfold readInfinity
  rw [run_bind, constant_run known describes (by decide)]
  dsimp only
  rw [run_bind, requireLibrary_run known]
  rfl

theorem mapSide_run {a : GurobiAdapter} {library : GurobiModule}
    (known : a.library = some library) (describes : describesModels library.missing = true)
    (x : Float) (w : Workspace) :
    (mapSide (.ofFloat x)).run (a, w) = (.ok (side library.infinity x), a, w) := by
  unfold mapSide
  rw [run_bind, run_ofExcept, show number (.ofFloat x) = .ok (.real x) from rfl]
  dsimp only
  rw [run_bind, run_ofExcept, isInfinite_ofFloat]
  dsimp only
  cases infinite : x.isInf with
  | false =>
      unfold side
      rw [Scalar.ofSide_finite infinite]
      rfl
  | true =>
      rw [if_pos rfl, run_bind, readInfinity_run known describes, side_of_isInf _ infinite]
      rfl

/-- Every index has its native column, which has the same number. -/
theorem mapM_itemAt {n : ℕ} {terms : List (ℕ × Float)} :
    (∀ t ∈ terms, t.1 < n) →
      (terms.mapM fun t => itemAt (List.range n) (.scalar (.int t.1))) =
        .ok (terms.map Prod.fst) := by
  induction terms with
  | nil => exact fun _ => rfl
  | cons t rest ih =>
      intro inside
      have here : t.1 < (List.range n).length := by
        rw [List.length_range]
        exact inside t List.mem_cons_self
      rw [List.mapM_cons, itemAt_natCast here, ih fun u hu => inside u (List.mem_cons_of_mem _ hu),
        List.getElem_range]
      rfl

/-- The terms of an expression, with the native columns of their indices. -/
theorem terms_run {a : GurobiAdapter} {library : GurobiModule} (known : a.library = some library)
    {n : ℕ} (places : a.columns = List.range n) {e : Expression}
    (inside : ∀ t ∈ e.coefficients.entries, t.1 < n) (w : Workspace) :
    (terms e.handedOver).run (a, w) = (.ok e.native, a, w) := by
  have lookups : e.handedOver.lookups = .ok (e.coefficients.entries.map fun t =>
      (.scalar (.int t.1), .ok (.ofFloat t.2))) := congrArg Except.ok (List.map_map ..)
  unfold terms
  rw [run_bind, run_ofExcept, lookups]
  dsimp only
  rw [run_bind, requireLibrary_run known]
  dsimp only
  have values : (e.coefficients.entries.map fun t =>
      ((.scalar (.int t.1), .ok (.ofFloat t.2)) : Value × Except Failure Value)).mapM (·.2) =
        .ok (e.coefficients.entries.map fun t => .ofFloat t.2) := by
    rw [List.mapM_map]
    exact List.mapM_pure
  rw [run_bind, run_ofExcept, values]
  dsimp only
  rw [run_bind, show (Adapter.look (·.columns)).run (a, w) = (.ok a.columns, a, w) from rfl]
  dsimp only
  rw [run_bind, run_ofExcept, List.mapM_map, places]
  rw [show ((fun l => itemAt (List.range n) l.1) ∘ fun t : ℕ × Float =>
    ((.scalar (.int t.1), .ok (.ofFloat t.2)) : Value × Except Failure Value)) =
      fun t => itemAt (List.range n) (.scalar (.int t.1)) from rfl, mapM_itemAt inside]
  dsimp only
  rw [run_pure, List.zip_map']
  rfl

/-! ## Parts -/

/-- What is to be read of a model stays the same with a column more, if Gurobi has the same in
store. -/
theorem grow_self (columns : ℕ) (reading : GurobiReading) :
    GurobiModel.grow ⟨columns, reading⟩ reading = ⟨columns + 1, reading⟩ := by
  unfold GurobiModel.grow
  simp only [ite_self]

/-- What the adapter goes by, where Gurobi has `g` in store: a module that can describe models, a
model with so many columns, one for each index and in their order, and calls that do not fail. -/
structure Serving (g : GurobiService) (columns : ℕ) (s : GurobiAdapter × Workspace) : Prop where
  library : s.1.library = some g.library
  describes : describesModels g.library.missing = true
  model : s.1.model = some ⟨columns, g.reading⟩
  places : s.1.columns = List.range columns
  quiet : Quiet .gurobi s.2
  service : s.2.gurobi = { g with created := s.2.gurobi.created }

/-- A started adapter has a model without columns. -/
theorem Serving.of_fresh {w w' : Workspace} {s : GurobiAdapter × Workspace}
    (describes : describesModels w.gurobi.library.missing = true) (h : Fresh w s)
    (later : s.2.Noted w') : Serving w.gurobi 0 (s.1, w') := by
  refine ⟨h.library, describes, h.model, h.columns, h.quiet.of_faults later.faults_eq, ?_⟩
  rw [later.gurobi_eq]
  exact h.service

/-- The call for the column at a place. -/
def callOf (infinity : Float) (place : ℕ) (c : Column) : GurobiCall :=
  .addVariable (side infinity c.range.1) (side infinity c.range.2) c.kind
    (c.name.orElse (.text ("x" ++ toString place)))

/-- What stands after columns are handed over: since a workspace `before` the first of them, the
calls have made these columns and nothing else. -/
structure Taking (g : GurobiService) (before : Workspace) (columns : List Column)
    (s : GurobiAdapter × Workspace) : Prop extends Serving g columns.length s where
  tells : before.Tells (columns.mapIdx fun i c => .gurobi (callOf g.library.infinity i c)) 0 s.2

/-- What stands after columns and rows are handed over, and the calls `before` the start. -/
structure Built (g : GurobiService) (before : List NativeCall) (columns : List Column)
    (rows : List Row) (s : GurobiAdapter × Workspace) : Prop
    extends Serving g columns.length s where
  building : ∃ building, s.2.calls = before ++ building ∧
    (GurobiDraft.of building).columns = columns.map (Column.gurobi g.library.infinity) ∧
    List.Forall₂ GurobiRow.Portrays (GurobiDraft.of building).rows (rows.filter fun r => !r.isFree)

theorem giveSide_run {a : GurobiAdapter} {library : GurobiModule}
    (known : a.library = some library) (describes : describesModels library.missing = true)
    {m : GurobiModel} (model : a.model = some m) {w : Workspace} (quiet : Quiet .gurobi w)
    {senseName : String} (h : senseName ∈ modelConstants) (terms : List (ℕ × Value))
    (sense : GurobiSense) (side name : Value) :
    (giveSide terms sense senseName side name).run (a, w) =
      (.ok (), a, w.afterCall (.gurobi (.addRow terms sense side name))) := by
  unfold giveSide
  rw [run_bind, requireModel_run model]
  dsimp only
  rw [run_bind, constant_run known describes h]
  exact quiet.run_call _ a

namespace Serving

variable {g : GurobiService} {columns : ℕ} {a : GurobiAdapter} {w : Workspace}

theorem give_column_run (h : Serving g columns (a, w)) (c : Column) (place : ℕ) :
    (Adapter.give (c.part place)).run (a, w) =
      (.ok (), { a with
        model := some ⟨columns + 1, g.reading⟩
        columns := a.columns ++ [columns] },
        w.afterCall (.gurobi (callOf g.library.infinity place c))) := by
  have found : ∀ name ∈ modelConstants, (constant name).run (a, w) = (.ok (), a, w) :=
    fun name mem => constant_run h.library h.describes mem w
  have reading : w.gurobi.reading = g.reading := congrArg (·.reading) h.service
  show (giveColumn c.kind (.ofFloat c.range.1) (.ofFloat c.range.2) _).run (a, w) = _
  unfold giveColumn
  rw [run_bind, found _ (by decide)]
  dsimp only
  rw [run_bind, found _ (by decide)]
  dsimp only
  rw [run_bind, found _ (by decide)]
  dsimp only
  rw [run_bind, requireModel_run h.model]
  dsimp only
  rw [run_bind, mapSide_run h.library h.describes]
  dsimp only
  rw [run_bind, mapSide_run h.library h.describes]
  dsimp only
  rw [run_bind, h.quiet.run_call, ← grow_self, ← reading]
  rfl

/-- A column gets the next number. -/
theorem with_column (h : Serving g columns (a, w)) (c : NativeCall) :
    Serving g (columns + 1)
      ({ a with
        model := some ⟨columns + 1, g.reading⟩
        columns := a.columns ++ [columns] }, w.afterCall c) := by
  refine ⟨h.library, h.describes, rfl, ?_, h.quiet, h.service⟩
  rw [List.range_succ, ← h.places]

/-- A row is sent as it should be, or there is no call. -/
theorem give_row_run (h : Serving g columns (a, w)) {r : Row}
    (inside : ∀ t ∈ r.expression.coefficients.entries, t.1 < columns) (place : ℕ) :
    ∃ w', (Adapter.give (r.part place)).run (a, w) = (.ok (), a, w') ∧
      match r.call? (r.name.orElse (.text ("c" ++ toString place))) with
      | some c => w' = w.afterCall (.gurobi c)
      | none => w.Noted w' := by
  have side := @giveSide_run _ _ h.library h.describes _ h.model _ h.quiet
  show ∃ w', (giveRow r.expression.handedOver (.ofFloat r.bound.range.1)
    (.ofFloat r.bound.range.2) _).run (a, w) = _ ∧ _
  unfold giveRow Row.call?
  dsimp only
  have compared : (Value.ofFloat r.bound.range.1).same (.ofFloat r.bound.range.2) =
      (Scalar.real r.bound.range.1).same (.real r.bound.range.2) := by
    simp [Value.ofFloat, Value.same]
  rw [run_bind, terms_run h.library h.places inside, compared]
  dsimp only
  cases (Scalar.real r.bound.range.1).same (.real r.bound.range.2) with
  | true => exact ⟨_, side (by decide) _ _ _ _, rfl⟩
  | false =>
      simp only [Bool.false_eq_true, if_false, run_bind, run_ofExcept, isInfinite_ofFloat]
      cases r.bound.range.1.isInf with
      | true =>
          cases r.bound.range.2.isInf with
          | true =>
              obtain ⟨w', logged, noted⟩ := logShowing_run
                [r.name.orElse (.text ("c" ++ toString place))] .gurobi .debug
                ("Row '" ++ (r.name.orElse (.text ("c" ++ toString place))).shown ++
                  "' is free; not sent to Gurobi") w
              refine ⟨w', ?_, noted⟩
              rw [Bool.and_self, if_pos rfl, run_liftM, logged]
          | false => exact ⟨_, side (by decide) _ _ _ _, rfl⟩
      | false =>
          cases r.bound.range.2.isInf with
          | true => exact ⟨_, side (by decide) _ _ _ _, rfl⟩
          | false =>
              simp only [Bool.and_self, Bool.false_eq_true, if_false]
              rw [run_bind, requireModel_run h.model]
              exact ⟨_, h.quiet.run_call _ a, rfl⟩

theorem give_objective_run (h : Serving g columns (a, w)) {e : Expression}
    (inside : ∀ t ∈ e.coefficients.entries, t.1 < columns) :
    (Adapter.give (.objective e.handedOver)).run (a, w) =
      (.ok (), a, w.afterCall (.gurobi (.setObjective e.native .minimize))) := by
  show (giveObjective e.handedOver).run (a, w) = _
  unfold giveObjective
  rw [run_bind, requireModel_run h.model]
  dsimp only
  rw [run_bind, terms_run h.library h.places inside]
  dsimp only
  rw [run_bind, constant_run h.library h.describes (by decide)]
  exact h.quiet.run_call _ a

theorem of_noted (h : Serving g columns (a, w)) {w' : Workspace} (later : w.Noted w') :
    Serving g columns (a, w') := by
  refine ⟨h.library, h.describes, h.model, h.places, h.quiet.of_faults later.faults_eq, ?_⟩
  rw [later.gurobi_eq]
  exact h.service

theorem afterCall (h : Serving g columns (a, w)) (c : NativeCall) :
    Serving g columns (a, w.afterCall c) :=
  ⟨h.library, h.describes, h.model, h.places, h.quiet, h.service⟩

end Serving

/-- The adapter takes every part of a problem that passes the check, whatever its sides are. -/
theorem takes {models : Store} {p : Ref Program} {problem : Problem}
    (sound : Sound models (.proper p) problem) (g : GurobiService) (before : Workspace) :
    Assembles GurobiAdapter problem (fun columns _ s => Taking g before columns s)
      (Taking g before problem.columns) where
  column := by
    rintro done c ⟨a, w⟩ - taking
    refine ⟨_, taking.toServing.give_column_run c done.length, ?_, ?_⟩
    · rw [List.length_append]
      exact taking.toServing.with_column _
    · rw [List.mapIdx_concat]
      exact taking.tells.trans (.afterCall w (.gurobi (callOf g.library.infinity done.length c)))
  row := by
    rintro done r ⟨a, w⟩ hr taking
    obtain ⟨w', ran, sent⟩ := taking.toServing.give_row_run (sound.lt_of_mem_row hr) done.length
    refine ⟨_, ran, ?_⟩
    unfold Row.call? at sent
    -- a row comes in one of four calls or not at all, and none of these makes a column
    have sends : ∀ c : GurobiCall, (NativeCall.gurobi c).makes = false →
        (NativeCall.gurobi c).solves = false → w' = w.afterCall (.gurobi c) →
        Taking g before problem.columns (a, w') := by
      rintro c made solves rfl
      refine ⟨taking.toServing.afterCall _, taking.tells.and_nothing ?_⟩
      exact .of_none (w.calls_afterCall _) (List.forall_mem_singleton.2 ⟨made, solves⟩)
    dsimp only at sent
    split_ifs at sent
    · exact sends _ rfl rfl sent
    · exact ⟨taking.toServing.of_noted sent,
        taking.tells.and_nothing (.of_calls_eq sent.calls_eq)⟩
    · exact sends _ rfl rfl sent
    · exact sends _ rfl rfl sent
    · exact sends _ rfl rfl sent
  objective := by
    rintro ⟨a, w⟩ taking
    refine ⟨_, taking.toServing.give_objective_run sound.lt_of_mem_objective,
      taking.toServing.afterCall _, taking.tells.and_nothing ?_⟩
    exact .of_none (w.calls_afterCall _) (List.forall_mem_singleton.2 ⟨rfl, rfl⟩)

namespace Built

variable {g : GurobiService} {before : List NativeCall} {columns : List Column} {rows : List Row}
  {s : GurobiAdapter × Workspace}

/-- A column is handed over. -/
theorem give_column (h : Built g before columns rows s) (c : Column) (place : ℕ) :
    ∃ s', (Adapter.give (c.part place)).run s = (.ok (), s') ∧
      Built g before (columns ++ [c]) rows s' := by
  obtain ⟨building, calls, portrayed, same⟩ := h.building
  refine ⟨_, h.toServing.give_column_run c place, ?_,
    building ++ [.gurobi (callOf g.library.infinity place c)], ?_, ?_, ?_⟩
  · rw [List.length_append]
    exact h.toServing.with_column _
  · rw [Workspace.calls_afterCall, calls, List.append_assoc]
  · rw [GurobiDraft.of_append, List.map_append, ← portrayed]
    rfl
  · rw [GurobiDraft.of_append]
    exact same

/-- A row is handed over, if only by not sending it. -/
theorem give_row (h : Built g before columns rows s) {r : Row} (ordered : r.bound.Ordered)
    (numeric : r.bound.isNumeric = true)
    (inside : ∀ t ∈ r.expression.coefficients.entries, t.1 < columns.length) (place : ℕ) :
    ∃ s', (Adapter.give (r.part place)).run s = (.ok (), s') ∧
      Built g before columns (rows ++ [r]) s' := by
  obtain ⟨building, calls, same, portrayed⟩ := h.building
  obtain ⟨w', ran, sent⟩ := h.toServing.give_row_run inside place
  have spec := Row.call?_spec ordered numeric (r.name.orElse (.text ("c" ++ toString place)))
  refine ⟨_, ran, ?_⟩
  cases call : r.call? (r.name.orElse (.text ("c" ++ toString place))) with
  | none =>
      rw [call] at sent spec
      refine ⟨h.toServing.of_noted sent, building, sent.calls_eq.trans calls, same, ?_⟩
      rw [List.filter_append, List.filter_cons_of_neg (by simp [spec]), List.filter_nil,
        List.append_nil]
      exact portrayed
  | some c =>
      rw [call] at sent spec
      obtain ⟨notFree, n, portrays, taken⟩ := spec
      cases sent
      refine ⟨h.toServing.afterCall _, building ++ [.gurobi c], ?_, ?_, ?_⟩
      · rw [Workspace.calls_afterCall, calls, List.append_assoc]
      · rw [GurobiDraft.of_append]
        show ((GurobiDraft.of building).take c).columns = _
        rw [taken]
        exact same
      · rw [GurobiDraft.of_append, List.filter_append,
          List.filter_cons_of_pos (by simp [notFree]), List.filter_nil]
        show List.Forall₂ _ ((GurobiDraft.of building).take c).rows _
        rw [taken]
        exact List.rel_append portrayed (.cons portrays .nil)

/-- The objective is handed over, and the model is there. -/
theorem give_objective {problem : Problem} (h : Built g before problem.columns problem.rows s)
    (inside : ∀ t ∈ problem.objective.coefficients.entries, t.1 < problem.columns.length) :
    ∃ s', (Adapter.give (.objective problem.objective.handedOver)).run s = (.ok (), s') ∧
      (∃ m, s'.1.model = some m) ∧ Quiet .gurobi s'.2 ∧
      ∃ building, s'.2.calls = before ++ building ∧
        (GurobiDraft.of building).Portrays g.library.infinity problem := by
  obtain ⟨building, calls, columns, rows⟩ := h.building
  refine ⟨_, h.toServing.give_objective_run inside, ⟨_, h.model⟩, h.quiet,
    building ++ [.gurobi (.setObjective problem.objective.native .minimize)], ?_, ?_⟩
  · rw [Workspace.calls_afterCall, calls, List.append_assoc]
  · rw [GurobiDraft.of_append]
    exact ⟨columns, rows, rfl, rfl⟩

/-- Nothing is built yet when the adapter is started. -/
theorem of_fresh {w w' : Workspace} (describes : describesModels w.gurobi.library.missing = true)
    (h : Fresh w s) (later : s.2.Noted w') :
    Built w.gurobi w.calls [] [] (s.1, w') := by
  obtain ⟨opening, env, settings, calls, -, prepare⟩ := h.calls
  have empty : GurobiDraft.of (opening ++ .gurobi (.createModel env) :: settings) = .empty := by
    rw [GurobiDraft.of_append]
    exact foldl_of_leaves (fun c hc => GurobiDraft.leaves_of_prepares (prepare c hc)) .empty
  refine ⟨.of_fresh describes h later, opening ++ .gurobi (.createModel env) :: settings,
    later.calls_eq.trans calls, ?_, ?_⟩
  · rw [empty]
    rfl
  · rw [empty]
    exact .nil

end Built

/-- The adapter takes every part of a problem that passes the check, if the sides of its rows are
numbers in their order. -/
theorem assembles {models : Store} {p : Ref Program} {problem : Problem}
    (sound : Sound models (.proper p) problem) (ordered : ∀ r ∈ problem.rows, r.bound.Ordered)
    (numeric : ∀ r ∈ problem.rows, r.bound.isNumeric = true) {g : GurobiService}
    (before : List NativeCall) :
    Assembles GurobiAdapter problem (fun columns rows s => Built g before columns rows s)
      (fun s => (∃ m, s.1.model = some m) ∧ Quiet .gurobi s.2 ∧
        ∃ building, s.2.calls = before ++ building ∧
          (GurobiDraft.of building).Portrays g.library.infinity problem) where
  column := fun _ built => built.give_column _ _
  row := fun hr built => built.give_row (ordered _ hr) (numeric _ hr) (sound.lt_of_mem_row hr) _
  objective := fun built => built.give_objective sound.lt_of_mem_objective

/-! ## Solving -/

/-- A call that solves the model again, or that lets go of it and of the environment. -/
def Finishes : NativeCall → Prop
  | .gurobi .optimize | .gurobi (.setParameter ..) | .gurobi .disposeModel
  | .gurobi (.disposeEnvironment _) => True
  | _ => False

theorem requireLibrary_makes {P : NativeCall → Prop} : Makes Prod.snd P requireLibrary := by
  refine makes_bind (makes_look _) fun library => ?_
  cases library with
  | none => exact makes_fail _
  | some library => exact makes_pure _

theorem requireModel_makes {P : NativeCall → Prop} (part : String) :
    Makes Prod.snd P (requireModel part) := by
  refine makes_bind (makes_look _) fun model => ?_
  cases model with
  | none => exact makes_fail _
  | some m => exact makes_pure m

theorem constant_makes {P : NativeCall → Prop} (name : String) :
    Makes Prod.snd P (constant name) :=
  makes_bind requireLibrary_makes fun _ => makes_check _

theorem code_makes {P : NativeCall → Prop} (name : String) : Makes Prod.snd P (code name) :=
  makes_bind (constant_makes _) fun _ => makes_bind requireLibrary_makes fun _ => makes_pure _

theorem meaning_makes {P : NativeCall → Prop} (status : Value)
    (meanings : List (String × Status)) : Makes Prod.snd P (meaning status meanings) := by
  induction meanings with
  | nil => exact makes_pure _
  | cons m rest ih => exact makes_bind (code_makes _) fun _ => makes_ite (makes_pure _) ih

theorem classify_makes {P : NativeCall → Prop} (count : Except Failure Value) (status : Value) :
    Makes Prod.snd P (classify count status) := by
  refine makes_bind (meaning_makes _ _) fun meant => ?_
  cases meant with
  | some meant => exact makes_pure _
  | none =>
      refine makes_bind requireLibrary_makes fun library => makes_bind (makes_check _) fun _ => ?_
      exact makes_ite (makes_bind (makes_ofExcept _) fun _ => makes_pure _) (makes_pure _)

theorem optimize_makes : Makes id Finishes GurobiService.optimize :=
  makes_bind (makes_call trivial) fun _ => makes_bind (makes_gets _) fun _ =>
    makes_bind (makes_modify fun _ => .of_eq rfl rfl rfl) fun _ => makes_pure _

theorem runOnce_makes : Makes Prod.snd Finishes runOnce :=
  makes_bind (makes_onSecond optimize_makes) fun _ =>
    makes_bind (makes_remember _) fun _ => makes_pure _

/-- A run of the model is one call, whatever is kept of its answer. -/
theorem calls_runOnce (a : GurobiAdapter) {w : Workspace} (quiet : Quiet .gurobi w) :
    (runOnce.run (a, w)).2.2.calls = w.calls ++ [.gurobi .optimize] := by
  have optimized : ∃ answer w', GurobiService.optimize.run w = (.ok answer, w') ∧
      w'.calls = w.calls ++ [.gurobi .optimize] := by
    unfold GurobiService.optimize
    rw [run_bind, run_call, quiet]
    exact ⟨_, _, rfl, w.calls_afterCall _⟩
  obtain ⟨answer, w', ran, calls⟩ := optimized
  unfold runOnce
  rw [run_bind, run_liftM, ran]
  exact calls

/-- Telling the adapter to solve has Gurobi solve the model as it is then. -/
theorem solve_calls {a : GurobiAdapter} {m : GurobiModel} (model : a.model = some m) {w : Workspace}
    (quiet : Quiet .gurobi w) :
    ∃ rest, (Adapter.solve.run (a, w)).2.2.calls =
        w.calls ++ .gurobi .update :: .gurobi .optimize :: rest ∧
      ∀ c ∈ rest, Finishes c := by
  have quiet₁ : Quiet .gurobi (w.afterCall (.gurobi .update)) := quiet
  have later : (runOnce.run (a, w.afterCall (.gurobi .update))).2.2.Extends Finishes
      (Adapter.solve.run (a, w)).2.2 := by
    show Workspace.Extends Finishes _ ((solve >>= fun status => pure (.proper status) :
      Action (GurobiAdapter × Workspace) (Given Status)).run (a, w)).2.2
    unfold solve
    rw [bind_assoc, run_bind, requireModel_run model]
    dsimp only
    rw [bind_assoc, run_bind, quiet.run_call]
    dsimp only
    rw [bind_assoc]
    refine makes_after (fun first => ?_) (a, w.afterCall (.gurobi .update))
    have classifies : ∀ last, Makes Prod.snd Finishes
        (requireModel "SolCount" >>= fun model => classify model.reading.solutionCount last) :=
      fun last => makes_bind (requireModel_makes _) fun model => classify_makes _ last
    refine makes_bind (makes_bind (code_makes _) fun _ => ?_) fun _ => makes_pure _
    refine makes_ite ?_ (classifies first)
    refine makes_bind (makes_onSecond (makes_log _ _ _)) fun _ => ?_
    refine makes_bind (makes_onSecond (makes_call trivial)) fun _ => ?_
    exact makes_bind runOnce_makes classifies
  obtain ⟨rest, calls, finishes⟩ := later.calls
  refine ⟨rest, ?_, finishes⟩
  rw [calls, calls_runOnce a quiet₁, Workspace.calls_afterCall, List.append_assoc,
    List.append_assoc]
  rfl

/-- With a model, the adapter asks the library. -/
theorem version_run {g : GurobiAdapter} {m : GurobiModel} (model : g.model = some m)
    (w : Workspace) :
    (Adapter.version (A := GurobiAdapter)).run (g, w) =
      (w.gurobi.version.map fun version => .text (versionText version), g, w) := by
  obtain ⟨environment, acquired, library, model', columns⟩ := g
  cases model
  show (Action.gets (fun s => s.2.gurobi.version) >>= fun told =>
    Action.ofExcept told >>= fun version => pure (.text (versionText version)) :
      Action (GurobiAdapter × Workspace) Value).run _ = _
  rw [run_bind, run_gets]
  dsimp only
  rw [run_bind, run_ofExcept]
  cases w.gurobi.version <;> rfl

theorem replies : Adapter.Replies GurobiAdapter := by
  rintro ⟨⟨environment, acquired, library, model, columns⟩, w⟩
  cases model with
  | none => exact ⟨_, rfl⟩
  | some m => exact ⟨_, version_run rfl w⟩

/-- The adapter tells its version if the library does. -/
theorem tells_version {s : GurobiAdapter × Workspace}
    (versioned : s.2.gurobi.version.isOk = true) : Adapter.Tells s := by
  refine replies.tells ?_
  obtain ⟨⟨environment, acquired, library, model, columns⟩, w⟩ := s
  cases model with
  | none => rfl
  | some m =>
      rw [version_run rfl w, isOk_map]
      exact versioned

section

variable {P : NativeCall → Prop} (environments : ∀ env, P (.gurobi (.disposeEnvironment env)))

include environments

theorem release_makes (r : Ref SharedEnvironment) :
    Makes id P (SharedEnvironment.release r) := by
  have changes : ∀ f, Makes id P (SharedEnvironment.change r f) :=
    fun f => makes_modify fun _ => .of_eq rfl rfl rfl
  have disposes : ∀ env, Makes id P (SharedEnvironment.dispose r env) := by
    intro env
    refine makes_bind (makes_gets _) fun h => ?_
    cases h.source with
    | gurobi => exact makes_call (environments env)
    | script make dispose =>
        exact makes_bind (makes_record rfl) fun _ => makes_bind (changes _) fun _ => makes_check _
  have ends : Makes id P (SharedEnvironment.teardown r) := by
    refine makes_bind (makes_gets _) fun h => ?_
    cases h.environment with
    | none => exact makes_pure _
    | some env =>
        exact makes_bind (changes _) fun _ =>
          makes_bind (makes_logShowing _ _ _ _) fun _ => disposes env
  refine makes_bind (makes_gets _) fun h => makes_ite (makes_fail _) ?_
  exact makes_bind (changes _) fun _ => makes_ite ends (makes_pure _)

/-- After its solve the adapter lets go of everything. -/
theorem settles_of (model : P (.gurobi .disposeModel)) : Adapter.Settles GurobiAdapter P where
  values := by
    refine makes_bind (makes_look _) fun a => ?_
    cases a.model with
    | none => exact makes_pure _
    | some m => exact makes_bind (makes_ofExcept _) fun _ => makes_pure _
  objectiveValue := makes_bind (requireModel_makes _) fun _ => makes_ofExcept _
  close := by
    have lets : Makes Prod.snd P (do
        Adapter.remember fun a => { a with acquired := false }
        let r ← shared "release"
        SharedEnvironment.release r : Action (GurobiAdapter × Workspace) Unit) :=
      makes_bind (makes_remember _) fun _ => makes_bind
        (makes_bind (makes_look _) fun _ => makes_ofExcept _) fun r =>
          makes_onSecond (release_makes environments r)
    have ends : ∀ a : GurobiAdapter, Makes Prod.snd P (do
        Adapter.remember fun a => { a with columns := [] }
        if a.acquired then do
          Adapter.remember fun a => { a with acquired := false }
          let r ← shared "release"
          SharedEnvironment.release r : Action (GurobiAdapter × Workspace) Unit) :=
      fun a => makes_bind (makes_remember _) fun _ => makes_ite lets (makes_pure _)
    show Makes Prod.snd P close
    refine makes_bind (makes_look _) fun a => ?_
    refine makes_ite ?_ (ends a)
    refine makes_bind (makes_onSecond (makes_call model)) fun _ => ?_
    exact makes_bind (makes_remember _) fun _ => ends a

end

theorem settles : Adapter.Settles GurobiAdapter Finishes :=
  settles_of (fun _ => trivial) trivial

end GurobiAdapter

namespace Sample

/-- Builds a program with one binary column between -1 and 3 and a row that bounds it from above. -/
def operations : List Model.Operation :=
  [.newVariable (.member .binary) (.text "x"),
    .shapeBound ⟨0⟩ (.member .double) (.ofFloat (-1.0)) (.ofFloat 3.0),
    .newConstraint (some (.terms (.pairs [(.ofInt 0, .ofFloat 1.0)]))) (some (.member .upper))
      (.ofFloat Number.negInfinity) (.ofFloat 2.0) (.text "r"),
    .newProgram .none, .appendVariables ⟨0⟩ [.proper ⟨0⟩], .appendConstraints ⟨0⟩ [.proper ⟨0⟩]]

/-- A workspace without model objects, with Gurobi as its one backend. -/
def blank : Workspace :=
  { registered (.gurobi (.proper gurobiEnvironment)) with models := .empty }

/-- The models with that program. They are not to be computed in passing. -/
@[irreducible] def models : Store :=
  (Model.performAll operations blank).models

theorem reachable_models : Model.Reachable models := by
  unfold models
  exact Model.Reachable.performAll operations .empty

/-- The workspace with that program. -/
def built : Workspace :=
  { blank with models }

end Sample

namespace Solver

/-- A solve with Gurobi builds the problem, call by call, and has it solved: a model is created
that has the columns and the objective of the problem, to be minimized, and each row that constrains
something, sent so that it admits what its range lets through. So it stands for the program. It gets
that far whenever the adapter can be started and Gurobi tells its version, which is written into the
log. -/
theorem gurobi_model {p : Ref Program} {backend : Value} {parameters : Option (Given Parameters)}
    {s : Solver × Workspace} {environment : Given (Ref SharedEnvironment)}
    (check : Model.defectMessages s.2.models (.proper p) = .ok [])
    (reachable : Model.Reachable s.2.models)
    (numeric : ∀ r ∈ (s.2.models.problem p).rows, r.bound.isNumeric = true)
    (registered : Registry.lookup backend s.2 = .ok (some (.gurobi environment)))
    (quiet : Quiet .gurobi s.2) (versioned : s.2.gurobi.version.isOk = true)
    (describes : GurobiAdapter.describesModels s.2.gurobi.library.missing = true)
    (one : (Scalar.int 1).lt (.real s.2.gurobi.library.infinity) = true) :
    (((Adapter.start (s.1.parameters.replacedBy parameters)).run
        (GurobiAdapter.make environment, s.2)).1.isOk = true ↔
      GurobiAdapter.CanStart (environment.orElse (.proper gurobiEnvironment)) s.2
        (s.1.parameters.replacedBy parameters)) ∧
    (GurobiAdapter.CanStart (environment.orElse (.proper gurobiEnvironment)) s.2
        (s.1.parameters.replacedBy parameters) →
      ∃ building rest,
        ((solve (.proper p) backend parameters).run s).2.2.calls =
          s.2.calls ++ building ++ .gurobi .update :: .gurobi .optimize :: rest ∧
        (∀ c ∈ rest, GurobiAdapter.Finishes c) ∧
        (GurobiDraft.of building).Portrays s.2.gurobi.library.infinity (s.2.models.problem p) ∧
        (GurobiDraft.of building).Represents s.2.gurobi.library.infinity s.2.models p) := by
  obtain ⟨starts, fresh⟩ :=
    GurobiAdapter.start_run environment (s.1.parameters.replacedBy parameters) quiet
  refine ⟨starts, fun can => ?_⟩
  have sound : Sound s.2.models (.proper p) (s.2.models.problem p) := ⟨⟨p, rfl, rfl⟩, check⟩
  have ordered : ∀ r ∈ (s.2.models.problem p).rows, r.bound.Ordered := by
    intro r hr
    obtain ⟨c, -, rfl⟩ := List.mem_map.1 hr
    exact reachable.ordered _
  obtain ⟨⟨⟩, s₁, ran⟩ := exists_run_of_isOk (starts.2 can)
  have tells : Adapter.Tells s₁ :=
    GurobiAdapter.tells_version ((fresh s₁ ran).version ▸ versioned)
  obtain ⟨⟨a, w⟩, ⟨⟨m, model⟩, quiet', building, calls, portrays⟩, later⟩ :=
    solve_extends Backend.carries_gurobi GurobiAdapter.settles check registered rfl (fun _ => rfl)
      ran tells (GurobiAdapter.assembles sound ordered numeric s.2.calls)
      fun w hw => GurobiAdapter.Built.of_fresh describes (fresh s₁ ran) hw
  obtain ⟨rest, solved, finishes⟩ := GurobiAdapter.solve_calls model quiet'
  obtain ⟨more, called, finishes'⟩ := later.calls
  refine ⟨building, rest ++ more, ?_, fun c hc => ?_, portrays,
    portrays.represents one⟩
  · rw [called, solved, calls, List.append_assoc]
    rfl
  · exact (List.mem_append.1 hc).elim (finishes c) (finishes' c)

/-- The small program, built step by step and solved with Gurobi. -/
theorem gurobi_model_built :
    let s : Solver × Workspace := (new none, Sample.built)
    GurobiAdapter.CanStart (.proper gurobiEnvironment) s.2 s.1.parameters ∧
    ∃ building rest,
      ((solve Sample.program Sample.backend none).run s).2.2.calls =
        s.2.calls ++ building ++ .gurobi .update :: .gurobi .optimize :: rest ∧
      (∀ c ∈ rest, GurobiAdapter.Finishes c) ∧
      (GurobiDraft.of building).Portrays 1e100 (s.2.models.problem ⟨0⟩) ∧
      (GurobiDraft.of building).Represents 1e100 s.2.models ⟨0⟩ := by
  intro s
  have can : GurobiAdapter.CanStart (.proper gurobiEnvironment) s.2 s.1.parameters :=
    ⟨rfl, ⟨gurobiEnvironment, rfl, .inr trivial⟩, .default, rfl⟩
  have check : Model.defectMessages s.2.models (.proper ⟨0⟩) = .ok [] := by decide +kernel
  have numeric : ∀ r ∈ (s.2.models.problem ⟨0⟩).rows, r.bound.isNumeric = true := by
    decide +kernel
  have registered : Registry.lookup Sample.backend s.2 =
      .ok (some (.gurobi (.proper gurobiEnvironment))) :=
    Sample.lookup_registered (.gurobi (.proper gurobiEnvironment))
  have describes : GurobiAdapter.describesModels s.2.gurobi.library.missing = true := by
    decide +kernel
  have quiet : Quiet .gurobi s.2 := fun _ _ => rfl
  have one : (Scalar.int 1).lt (.real s.2.gurobi.library.infinity) = true := by decide +kernel
  exact ⟨can,
    (gurobi_model check Sample.reachable_models numeric registered quiet rfl describes one).2 can⟩

end Solver

end LinearDispatch
