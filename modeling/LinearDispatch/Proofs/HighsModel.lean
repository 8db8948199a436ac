import LinearDispatch.Proofs.Assembly
import LinearDispatch.Proofs.FirstFailure
import LinearDispatch.Proofs.GridArrays

/-!
# The model that HiGHS receives

HiGHS is called with a whole model. The adapter collects the parts of a problem in lists that run
side by side, one entry for each column, for each row and for each coefficient, and makes the model
of them when it is told to solve. This file proves that the model is the problem: a cost for each
column, its kind and its range, and a matrix with the coefficient of each row at each column.

`Collected` is the invariant that ties the lists to the columns and rows handed over so far. The
row number of a coefficient is the number of rows before it, so the entries of the matrix are at
places of their own. The vectors and the matrix themselves are made by the array library, of which
it is used that it keeps numbers that fit, `ArrayLibrary.Keeps`.
-/

namespace LinearDispatch

open LinearDispatch.Action
open ArrayLibrary (place unread)

/-! ## What a model says -/

/-- What stands at a place of the matrix; 0 where there is no entry. -/
def HighsRows.cell (m : HighsRows) (row column : ℕ) : Float :=
  ((m.entries.find? fun e => place e = (row, column)).map (·.2.2)).getD 0.0

/-- The matrix and the sides are those of the rows of a problem. -/
structure HighsRows.Portrays (m : HighsRows) (problem : Problem) : Prop where
  inside : ∀ e ∈ m.entries, e.1 < problem.rowCount ∧ e.2.1 < problem.columns.length
  distinct : (m.entries.map place).Nodup
  cells : ∀ i r, problem.rows[i]? = some r → ∀ j, m.cell i j = r.expression.coefficient j
  lower : m.lower = problem.rows.map (·.bound.range.1)
  upper : m.upper = problem.rows.map (·.bound.range.2)
  length : problem.rows.length = problem.rowCount

/-- The model is a problem: costs, kinds and ranges column by column, and the rows if there are
any. -/
structure HighsModel.Portrays (m : HighsModel) (problem : Problem) : Prop where
  cost : m.cost = (List.range problem.columns.length).map problem.objective.coefficient
  integrality : m.integrality =
    problem.columns.map fun c => if c.kind = .continuous then 0 else 1
  lower : m.lower = problem.columns.map (·.range.1)
  upper : m.upper = problem.columns.map (·.range.2)
  rows : match m.rows with
    | none => problem.rowCount = 0
    | some rows => problem.rowCount ≠ 0 ∧ rows.Portrays problem

/-! ## The costs -/

namespace HighsAdapter

/-- Terms as they stand in the cost mapping. -/
def costEntries (terms : List (ℕ × Float)) : List (Key × Value) :=
  terms.map fun t => (.scalar (.int t.1), .ofFloat t.2)

variable {arrays : ArrayLibrary}

/-- Storing costs replaces those of the columns that are mentioned and keeps the others. -/
theorem foldlM_storeCost (keeps : arrays.Keeps) {terms : List (ℕ × Float)}
    (distinct : (terms.map Prod.fst).Nodup) :
    ∀ {costs : List Float}, (∀ t ∈ terms, t.1 < costs.length) →
      ∃ stored, (costEntries terms).foldlM (fun costs e => arrays.storeCost costs e.1 e.2) costs =
          .ok stored ∧ stored.length = costs.length ∧
        ∀ j (h : j < costs.length), stored[j]? =
          some (((terms.find? fun t => t.1 = j).map Prod.snd).getD costs[j]) := by
  induction terms with
  | nil => exact fun _ => ⟨_, rfl, rfl, fun j h => List.getElem?_eq_getElem h⟩
  | cons t rest ih =>
      intro costs known
      rw [List.map_cons, List.nodup_cons] at distinct
      have here := known t List.mem_cons_self
      have later : ∀ u ∈ rest, u.1 < (costs.set t.1 t.2).length := fun u hu => by
        rw [List.length_set]
        exact known u (List.mem_cons_of_mem _ hu)
      obtain ⟨stored, run, length, at_⟩ := ih distinct.2 later
      rw [List.length_set] at length
      refine ⟨stored, ?_, length, fun j h => ?_⟩
      · unfold costEntries at run ⊢
        rw [List.map_cons, List.foldlM_cons, keeps.storeCost here]
        exact run
      · rw [at_ j (by rwa [List.length_set]), List.find?_cons, List.getElem_set]
        by_cases same : t.1 = j
        · have none : rest.find? (fun u => u.1 = j) = none := by
            refine List.find?_eq_none.2 fun u hu other => distinct.1 ?_
            rw [same, ← of_decide_eq_true other]
            exact List.mem_map_of_mem hu
          simp only [none, same, decide_true, if_true, Option.map_some, Option.map_none,
            Option.getD_none, Option.getD_some]
        · simp only [same, decide_false, if_false]

/-- The cost of each column is its coefficient. -/
theorem costVector_run (keeps : arrays.Keeps) {e : Expression} {columns : ℕ}
    (known : ∀ t ∈ e.coefficients.entries, t.1 < columns) :
    costVector arrays columns (costEntries e.coefficients.entries) =
      .ok ((List.range columns).map e.coefficient) := by
  have fits : ∀ t ∈ e.coefficients.entries, t.1 < (List.replicate columns 0.0).length := by
    rwa [List.length_replicate]
  obtain ⟨stored, run, length, at_⟩ := foldlM_storeCost keeps e.coefficients.distinct fits
  rw [List.length_replicate] at length
  unfold costVector
  rw [run]
  refine congrArg Except.ok (List.ext_getElem? fun j => ?_)
  by_cases h : j < columns
  · rw [at_ j (by rwa [List.length_replicate]), List.getElem_replicate, List.getElem?_map,
      List.getElem?_range h]
    rfl
  · rw [List.getElem?_eq_none (by omega), List.getElem?_eq_none]
    rw [List.length_map, List.length_range]
    omega

/-! ## The matrix -/

/-- The coefficients of rows, each with the number of its row. -/
def rowEntries (rows : List Row) : List (ℕ × ℕ × Float) :=
  (rows.mapIdx fun i r => r.expression.coefficients.entries.map fun t => (i, t.1, t.2)).flatten

theorem rowEntries_concat (rows : List Row) (r : Row) :
    rowEntries (rows ++ [r]) = rowEntries rows ++
      r.expression.coefficients.entries.map fun t => (rows.length, t.1, t.2) := by
  unfold rowEntries
  rw [List.mapIdx_concat, List.flatten_append, List.flatten_singleton]

theorem mem_rowEntries {rows : List Row} {i j : ℕ} {x : Float} :
    (i, j, x) ∈ rowEntries rows ↔
      ∃ r, rows[i]? = some r ∧ (j, x) ∈ r.expression.coefficients.entries := by
  unfold rowEntries
  constructor
  · intro h
    obtain ⟨row, hrow, here⟩ := List.mem_flatten.1 h
    obtain ⟨k, hk, rfl⟩ := List.mem_mapIdx.1 hrow
    obtain ⟨t, ht, same⟩ := List.mem_map.1 here
    cases same
    exact ⟨_, List.getElem?_eq_getElem hk, ht⟩
  · rintro ⟨r, hr, ht⟩
    obtain ⟨hi, rfl⟩ := List.getElem?_eq_some_iff.1 hr
    exact List.mem_flatten.2 ⟨_, List.mem_mapIdx.2 ⟨i, hi, rfl⟩, List.mem_map.2 ⟨_, ht, rfl⟩⟩

/-- No two coefficients are at one place: rows have numbers of their own, and a row mentions a
column once. -/
theorem nodup_rowEntries (rows : List Row) : ((rowEntries rows).map place).Nodup := by
  induction rows using List.reverseRecOn with
  | nil => exact List.nodup_nil
  | append_singleton rows r ih =>
      rw [rowEntries_concat, List.map_append, List.map_map]
      refine List.nodup_append.2 ⟨ih, ?_, ?_⟩
      · have columns := r.expression.coefficients.distinct
        have placed := columns.map (f := fun j => (rows.length, j)) fun _ _ => congrArg Prod.snd
        rwa [List.map_map] at placed
      · intro a ha b hb
        obtain ⟨⟨i, j, x⟩, he, rfl⟩ := List.mem_map.1 ha
        obtain ⟨t, -, rfl⟩ := List.mem_map.1 hb
        obtain ⟨row, hrow, -⟩ := mem_rowEntries.1 he
        have := (List.getElem?_eq_some_iff.1 hrow).1
        intro same
        have rows : i = rows.length := congrArg Prod.fst same
        omega

/-! ## Collecting the parts -/

/-- What has been collected of the columns and rows handed over so far. -/
structure Collected (columns : List Column) (rows : List Row) (a : HighsAdapter) : Prop where
  started : a.started = true
  columnLower : a.columnLower = (columns.map (·.range.1)).map Value.ofFloat
  columnUpper : a.columnUpper = (columns.map (·.range.2)).map Value.ofFloat
  integrality : a.integrality = columns.map fun c => if c.kind = .continuous then 0 else 1
  entries : a.entries = (rowEntries rows).map unread
  rowLower : a.rowLower = (rows.map (·.bound.range.1)).map Value.ofFloat
  rowUpper : a.rowUpper = (rows.map (·.bound.range.2)).map Value.ofFloat

theorem give_run {a a' : HighsAdapter} {part : Part} (started : a.started = true)
    (taken : a.take part = .ok a') (w : Workspace) :
    (Adapter.give part).run (a, w) = (.ok (), a', w) := by
  show (requireStarted >>= fun _ => Adapter.look id >>= fun a =>
    Action.ofExcept (a.take part) >>= fun a => Adapter.remember fun _ => a).run (a, w) = _
  have found : requireStarted.run (a, w) = (.ok (), a, w) := by
    show (Action.check (if a.started then none else some .notOpened)).run (a, w) = _
    rw [started]
    rfl
  have read : (Adapter.look (A := HighsAdapter) id).run (a, w) = (.ok a, a, w) := rfl
  rw [run_bind, found]
  dsimp only
  rw [run_bind, read]
  dsimp only
  rw [run_bind, run_ofExcept, taken]
  rfl

namespace Collected

variable {columns : List Column} {rows : List Row} {a : HighsAdapter}

theorem take_column (h : Collected columns rows a) (c : Column) (i : ℕ) :
    ∃ a', a.take (c.part i) = .ok a' ∧ Collected (columns ++ [c]) rows a' := by
  refine ⟨_, rfl, h.started, ?_, ?_, ?_, h.entries, h.rowLower, h.rowUpper⟩
  · rw [h.columnLower, List.map_append, List.map_append]
    rfl
  · rw [h.columnUpper, List.map_append, List.map_append]
    rfl
  · rw [h.integrality, List.map_append]
    rfl

theorem take_row (h : Collected columns rows a) (r : Row) (i : ℕ) :
    ∃ a', a.take (r.part i) = .ok a' ∧ Collected columns (rows ++ [r]) a' := by
  refine ⟨_, rfl, h.started, h.columnLower, h.columnUpper, h.integrality, ?_, ?_, ?_⟩
  · have count : a.rowLower.length = rows.length := by
      rw [h.rowLower, List.length_map, List.length_map]
    rw [h.entries, count, rowEntries_concat, List.map_append, List.map_map, List.map_map]
    rfl
  · rw [h.rowLower, List.map_append, List.map_append]
    rfl
  · rw [h.rowUpper, List.map_append, List.map_append]
    rfl

end Collected

/-! ## The model of what is collected -/

/-- Without rows there is no matrix. -/
theorem buildRows_nil {a : HighsAdapter} (none : a.rowLower = []) :
    a.buildRows arrays = .ok .none := by
  unfold buildRows
  rw [none]
  rfl

theorem buildRows_run (keeps : arrays.Keeps) {a : HighsAdapter} {es : List (ℕ × ℕ × Float)}
    {lower upper : List Float} (hentries : a.entries = es.map unread)
    (hlower : a.rowLower = lower.map Value.ofFloat) (hupper : a.rowUpper = upper.map Value.ofFloat)
    (same : lower.length = upper.length) (some_ : lower ≠ [])
    (inside : ∀ e ∈ es, e.1 < lower.length ∧ e.2.1 < a.columnLower.length)
    (fits : a.columnLower.length ≤ 2 ^ 63) (distinct : (es.map place).Nodup) :
    ∃ stored, a.buildRows arrays = .ok (some ⟨stored, lower, upper⟩) ∧ stored.Perm es := by
  obtain ⟨stored, built, perm⟩ := keeps.matrix inside fits distinct
  refine ⟨stored, ?_, perm⟩
  unfold buildRows
  rw [hlower, hupper, hentries, List.length_map, built, if_neg (by simpa using some_)]
  dsimp only [bind, Except.bind]
  rw [keeps.rowSides same]
  rfl

/-- Entries that are the coefficients of rows in another order are a matrix of these rows. -/
theorem cell_of_perm {m : HighsRows} {rows : List Row} (perm : m.entries.Perm (rowEntries rows))
    {i : ℕ} {r : Row} (hr : rows[i]? = some r) (j : ℕ) :
    m.cell i j = r.expression.coefficient j := by
  have distinct : (m.entries.map place).Nodup :=
    (perm.map place).nodup_iff.2 (nodup_rowEntries rows)
  unfold HighsRows.cell Expression.coefficient
  cases found : r.expression.coefficients.get? j with
  | some x =>
      have here : (i, j, x) ∈ m.entries :=
        perm.mem_iff.2 (mem_rowEntries.2 ⟨r, hr, OrderedMap.get?_eq_some_iff.1 found⟩)
      rw [show (i, j) = place (i, j, x) from rfl, OrderedMap.find?_of_mem distinct here]
      rfl
  | none =>
      have nowhere : m.entries.find? (fun e => place e = (i, j)) = none := by
        refine List.find?_eq_none.2 fun e he same => ?_
        obtain ⟨r', hr', ht⟩ := mem_rowEntries.1 (perm.mem_iff.1 he)
        cases of_decide_eq_true same
        cases hr.symm.trans hr'
        rw [OrderedMap.get?_eq_some_iff.2 ht] at found
        cases found
      rw [nowhere]
      rfl

/-- What is made of everything that is collected is the problem. -/
theorem Collected.buildModel (keeps : arrays.Keeps) {problem : Problem} {a : HighsAdapter}
    (h : Collected problem.columns problem.rows a)
    (cost : a.cost = ⟨costEntries problem.objective.coefficients.entries⟩)
    (objective : ∀ t ∈ problem.objective.coefficients.entries, t.1 < problem.columns.length)
    (rows : ∀ r ∈ problem.rows, ∀ t ∈ r.expression.coefficients.entries,
      t.1 < problem.columns.length)
    (fits : problem.columns.length ≤ 2 ^ 63) (strays : problem.strays = []) :
    ∃ m, a.buildModel arrays = .ok m ∧ m.Portrays problem := by
  have count : a.columnLower.length = problem.columns.length := by
    rw [h.columnLower, List.length_map, List.length_map]
  have length : problem.rows.length = problem.rowCount := by
    unfold Problem.rowCount
    rw [strays]
    rfl
  have costs := costVector_run keeps objective
  have sides := @ArrayLibrary.Keeps.columnSides _ keeps (problem.columns.map (·.range.1))
    (problem.columns.map (·.range.2)) (by simp)
  have built : ∃ built, a.buildRows arrays = .ok built ∧
      match built with
      | none => problem.rowCount = 0
      | some rows => problem.rowCount ≠ 0 ∧ rows.Portrays problem := by
    cases empty : problem.rows with
    | nil =>
        refine ⟨none, buildRows_nil ?_, ?_⟩
        · rw [h.rowLower, empty]
          rfl
        · rw [← length, empty]
          rfl
    | cons r rest =>
        have inside : ∀ e ∈ rowEntries problem.rows,
            e.1 < problem.rows.length ∧ e.2.1 < problem.columns.length := by
          rintro ⟨i, j, x⟩ he
          obtain ⟨r, hr, ht⟩ := mem_rowEntries.1 he
          exact ⟨(List.getElem?_eq_some_iff.1 hr).1, rows r (List.mem_of_getElem? hr) _ ht⟩
        obtain ⟨stored, run, perm⟩ := buildRows_run keeps h.entries h.rowLower h.rowUpper
          (by simp) (by simp [empty]) (by simpa [count] using inside) (by rwa [count])
          (nodup_rowEntries problem.rows)
        refine ⟨_, run, ?_, ?_, ?_, fun i r hr j => cell_of_perm perm hr j, rfl, rfl, length⟩
        · rw [← length, empty]
          exact Nat.succ_ne_zero _
        · rw [← length]
          exact fun e he => inside e (perm.mem_iff.1 he)
        · exact (perm.map place).nodup_iff.2 (nodup_rowEntries problem.rows)
  obtain ⟨built, run, portrays⟩ := built
  refine ⟨⟨_, _, _, _, built, a.options⟩, ?_, rfl, h.integrality, rfl, rfl, portrays⟩
  unfold HighsAdapter.buildModel
  rw [cost, count, costs, run, h.columnLower, h.columnUpper]
  dsimp only [bind, Except.bind]
  rw [sides]
  rfl

/-! ## The calls -/

/-- The model as it goes into a second call. -/
def withoutPresolve (m : HighsModel) : HighsModel :=
  { m with options := m.options.put (.text "presolve") (.scalar (.bool false)) }

theorem milp_calls (m : HighsModel) (w : Workspace) :
    ((HighsService.milp m).run w).2.calls = w.calls ++ [.highs m] := by
  unfold HighsService.milp
  rw [run_bind, run_call]
  cases w.faults w.nativeCalls (.highs m) with
  | none => exact w.calls_afterCall (.highs m)
  | some e => exact w.calls_afterCall (.highs m)

theorem classify_makes {P : NativeCall → Prop} (answer : HighsAnswer) :
    Makes id P (classify answer) := by
  unfold classify
  refine makes_ite (makes_pure _) (makes_ite (makes_pure _) (makes_ite (makes_pure _) ?_))
  refine makes_ite (makes_pure _) (makes_bind (makes_logShowing _ _ _ _) fun _ => ?_)
  exact makes_bind (makes_check _) fun _ => makes_pure _

/-- Telling the adapter to solve calls HiGHS with the model that the parts make up, once, or a
second time without presolve. -/
theorem solve_calls {a : HighsAdapter} {m : HighsModel} (started : a.started = true)
    {w : Workspace} (built : a.buildModel w.highs.arrays = .ok m) :
    (Adapter.solve.run (a, w)).2.2.calls = w.calls ++ [.highs m] ∨
      (Adapter.solve.run (a, w)).2.2.calls =
        w.calls ++ [.highs m, .highs (withoutPresolve m)] := by
  have found : requireStarted.run (a, w) = (.ok (), a, w) := by
    show (Action.check (if a.started then none else some .notOpened)).run (a, w) = _
    rw [started]
    rfl
  have returned : (Adapter.solve.run (a, w)).2.2.calls = (solve.run (a, w)).2.2.calls :=
    (makes_after (P := fun _ => False) (x := solve) (fun _ => makes_pure _) (a, w)).calls_eq
  have once := milp_calls m w
  rw [returned]
  unfold solve
  rw [run_bind, found]
  dsimp only
  rw [run_bind, show (Adapter.look (A := HighsAdapter) id).run (a, w) = (.ok a, a, w) from rfl]
  dsimp only
  rw [run_bind, run_gets]
  dsimp only
  rw [run_bind, run_ofExcept, built]
  dsimp only
  rw [run_bind, run_liftM]
  cases ran : (HighsService.milp m).run w with
  | mk r w₁ =>
      rw [ran] at once
      cases r with
      | error e => exact .inl once
      | ok first =>
          dsimp only
          -- what follows the last call of HiGHS makes no calls
          have later : ∀ (x : Action (HighsAdapter × Workspace) HighsAnswer) (w : Workspace),
              ((x >>= fun last => Adapter.remember (fun a => { a with answer := some last }) >>=
                fun _ => liftM (classify last)).run (a, w)).2.2.calls =
                  (x.run (a, w)).2.2.calls := fun x w =>
            (makes_after (P := fun _ => False) (x := x) (fun last =>
              makes_bind (makes_remember _) fun _ => makes_onSecond (classify_makes last))
              (a, w)).calls_eq
          -- a message that cannot be written ends it
          cases first.message.unwritable? with
          | some e => exact .inl once
          | none =>
          rw [run_bind, show (Action.check none).run (a, w₁) = (.ok (), a, w₁) from rfl]
          dsimp only
          cases isAmbiguous first with
          | false =>
              refine .inl ?_
              rw [if_neg Bool.false_ne_true, later]
              exact once
          | true =>
              refine .inr ?_
              rw [if_pos rfl, run_bind]
              have noted := (makes_log (P := fun _ => False) .highs .debug
                "HiGHS presolve was inconclusive; solving again" w₁).calls_eq
              refine (later _ _).trans ((milp_calls (withoutPresolve m) _).trans ?_)
              refine (congrArg (· ++ [.highs (withoutPresolve m)]) (noted.trans once)).trans ?_
              exact List.append_assoc _ _ _

/-! ## A whole solve -/

theorem replies : Adapter.Replies HighsAdapter :=
  fun _ => ⟨_, rfl⟩

/-- After its solve the adapter calls nothing. -/
theorem settles : Adapter.Settles HighsAdapter fun _ => False where
  values := by
    refine makes_bind ?_ fun answer => makes_ofExcept _
    refine makes_bind (makes_look _) fun answer => ?_
    cases answer with
    | some answer => exact makes_pure _
    | none => exact makes_fail _
  objectiveValue := by
    refine makes_bind ?_ fun answer => makes_bind (makes_ofExcept _) fun _ => makes_pure _
    refine makes_bind (makes_look _) fun answer => ?_
    cases answer with
    | some answer => exact makes_pure _
    | none => exact makes_fail _
  close := makes_remember _

/-- Once it is started, the adapter has collected nothing yet, whatever it was before; all that
happens is that a record may be written. -/
theorem start_spec {a : HighsAdapter} {p : Given Parameters} {w : Workspace}
    {s : HighsAdapter × Workspace} (started : (Adapter.start p).run (a, w) = (.ok (), s)) :
    Collected [] [] s.1 ∧ w.Noted s.2 := by
  have ran : (start p).run (a, w) = (.ok (), s) := started
  unfold start at ran
  cases p with
  | other f => cases ran
  | proper p =>
      simp only [run_bind, Adapter.remember, run_modify, Given.require, run_ofExcept] at ran
      cases own : ownOptions p with
      | error e =>
          rw [own] at ran
          cases ran
      | ok options =>
          rw [own] at ran
          cases some : p.threads.isSome with
          | false =>
              rw [some] at ran
              cases ran
              exact ⟨⟨rfl, rfl, rfl, rfl, rfl, rfl, rfl⟩, .refl w⟩
          | true =>
              rw [some] at ran
              cases ran
              exact ⟨⟨rfl, rfl, rfl, rfl, rfl, rfl, rfl⟩, noted_log _ _ _ w⟩

/-- HiGHS is not called while an adapter is started, whether that works or not. -/
theorem start_makes {P : NativeCall → Prop} (p : Given Parameters) :
    Makes Prod.snd P (Adapter.start (A := HighsAdapter) p) := by
  show Makes Prod.snd P (start p)
  refine makes_bind (makes_remember _) fun _ => makes_bind (makes_ofExcept _) fun p => ?_
  refine makes_bind (makes_ofExcept _) fun own => makes_bind (makes_remember _) fun _ => ?_
  exact makes_ite (makes_bind (makes_onSecond (makes_log _ _ _)) fun _ => makes_remember _)
    (makes_remember _)

/-- The adapter takes every part of a problem that passes the check, and what it has in the end
makes a model that is the problem. Taking a part leaves the workspace alone. -/
theorem assembles_of {models : Store} {p : Ref Program} {problem : Problem}
    (sound : Sound models (.proper p) problem) (keeps : arrays.Keeps)
    (fits : problem.columns.length ≤ 2 ^ 63) (Stays : Workspace → Prop) :
    Assembles HighsAdapter problem
      (fun columns rows s => Collected columns rows s.1 ∧ Stays s.2)
      (fun s => s.1.started = true ∧ (∃ m, s.1.buildModel arrays = .ok m ∧ m.Portrays problem) ∧
        Stays s.2) where
  column := by
    rintro done c ⟨a, w⟩ - ⟨collected, stays⟩
    obtain ⟨a', taken, collected'⟩ := collected.take_column c done.length
    exact ⟨_, give_run collected.started taken w, collected', stays⟩
  row := by
    rintro done r ⟨a, w⟩ - ⟨collected, stays⟩
    obtain ⟨a', taken, collected'⟩ := collected.take_row r done.length
    exact ⟨_, give_run collected.started taken w, collected', stays⟩
  objective := by
    rintro ⟨a, w⟩ ⟨collected, stays⟩
    have taken : a.take (.objective problem.objective.handedOver) =
        .ok { a with cost := ⟨costEntries problem.objective.coefficients.entries⟩ } := rfl
    have collected' : Collected problem.columns problem.rows
        { a with cost := ⟨costEntries problem.objective.coefficients.entries⟩ } :=
      ⟨collected.started, collected.columnLower, collected.columnUpper, collected.integrality,
        collected.entries, collected.rowLower, collected.rowUpper⟩
    refine ⟨_, give_run collected.started taken w, collected.started, ?_, stays⟩
    exact Collected.buildModel keeps collected' rfl sound.lt_of_mem_objective
      (fun r hr => sound.lt_of_mem_row hr) fits sound.clear.2.1

end HighsAdapter

namespace Solver

/-- A solve with HiGHS calls it with the problem, and when it calls it again then with the same
model without presolve; all that is asked of the array library is that it keeps numbers. The columns
are counted by a machine word, as the length of every list of the program is, so that `fits` holds
of each program that can be built. -/
theorem highs_model {p : Ref Program} {backend : Value} {parameters : Option (Given Parameters)}
    {s : Solver × Workspace}
    (keeps : s.2.highs.arrays.Keeps)
    (check : Model.defectMessages s.2.models (.proper p) = .ok [])
    (fits : (s.2.models.problem p).columns.length ≤ 2 ^ 63)
    (registered : Registry.lookup backend s.2 = .ok (some .highs))
    (opened : ((Adapter.start (s.1.parameters.replacedBy parameters)).run
      (HighsAdapter.new, s.2)).1 = .ok ()) :
    ∃ m : HighsModel, m.Portrays (s.2.models.problem p) ∧
      (((solve (.proper p) backend parameters).run s).2.2.calls = s.2.calls ++ [.highs m] ∨
        ((solve (.proper p) backend parameters).run s).2.2.calls =
          s.2.calls ++ [.highs m, .highs (HighsAdapter.withoutPresolve m)]) := by
  have sound : Sound s.2.models (.proper p) (s.2.models.problem p) := ⟨⟨p, rfl, rfl⟩, check⟩
  obtain ⟨s₁, started⟩ : ∃ s₁, (Adapter.start (s.1.parameters.replacedBy parameters)).run
      (HighsAdapter.new, s.2) = (.ok (), s₁) := ⟨_, Prod.ext opened rfl⟩
  obtain ⟨collected, noted⟩ := HighsAdapter.start_spec started
  obtain ⟨⟨a, w⟩, ⟨ready, ⟨m, built, portrays⟩, noted'⟩, later⟩ :=
    solve_extends Backend.carries_highs HighsAdapter.settles check registered rfl (fun _ => rfl)
      started ⟨_, rfl⟩ (HighsAdapter.assembles_of sound keeps fits s₁.2.Noted) fun w hw =>
        ⟨collected, hw⟩
  have before := noted.trans noted'
  rw [← before.highs_eq] at built
  refine ⟨m, portrays, ?_⟩
  rw [later.calls_eq, ← before.calls_eq]
  exact HighsAdapter.solve_calls ready built

/-- The small program, solved with HiGHS. -/
theorem highs_model_sample :
    let s := (new none, Sample.registered .highs)
    ∃ m : HighsModel, m.Portrays (s.2.models.problem ⟨0⟩) ∧
      (((solve Sample.program Sample.backend none).run s).2.2.calls = s.2.calls ++ [.highs m] ∨
        ((solve Sample.program Sample.backend none).run s).2.2.calls =
          s.2.calls ++ [.highs m, .highs (HighsAdapter.withoutPresolve m)]) := by
  intro s
  have check : Model.defectMessages s.2.models (.proper ⟨0⟩) = .ok [] := by decide +kernel
  have fits : (s.2.models.problem ⟨0⟩).columns.length ≤ 2 ^ 63 := by decide +kernel
  exact highs_model Grid.keeps_arrays check fits (Sample.lookup_registered .highs) rfl

end Solver

end LinearDispatch
