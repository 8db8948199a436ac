import LinearDispatch.Grid.Arrays
import LinearDispatch.Proofs.ArrayLibrary

/-!
# The array library on grids keeps numbers

A matrix is built from entries in several stages: their values are made one grid, their columns are
read and checked, the rows are brought into order and what stands at one place is added up. For
entries that are numbers at places of their own, inside the matrix, all of that only changes the
order. `ofEntries_of_distinct` says so, and that the stages get through.

The order is left open on purpose. A row is sorted by a sort that is not stable, and for distinct
places nothing depends on it.

With costs and sides, which are read back as they were stored, that is all that is asked of an array
library: `Grid.keeps_arrays`.
-/

namespace LinearDispatch

open ArrayLibrary (place unread)

namespace Sparse

/-- An entry whose column is read. -/
def placed (e : ℕ × ℕ × Float) : ℕ × ℕ × Value :=
  (e.1, e.2.1, .ofFloat e.2.2)

/-! ## Putting rows together -/

/-- The rows of a list of entries, one after the other, are all its entries. -/
theorem flatten_byRow_perm {α : Type} (entries : List (ℕ × ℕ × α)) (rows : ℕ) :
    ((List.range rows).map fun r => entries.filter (·.1 = r)).flatten.Perm
      (entries.filter (·.1 < rows)) := by
  induction rows with
  | zero => simp
  | succ rows ih =>
      have below : (entries.filter (·.1 < rows + 1)).filter (fun e => decide (e.1 < rows)) =
          entries.filter (·.1 < rows) := by
        rw [List.filter_filter]
        refine List.filter_congr fun e _ => ?_
        simp only [← Bool.decide_and, decide_eq_decide]
        omega
      have last : (entries.filter (·.1 < rows + 1)).filter (fun e => !decide (e.1 < rows)) =
          entries.filter (·.1 = rows) := by
        rw [List.filter_filter]
        refine List.filter_congr fun e _ => ?_
        simp only [← decide_not, ← Bool.decide_and, decide_eq_decide]
        omega
      have split := List.filter_append_perm (fun e : ℕ × ℕ × α => decide (e.1 < rows))
        (entries.filter (·.1 < rows + 1))
      rw [below, last] at split
      rw [List.range_succ, List.map_append, List.flatten_append, List.map_singleton,
        List.flatten_singleton]
      exact (ih.append_right _).trans split

/-- Bringing entries into order keeps them all, as long as their rows are there. -/
theorem inOrder_perm {α : Type} {entries : List (ℕ × ℕ × α)} {rows : ℕ}
    (h : ∀ e ∈ entries, e.1 < rows) : (inOrder rows entries).Perm entries := by
  have all : entries.filter (·.1 < rows) = entries :=
    List.filter_eq_self.2 fun e he => decide_eq_true (h e he)
  have together := flatten_byRow_perm entries rows
  rw [all] at together
  unfold inOrder
  dsimp only
  split
  · exact together
  · refine List.Perm.trans ?_ together
    rw [← List.flatMap_id]
    exact List.Perm.flatMap_left _ fun row _ => IntrospectiveSort.sort_perm _ row

/-! ## The checks -/

theorem isSigned_natCast {n : ℕ} (h : n < 2 ^ 63) : CellForm.isSigned n = true := by
  unfold CellForm.isSigned
  rw [Bool.and_eq_true, decide_eq_true_eq, decide_eq_true_eq]
  omega

theorem columnOf_int {n : ℤ} (fits : CellForm.isSigned n = true) :
    columnOf (.scalar (.int n)) = .ok n := by
  unfold columnOf
  exact if_pos fits

theorem mapM_columnOf {es : List (ℕ × ℕ × Float)} (h : ∀ e ∈ es, e.2.1 < 2 ^ 63) :
    (es.map unread).mapM (fun e => columnOf e.2.1) = .ok (es.map fun e => (e.2.1 : ℤ)) := by
  induction es with
  | nil => rfl
  | cons e rest ih =>
      have here : columnOf (unread e).2.1 = .ok (e.2.1 : ℤ) :=
        columnOf_int (isSigned_natCast (h e List.mem_cons_self))
      rw [List.map_cons, List.mapM_cons, here, ih fun e he => h e (List.mem_cons_of_mem _ he)]
      rfl

theorem checkColumns_of_lt {columns : ℕ} {used : List ℤ} (h : ∀ n ∈ used, 0 ≤ n ∧ n < columns) :
    checkColumns columns used = .ok () := by
  unfold checkColumns
  cases largest : used.max? with
  | none =>
      rw [List.max?_eq_none_iff.1 largest]
      rfl
  | some n =>
      have := h n (List.max?_mem largest)
      cases smallest : used.min? with
      | none =>
          rw [List.min?_eq_none_iff.1 smallest] at largest
          cases largest
      | some m =>
          have := h m (List.min?_mem smallest)
          dsimp only
          rw [if_neg (by omega), if_neg (by omega)]
          rfl

/-- Numbers make a matrix of numbers. -/
theorem values_grid (es : List (ℕ × ℕ × Float)) :
    Grid.ofList ((es.map unread).map (·.2.2)) =
      .ok ⟨[es.length], es.map fun e => Value.ofFloat e.2.2⟩ := by
  have values : (es.map unread).map (·.2.2) = es.map fun e => Value.ofFloat e.2.2 := by
    rw [List.map_map]
    rfl
  rw [values, Grid.ofList_of_not_isList, List.length_map]
  intro v hv
  obtain ⟨e, -, rfl⟩ := List.mem_map.1 hv
  rfl

theorem values_form (n : ℕ) (es : List (ℕ × ℕ × Float)) :
    Grid.form ⟨[n], es.map fun e => Value.ofFloat e.2.2⟩ = .real := by
  have values : (es.map fun e => Value.ofFloat e.2.2) = (es.map (·.2.2)).map Value.ofFloat := by
    rw [List.map_map]
    rfl
  unfold Grid.form
  rw [values]
  exact CellForm.ofCells_map_ofFloat _

/-! ## The sums -/

theorem entryNumbers_map_placed (es : List (ℕ × ℕ × Float)) :
    entryNumbers (es.map placed) = .ok es := by
  unfold entryNumbers
  induction es with
  | nil => rfl
  | cons e rest ih =>
      rw [List.map_cons, List.mapM_cons, ih]
      rfl

/-- Entries at places of their own are not added to each other. -/
theorem addUp_of_nodup {α : Type} {add : α → α → α} {es : List (ℕ × ℕ × α)}
    (h : (es.map place).Nodup) : addUp add es = es := by
  refine addUp_of_pairwise ((List.pairwise_map.1 h).imp fun {a b} apart => ?_)
  refine Bool.eq_false_iff.2 fun same => apart ?_
  unfold atOnePlace at same
  rw [Bool.and_eq_true, decide_eq_true_eq, decide_eq_true_eq] at same
  exact Prod.ext same.1 same.2

/-- Numbers at places of their own are summed to themselves. -/
theorem sumEntries_of_nodup {es : List (ℕ × ℕ × Float)} (h : (es.map place).Nodup) :
    sumEntries .real (es.map placed) = .ok es := by
  show (do return addUp (· + ·) (← entryNumbers (es.map placed))) = Except.ok es
  rw [entryNumbers_map_placed]
  exact congrArg Except.ok (addUp_of_nodup h)

/-- Numbers at places of their own inside a matrix make that matrix, in some order. -/
theorem ofEntries_of_distinct {rows columns : ℕ} {es : List (ℕ × ℕ × Float)}
    (inside : ∀ e ∈ es, e.1 < rows ∧ e.2.1 < columns) (fits : columns ≤ 2 ^ 63)
    (distinct : (es.map place).Nodup) :
    ∃ sorted, ofEntries rows columns (es.map unread) = .ok sorted ∧ sorted.Perm es := by
  have used := mapM_columnOf fun e he => (inside e he).2.trans_le fits
  have known : checkColumns columns (es.map fun e => (e.2.1 : ℤ)) = .ok () := by
    refine checkColumns_of_lt fun n hn => ?_
    obtain ⟨e, he, rfl⟩ := List.mem_map.1 hn
    have := (inside e he).2
    omega
  have read : ((es.map unread).zip (es.map fun e => (e.2.1 : ℤ))).map
      (fun p => (p.1.1, p.2.toNat, p.1.2.2)) = es.map placed := by
    rw [List.zip_map', List.map_map]
    rfl
  have order : (inOrder rows (es.map placed)).Perm (es.map placed) := by
    refine inOrder_perm fun e he => ?_
    obtain ⟨number, hnumber, rfl⟩ := List.mem_map.1 he
    exact (inside number hnumber).1
  -- what is in order are read entries again, and so it is numbers at places of their own
  obtain ⟨sorted, isSorted, perm⟩ :=
    (congrFun (congrFun (List.eq_map_comp_perm placed) (inOrder rows (es.map placed))) es).mpr order
  have apart : (sorted.map place).Nodup := (perm.map place).nodup_iff.2 distinct
  have flat : checkEntries ⟨[es.length], es.map fun e => Value.ofFloat e.2.2⟩ = .ok () := by
    unfold checkEntries
    rw [values_form]
    rfl
  refine ⟨sorted, ?_, perm⟩
  unfold ofEntries
  rw [values_grid, used]
  dsimp only [bind, Except.bind]
  rw [flat, known]
  dsimp only
  rw [read, values_form, isSorted]
  exact sumEntries_of_nodup apart

end Sparse

/-! ## Costs and sides -/

namespace Grid

theorem ofList_map_ofFloat (xs : List Float) :
    ofList (xs.map Value.ofFloat) = .ok ⟨[xs.length], xs.map Value.ofFloat⟩ := by
  rw [ofList_of_not_isList, List.length_map]
  intro v hv
  obtain ⟨x, -, rfl⟩ := List.mem_map.1 hv
  rfl

theorem storeCost_run {costs : List Float} {j : ℕ} {x : Float} (h : j < costs.length) :
    storeCost costs (.scalar (.int j)) (.ofFloat x) = .ok (costs.set j x) := by
  unfold storeCost
  dsimp only
  rw [resolveIndex_natCast h]
  rfl

theorem rowSides_run (lower upper : List Float) :
    rowSides (lower.map .ofFloat) (upper.map .ofFloat) = .ok (lower, upper) := by
  have numbers : ∀ xs : List Float, Grid.numbers ⟨[xs.length], xs.map Value.ofFloat⟩ cell =
      .ok xs := fun xs => Grid.numbers_map_ofFloat (fun _ => rfl) _ xs
  unfold rowSides
  rw [ofList_map_ofFloat, ofList_map_ofFloat]
  simp only [bind, Except.bind, numbers, isFlat, List.length_singleton, decide_true,
    Bool.and_true, if_true]
  rfl

/-- Numbers are flat sides, and they are read back as they are. -/
theorem columnSides_run {lower upper : List Float} (same : lower.length = upper.length) :
    columnSides (lower.map .ofFloat) (upper.map .ofFloat) = .ok (lower, upper) := by
  have numbers : ∀ xs : List Float, Grid.numbers ⟨[xs.length], xs.map Value.ofFloat⟩ Value.toFloat =
      .ok xs := fun xs => Grid.numbers_map_ofFloat (fun _ => rfl) _ xs
  have shallow : ([⟨[lower.length], lower.map Value.ofFloat⟩,
      ⟨[upper.length], upper.map Value.ofFloat⟩] : List Grid).find?
        (fun g => maxSideAxes < g.extents.length) = none := by rfl
  have fit : meets [lower.length] [upper.length] = true := by
    simp [meets, same]
  unfold columnSides
  rw [ofList_map_ofFloat, ofList_map_ofFloat]
  simp only [bind, Except.bind, shallow, fit, Bool.not_true, Bool.false_eq_true, if_false,
    isFlat, List.length_singleton, decide_true, Bool.and_true, if_true, numbers]
  rfl

theorem keeps_arrays : arrays.Keeps where
  storeCost := storeCost_run
  matrix := Sparse.ofEntries_of_distinct
  rowSides _ := rowSides_run _ _
  columnSides := columnSides_run

end Grid

end LinearDispatch
