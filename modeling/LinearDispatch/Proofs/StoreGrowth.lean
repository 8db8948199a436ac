import LinearDispatch.Proofs.Defects
import LinearDispatch.Proofs.Edits
import LinearDispatch.Proofs.FirstFailure

/-!
# What a store holds on to

That a row has a bound is checked when the row is added, once; the row stays shared with whoever
made it and may be changed in every way before the program is solved. It has a bound then too,
because no operation takes the shape of a bound away and no operation gives a constraint another
bound. In the same way an index comes into an expression only as an integer that a caller gave, and
what is in the list of a program stays there in its place.

`Leads` is a run of operations. What one edit does to rows and to indices is carried over the edits
of an operation and over the operations of a run, and it says where each of them comes from: from
the start of the run, or from one operation of it.
-/

namespace LinearDispatch

/-- A complaint that there are no variables, or about indices past the last one. -/
def Defect.Missing (columns : ℕ) : Defect → Prop
  | .noVariables => columns = 0
  | .objectiveColumns indices | .rowColumns _ indices => ∀ i ∈ indices, columns ≤ i
  | .notAProblem _ | .rowWithoutBound _ => False

def Given.proper? {α : Type} : Given α → Option α
  | proper a => some a
  | other _ => none

namespace Model

/-- Operations, each of them `Allowed` where it is performed, lead from one store to another.
Between two of them anything may happen to the rest of the workspace, and an operation that fails
counts with what it had done. -/
inductive Leads (Allowed : Store → Operation → Prop) : Store → List Operation → Store → Prop where
  | here (s : Store) : Leads Allowed s [] s
  | step {w : Workspace} {operation : Operation} {rest : List Operation} {t : Store}
      (allowed : Allowed w.models operation)
      (later : Leads Allowed (operation.perform.run w).2.models rest t) :
      Leads Allowed w.models (operation :: rest) t

variable {operation : Operation} {s t : Store}

/-! ## One edit -/

theorem Edit.mem_keys (edit : Edit operation s t) {e : Ref Expression} {i : Nat}
    (mem : i ∈ (t.expressions.get e).coefficients.keys) :
    (∃ e', i ∈ (s.expressions.get e').coefficients.keys) ∨ operation.Mentions i := by
  have unchanged (same : (t.expressions.get e).coefficients.keys =
      (s.expressions.get e).coefficients.keys) :
      ∃ e', i ∈ (s.expressions.get e').coefficients.keys := ⟨e, same ▸ mem⟩
  cases edit with
  | newExpression =>
      obtain old | new := s.expressions.get_push_cases .zero e
      · exact .inl (unchanged (congrArg (·.coefficients.keys) old))
      · rw [new] at mem
        exact absurd mem List.not_mem_nil
  | @term r i' x known =>
      obtain old | ⟨rfl, new⟩ :=
        s.expressions.get_set_cases r e ((s.expressions.get r).addTerm i' x)
      · exact .inl (unchanged (congrArg (·.coefficients.keys) old))
      · rw [new, Expression.keys_addTerm] at mem
        split at mem
        · exact .inl ⟨r, mem⟩
        · obtain mem | mem := List.mem_append.1 mem
          · exact .inl ⟨r, mem⟩
          · cases List.mem_singleton.1 mem
            exact known.symm
  | newBound | bound | newVariable | newConstraint | newProgram | appendVariable | objective
    | appendRow => exact .inl ⟨e, mem⟩

theorem Edit.mem_rows (edit : Edit operation s t) {p : Ref Program} {row : Given (Ref Constraint)}
    (mem : row ∈ (t.programs.get p).constraints) :
    row ∈ (s.programs.get p).constraints ∨ operation.Admits s row := by
  cases edit with
  | newProgram name objective =>
      obtain old | new := s.programs.get_push_cases ⟨name, [], objective, []⟩ p
      · exact .inl (old ▸ mem)
      · rw [new] at mem
        exact absurd mem List.not_mem_nil
  | appendVariable p' v =>
      obtain old | ⟨rfl, new⟩ := s.programs.get_set_cases p' p _
      · exact .inl (old ▸ mem)
      · rw [new] at mem
        exact .inl mem
  | objective p' e =>
      obtain old | ⟨rfl, new⟩ := s.programs.get_set_cases p' p _
      · exact .inl (old ▸ mem)
      · rw [new] at mem
        exact .inl mem
  | appendRow p' admitted =>
      obtain old | ⟨rfl, new⟩ := s.programs.get_set_cases p' p _
      · exact .inl (old ▸ mem)
      · rw [new] at mem
        obtain mem | mem := List.mem_append.1 mem
        · exact .inl mem
        · cases List.mem_singleton.1 mem
          exact .inr admitted
  | newBound | bound | newExpression | term | newVariable | newConstraint => exact .inl mem

/-! ## The edits of one operation -/

theorem Edits.mem_keys (edits : Edits operation s t) {e : Ref Expression} {i : Nat}
    (mem : i ∈ (t.expressions.get e).coefficients.keys) :
    (∃ e', i ∈ (s.expressions.get e').coefficients.keys) ∨ operation.Mentions i := by
  induction edits generalizing e with
  | refl => exact .inl ⟨e, mem⟩
  | tail _ edit ih =>
      obtain ⟨e', mem⟩ | mentions := edit.mem_keys mem
      · exact ih mem
      · exact .inr mentions

/-- A row that was not in the row list before was admitted at some moment of the operation. -/
theorem Edits.mem_rows (edits : Edits operation s t) {p : Ref Program}
    {row : Given (Ref Constraint)} (mem : row ∈ (t.programs.get p).constraints) :
    row ∈ (s.programs.get p).constraints ∨ ∃ u, s.Grows u ∧ u.Grows t ∧ operation.Admits u row := by
  induction edits with
  | refl => exact .inl mem
  | tail before edit ih =>
      obtain mem | admitted := edit.mem_rows mem
      · obtain mem | ⟨u, early, late, admitted⟩ := ih mem
        · exact .inl mem
        · exact .inr ⟨u, early, late.trans edit.grows, admitted⟩
      · exact .inr ⟨_, Edits.grows before, edit.grows, admitted⟩

/-! ## Runs of operations -/

namespace Leads

variable {Allowed : Store → Operation → Prop} {operations : List Operation}

theorem grows (leads : Leads Allowed s operations t) : s.Grows t := by
  induction leads with
  | here s => exact .refl s
  | @step w operation rest t _ _ ih => exact (operation.edits_perform w).grows.trans ih

theorem mem_keys (leads : Leads Allowed s operations t) {e : Ref Expression} {i : Nat}
    (mem : i ∈ (t.expressions.get e).coefficients.keys) :
    (∃ e', i ∈ (s.expressions.get e').coefficients.keys) ∨
      ∃ operation ∈ operations, operation.Mentions i := by
  induction leads with
  | here => exact .inl ⟨e, mem⟩
  | @step w operation rest t _ _ ih =>
      obtain ⟨e', mem⟩ | ⟨later, among, mentions⟩ := ih mem
      · obtain before | mentions := (operation.edits_perform w).mem_keys mem
        · exact .inl before
        · exact .inr ⟨operation, List.mem_cons_self, mentions⟩
      · exact .inr ⟨later, List.mem_cons_of_mem operation among, mentions⟩

/-- A row at the end was one at the start, or some operation that was allowed where it was performed
admitted it. -/
theorem mem_rows (leads : Leads Allowed s operations t) {p : Ref Program}
    {row : Given (Ref Constraint)} (mem : row ∈ (t.programs.get p).constraints) :
    row ∈ (s.programs.get p).constraints ∨ ∃ s' operation u, Allowed s' operation ∧ s'.Grows u ∧
      u.Grows t ∧ operation.Admits u row := by
  induction leads with
  | here => exact .inl mem
  | @step w operation rest t allowed later ih =>
      obtain mem | found := ih mem
      · obtain mem | ⟨u, early, late, admitted⟩ := (operation.edits_perform w).mem_rows mem
        · exact .inl mem
        · exact .inr ⟨_, operation, u, allowed, early, late.trans later.grows, admitted⟩
      · exact .inr found

theorem append {u : Store} {more : List Operation} (first : Leads Allowed s operations t)
    (second : Leads Allowed t more u) : Leads Allowed s (operations ++ more) u := by
  induction first with
  | here => exact second
  | step allowed _ ih => exact .step allowed (ih second)

theorem of_performAll : ∀ {operations : List Operation} {w : Workspace},
    (∀ i : Fin operations.length,
      Allowed (performAll (operations.take i) w).models operations[i]) →
    Leads Allowed w.models operations (performAll operations w).models
  | [], w, _ => .here w.models
  | _ :: rest, _, allowed =>
    .step (allowed 0) (of_performAll fun i : Fin rest.length => allowed i.succ)

end Leads

/-! ## The public operations -/

/-- Rows come in through the check only, and what is added as a constraint is one that there is. -/
def Operation.Public (s : Store) : Operation → Prop
  | appendConstraints _ cs => ∀ row ∈ cs, ∀ c ∈ row.proper?, c.index < s.constraints.items.size
  | appendRow .. => False
  | _ => True

instance (s : Store) : DecidablePred (Operation.Public s)
  | .appendConstraints _ cs =>
    inferInstanceAs
      (Decidable (∀ row ∈ cs, ∀ c ∈ row.proper?, c.index < s.constraints.items.size))
  | .appendRow .. => isFalse id
  | .newBound | .shapeBound .. | .newExpression _ | .addTerm .. | .addTerms .. | .newVariable ..
    | .newConstraint .. | .newProgram _ | .appendVariables .. | .replaceObjective .. =>
    isTrue trivial

theorem Operation.Public.row_isSet {s' u : Store} (allowed : operation.Public s')
    {row : Given (Ref Constraint)} (early : s'.Grows u) (late : u.Grows t)
    (admitted : operation.Admits u row) :
    ∃ c, row = .proper c ∧ (t.row c).bound.isSet = true := by
  cases operation with
  | appendConstraints p cs =>
      obtain ⟨mem, c, rfl, isSet⟩ := admitted
      have there := Nat.lt_of_lt_of_le (allowed _ mem c rfl) early.constraints.size_le
      exact ⟨c, rfl, late.row_isSet there isSet⟩
  | appendRow p row => exact allowed.elim
  | _ => exact admitted.elim

namespace Leads

variable {operations : List Operation}

/-- The row check is made when a row is added, and it holds of the row for good. -/
theorem row_isSet (built : Leads Operation.Public .empty operations t) {p : Ref Program}
    {row : Given (Ref Constraint)} (mem : row ∈ (t.programs.get p).constraints) :
    ∃ c, row = .proper c ∧ (t.row c).bound.isSet = true := by
  obtain mem | ⟨s', operation, u, allowed, early, late, admitted⟩ := built.mem_rows mem
  · exact absurd mem List.not_mem_nil
  · exact allowed.row_isSet early late admitted

theorem missing_of_mem_defects (built : Leads Operation.Public .empty operations t)
    {p : Ref Program} {d : Defect} (mem : d ∈ (t.problem p).defects) :
    d.Missing (t.programs.get p).vars.length := by
  have columns : (t.problem p).columns.length = (t.programs.get p).vars.length := List.length_map _
  obtain ⟨c, among, violated, reports⟩ := Problem.exists_of_mem_defects mem
  rw [← columns]
  obtain rfl | rfl | ⟨row, r, hr, rfl | rfl⟩ := Problem.mem_rows_of_mem_conditions among
  · cases reports
    exact Nat.eq_zero_of_not_pos violated
  · obtain ⟨indices, rfl, unknown⟩ := reports
    exact fun i hi => ((unknown.mem_iff i).1 hi).2
  · obtain ⟨c, listed, rfl⟩ := Store.exists_of_mem_rows hr
    obtain ⟨c', same, isSet⟩ := built.row_isSet listed
    cases same
    exact absurd (of_decide_eq_true isSet) violated
  · obtain ⟨indices, rfl, unknown⟩ := reports
    exact fun i hi => ((unknown.mem_iff i).1 hi).2

/-- What holds of every store that the public operations build, whatever they are given and whether
they return or fail: each row of a program is a constraint whose bound has a shape, and each index
of an expression is an integer that an operation was given as an index. Going on from there takes no
shape from a bound, and adds to the variables and rows of a program only at their ends. So the check
can only complain that a program has no variables or mentions ones that it does not have, and it
returns unless one of those has too many digits to be named. -/
theorem store_invariant {earlier later : List Operation} {s t : Store}
    (built : Leads Operation.Public .empty earlier s)
    (further : Leads Operation.Public s later t) :
    (∀ p, ∀ row ∈ (t.programs.get p).constraints,
      ∃ c, row = .proper c ∧ (t.row c).bound.kind ≠ .unset) ∧
    (∀ e, ∀ i ∈ (t.expressions.get e).coefficients.keys,
      ∃ operation ∈ earlier ++ later, operation.Mentions i) ∧
    (∀ b, (s.bounds.get b).kind ≠ .unset → (t.bounds.get b).kind ≠ .unset) ∧
    (∀ p, (s.programs.get p).vars <+: (t.programs.get p).vars ∧
      (s.programs.get p).constraints <+: (t.programs.get p).constraints) ∧
    ∀ p, ∃ defects : List Defect, (∀ d ∈ defects, d.Missing (t.programs.get p).vars.length) ∧
      defectMessages t (.proper p) =
        if defects.all Defect.isWritable then .ok (defects.map Defect.message)
        else .error .notWritable := by
  have whole := built.append further
  refine ⟨fun p row mem => ?_, fun e i mem => ?_, fun b isSet => ?_, further.grows.program,
    fun p => ⟨_, fun d => whole.missing_of_mem_defects, defectMessages_of_rows fun row mem => ?_⟩⟩
  · obtain ⟨c, proper, isSet⟩ := whole.row_isSet mem
    exact ⟨c, proper, of_decide_eq_true isSet⟩
  · obtain ⟨e', mem⟩ | given := whole.mem_keys mem
    · exact absurd mem List.not_mem_nil
    · exact given
  · exact of_decide_eq_true (further.grows.bound_isSet (decide_eq_true isSet))
  · obtain ⟨c, proper, -⟩ := whole.row_isSet mem
    exact ⟨c, proper⟩

/-- A store is built, and building goes on with a shape that cannot be given, a row without a bound
and sides that are no numbers. -/
theorem store_invariant_sample :
    let earlier : List Operation :=
      [.newVariable (.member .continuous) (.text "x"), .newProgram .none,
        .appendVariables ⟨0⟩ [.proper ⟨0⟩],
        .newConstraint (some (.terms (.pairs [(.ofInt 0, .ofFloat 1.0), (.ofInt 5, .ofFloat 2.0)])))
          (some (.member .upper)) (.ofFloat 0.0) (.ofFloat 2.0) (.text "r"),
        .appendConstraints ⟨0⟩ [.proper ⟨0⟩]]
    let later : List Operation :=
      [.shapeBound ⟨1⟩ (.member .unset) (.ofFloat 0.0) (.ofFloat 1.0),
        .newConstraint none none (.ofFloat 0.0) (.ofFloat 1.0) (.text "s"),
        .appendConstraints ⟨0⟩ [.proper ⟨1⟩],
        .shapeBound ⟨1⟩ (.member .lower) (.text "a") (.ofFloat 0.0)]
    let blank := { Sample.workspace .binary with models := .empty }
    let w := performAll earlier blank
    let w' := performAll later w
    (∀ p, ∀ row ∈ (w'.models.programs.get p).constraints,
      ∃ c, row = .proper c ∧ (w'.models.row c).bound.kind ≠ .unset) ∧
    ∀ p, ∃ defects : List Defect,
      (∀ d ∈ defects, d.Missing (w'.models.programs.get p).vars.length) ∧
      defectMessages w'.models (.proper p) =
        if defects.all Defect.isWritable then .ok (defects.map Defect.message)
        else .error .notWritable := by
  intro earlier later blank w w'
  have built : Leads Operation.Public blank.models earlier w.models :=
    .of_performAll (by decide +kernel)
  have further : Leads Operation.Public w.models later w'.models :=
    .of_performAll (by decide +kernel)
  obtain ⟨rows, -, -, -, complaints⟩ := store_invariant built further
  exact ⟨rows, complaints⟩

end Leads

end Model

end LinearDispatch
