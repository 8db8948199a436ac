import LinearDispatch.Proofs.Check
import LinearDispatch.Proofs.FirstFailure
import LinearDispatch.Proofs.Solutions

/-!
# Handing over keeps the solutions

A solve in which no call fails hands its adapter every column, every row and the objective of the
program, each once and in order, and what it hands over has the solutions of the program. The
first half is about the ledger: a conversation that gets past the objective has been through all
parts. The second half is `Store.satisfies_parts`.

The check before the solve is what makes the parts a model of their own: no row and not the
objective mentions a column that is not handed over.
-/

namespace LinearDispatch

/-! ## The ledger -/

/-- The call itself did not fail. -/
def Entry.answered : Entry → Bool
  | create r | start _ r | give _ r | close r => r.isOk
  | version r | values r | objectiveValue r => r.isOk
  | solve r => r.isOk

/-- The part that a request hands over. -/
def Request.part? : Request → Option Part
  | give part => some part
  | _ => none

theorem Entry.part?_request (x : Entry) : x.request.part? = x.part? := by
  cases x <;> rfl

theorem filterMap_part?_eq (l : List Entry) :
    l.filterMap Entry.part? = (l.map Entry.request).filterMap Request.part? := by
  rw [List.filterMap_map]
  exact congrArg (List.filterMap · l) (funext fun x => x.part?_request.symm)

/-- What comes on the agenda behind the parts. -/
def Request.isLate : Request → Bool
  | solve | values | objectiveValue => true
  | _ => false

/-- A conversation whose last call was answered has come to the solve at least. -/
theorem Ends.isLate {columns : ℕ} {x : Entry} (h : Ends columns x) (answered : x.answered = true) :
    x.request.isLate = true := by
  cases h with
  | unusable bad => rfl
  | misfit read bad => rfl
  | through raw => rfl
  | @failed x e fails =>
      match x with
      | .create (.error _) | .start _ (.error _) | .version (.error _) | .give _ (.error _) =>
          cases answered
      | .create (.ok _) | .start _ (.ok _) | .version (.ok _) | .give _ (.ok _) | .close _ =>
          cases fails
      | .solve _ | .values _ | .objectiveValue _ => rfl

/-- A conversation that has come to the solve has handed over every part. -/
theorem InOrder.filterMap_part? {problem : Problem} {parameters : Given Parameters} {columns : ℕ}
    {done : List Entry} {last : Entry}
    (h : InOrder (agenda problem parameters) columns done last)
    (late : last.request.isLate = true) :
    (done ++ [last]).filterMap Entry.part? = problem.parts := by
  rw [filterMap_part?_eq]
  obtain ⟨rest, hrest⟩ := h.asked
  unfold agenda at hrest
  have parts : (problem.parts.map Request.give).filterMap Request.part? = problem.parts := by
    rw [List.filterMap_map]
    exact List.filterMap_some
  rcases List.append_eq_append_iff.1 hrest with ⟨more, early, -⟩ | ⟨more, asked, tail⟩
  · have mem : last.request ∈ [.start parameters, .version] ++ problem.parts.map .give := by
      rw [early, List.map_append]
      exact List.mem_append_left _ List.mem_concat_self
    exfalso
    cases hlast : last.request with
    | solve | values | objectiveValue => simp [hlast] at mem
    | create | start | version | give | close => simp [hlast, Request.isLate] at late
  · have behind : more.filterMap Request.part? = [] := by
      refine List.filterMap_eq_nil_iff.2 fun q hq => ?_
      have mem : q ∈ [Request.solve, .values, .objectiveValue] := by
        rw [tail]
        exact List.mem_append_left _ hq
      simp only [List.mem_cons, List.not_mem_nil, or_false] at mem
      rcases mem with rfl | rfl | rfl <;> rfl
    rw [asked, List.filterMap_append, List.filterMap_append, parts, behind, List.append_nil]
    rfl

/-- A solve whose adapter takes the problem is a conversation with it. -/
theorem Protocol.of_accepted {A : Type} [Adapter A] {catalog : Catalog Workspace A}
    {program : Given (Ref Program)} {parameters : Given Parameters} {backend : Value}
    {w : Workspace} {l : List Entry} {problem : Problem} {adapter : A}
    (h : Protocol catalog program parameters backend w l)
    (accepted : Accepted catalog program backend w problem adapter) :
    ∃ done last closed, l = .create (.ok ()) :: (done ++ [last] ++ [.close closed]) ∧
      InOrder (agenda problem parameters) problem.columns.length done last ∧
      Ends problem.columns.length last := by
  cases h with
  | untouched why =>
      exfalso
      cases why with
      | inl unsound => exact unsound accepted.made.sound.check
      | inr absent =>
          obtain ⟨make, found⟩ := accepted.made.present
          exact absent make found
  | unmade made => cases (made.unique accepted.made).2
  | refused made whole lacks =>
      obtain ⟨rfl, same⟩ := made.unique accepted.made
      cases same
      exact absurd (accepted.takes whole) lacks
  | driven accepted' order ends =>
      obtain ⟨rfl, -⟩ := accepted'.made.unique accepted.made
      exact ⟨_, _, _, rfl, order, ends⟩

/-! ## The translation -/

/-- The terms of a part that has some. -/
def Part.terms? : Part → Option (List (ℕ × Float))
  | column .. => none
  | row coefficients .. | objective coefficients => coefficients.terms?

/-- A list of parts is a program, as it stands in the store. -/
structure Translates (models : Store) (p : Program) (sent : List Part) : Prop where
  /-- every column, every row and the objective, each once and in the order of the program -/
  order : sent = (p.vars.map models.column).mapIdx Column.part ++
    (p.rows.map models.row).mapIdx Row.part ++
    [.objective (models.expressions.get p.objective).handedOver]
  /-- what stands among the rows of the program is a row -/
  whole : p.constraints = p.rows.map .proper
  /-- the rows and the objective have the terms of their expressions, signs included -/
  terms : sent.filterMap Part.terms? =
    p.rows.map (fun r => (models.row r).expression.coefficients.entries) ++
      [(models.expressions.get p.objective).coefficients.entries]
  /-- no term is about a column that is not there -/
  known : ∀ terms ∈ sent.filterMap Part.terms?, ∀ t ∈ terms, t.1 < p.vars.length
  /-- what satisfies the parts is what satisfies the program -/
  solutions : ∀ x, Satisfies sent x ↔ models.Feasible p x

theorem filterMap_mapIdx {α β : Type} {g : Part → Option β} {k : α → Option β} (l : List α) :
    ∀ {f : ℕ → α → Part}, (∀ i a, g (f i a) = k a) → (l.mapIdx f).filterMap g = l.filterMap k := by
  induction l with
  | nil => exact fun _ => rfl
  | cons a rest ih =>
      intro f h
      rw [List.mapIdx_cons, List.filterMap_cons, List.filterMap_cons, h, ih fun i => h (i + 1)]

theorem Problem.filterMap_terms?_parts (problem : Problem) :
    problem.parts.filterMap Part.terms? =
      problem.rows.map (·.expression.coefficients.entries) ++
        [problem.objective.coefficients.entries] := by
  have columns : ∀ i c, (Column.part i c).terms? = none := fun _ _ => rfl
  have rows : ∀ i r, (Row.part i r).terms? = some r.expression.coefficients.entries :=
    fun _ r => terms?_handedOver r.expression
  have objective : (Part.objective problem.objective.handedOver).terms? =
      some problem.objective.coefficients.entries := terms?_handedOver problem.objective
  unfold parts
  rw [List.filterMap_append, List.filterMap_append, filterMap_mapIdx _ columns,
    filterMap_mapIdx _ rows, List.filterMap_cons_some objective,
    List.filterMap_eq_nil_iff.2 fun _ _ => rfl, List.nil_append]
  exact congrArg (· ++ _) (congrFun List.filterMap_eq_map _)

theorem Program.constraints_eq {p : Program} (h : p.strays = []) :
    p.constraints = p.rows.map .proper := by
  unfold strays at h
  unfold rows
  generalize p.constraints = constraints at h ⊢
  generalize 0 = before at h
  induction constraints generalizing before with
  | nil => rfl
  | cons given rest ih =>
      cases given with
      | proper c => exact congrArg (.proper c :: ·) (ih _ h)
      | other f => cases h

theorem Sound.translates {models : Store} {p : Ref Program} {problem : Problem}
    (h : Sound models (.proper p) problem) :
    Translates models (models.programs.get p) problem.parts := by
  obtain ⟨rfl, none, -⟩ := h.clear
  have columns : (models.problem p).columns.length = (models.programs.get p).vars.length :=
    List.length_map _
  constructor
  · rfl
  · exact Program.constraints_eq none
  · rw [Problem.filterMap_terms?_parts, Store.problem, List.map_map]
    rfl
  · rw [Problem.filterMap_terms?_parts, ← columns]
    intro terms hterms
    cases List.mem_append.1 hterms with
    | inl hterms =>
        obtain ⟨r, hr, rfl⟩ := List.mem_map.1 hterms
        exact h.lt_of_mem_row hr
    | inr hterms =>
        rw [List.mem_singleton.1 hterms]
        exact h.lt_of_mem_objective
  · exact models.satisfies_parts p

namespace Solver

/-- A solve in which the check finds nothing, the adapter takes the problem and no call fails
hands over the program as it stands at that moment. -/
theorem handover_translates {A : Type} [Adapter A] (catalog : Catalog Workspace A)
    (p : Ref Program) (backend : Value) (parameters : Option (Given Parameters))
    (s : Solver × Workspace) {problem : Problem} {adapter : A}
    (accepted : Accepted catalog (.proper p) backend s.2 problem adapter)
    (quiet : ∀ x ∈ ledger catalog (.proper p) backend parameters s, x.answered = true) :
    Translates s.2.models (s.2.models.programs.get p)
      ((ledger catalog (.proper p) backend parameters s).filterMap Entry.part?) := by
  obtain ⟨r, course, -⟩ := solve_course catalog (.proper p) backend parameters s
  obtain ⟨done, last, closed, hl, order, ends⟩ := course.protocol.of_accepted accepted
  rw [hl] at quiet ⊢
  have late := ends.isLate (quiet _ (last_mem_ledger _ _ _))
  have parts : (Entry.create (.ok ()) :: (done ++ [last] ++ [.close closed])).filterMap
      Entry.part? = problem.parts := by
    rw [List.filterMap_cons, List.filterMap_append, order.filterMap_part? late]
    exact List.append_nil _
  rw [parts]
  exact accepted.made.sound.translates

/-- A program with one binary column on an adapter that fails nowhere. -/
theorem handover_translates_sample :
    let catalog := Sample.catalog fun _ => none
    let s := (new none, Sample.workspace .binary)
    Translates s.2.models (s.2.models.programs.get ⟨0⟩)
      ((ledger catalog Sample.program (.text "sample") none s).filterMap Entry.part?) := by
  intro catalog s
  have sound : Sound s.2.models Sample.program (s.2.models.problem ⟨0⟩) :=
    ⟨⟨⟨0⟩, rfl, rfl⟩, by decide +kernel⟩
  have accepted : Accepted catalog Sample.program (.text "sample") s.2 (s.2.models.problem ⟨0⟩)
      (.scripted ⟨Sample.script fun _ => none, 1, 0⟩) :=
    ⟨⟨sound, _, rfl, rfl⟩, fun _ => rfl⟩
  exact handover_translates catalog ⟨0⟩ (.text "sample") none s accepted (by decide +kernel)

end Solver

end LinearDispatch
