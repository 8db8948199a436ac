import LinearDispatch.Proofs.Course
import LinearDispatch.Proofs.FirstFailure
import Mathlib.Tactic.SplitIfs

/-!
# Categories of problems

A problem has a category, which is the first of four tests that it passes. Three of the tests
compare the number of columns of one kind with the number of all columns, and the last one looks
for a column that is not continuous. What a category says of a problem depends on all the tests
before it: the last test is passed by every problem with columns of whole values, but what is left
for it are the ones with integer and binary columns and no others.

`Category.Says` is what each category says of the three numbers by itself, and `category_iff` that
this is what it comes to. A solve asks for columns of whole values when it decides whether an
adapter is refused, and for the category when it tells why. `refused_iff_category` is that the two
never disagree: no solve is refused because of a problem that it calls continuous.
-/

namespace LinearDispatch

namespace Problem

/-- What a category says of the numbers of continuous, integer and binary columns. -/
def Category.Says (c i b : Nat) : Category → Prop
  | mixedInteger => 0 < c ∧ 0 < i + b
  | integer => 0 < i ∧ c = 0 ∧ b = 0
  | binary => 0 < b ∧ c = 0 ∧ i = 0
  | integerBinary => 0 < i ∧ 0 < b ∧ c = 0
  | continuous => i = 0 ∧ b = 0

/-- No two categories say the same. -/
theorem Category.Says.unique {c i b : Nat} {k k' : Category} (h : k.Says c i b)
    (h' : k'.Says c i b) : k = k' := by
  cases k <;> cases k' <;> first | rfl | (simp only [Says] at h h'; omega)

theorem Category.label_inj {k k' : Category} : k.label = k'.label ↔ k = k' := by
  constructor
  · intro same
    cases k <;> cases k' <;> first | rfl | exact absurd same (by decide)
  · rintro rfl
    rfl

variable (p : Problem)

/-- Every column is of one of the three kinds. -/
theorem count_kinds :
    p.count .continuous + p.count .integer + p.count .binary = p.columns.length := by
  unfold count
  induction p.columns with
  | nil => rfl
  | cons c rest ih =>
      simp only [List.countP_cons, List.length_cons]
      cases c.kind <;> simp <;> omega

/-- Columns of whole values are the integer and the binary ones. -/
theorem hasInteger_iff : p.hasInteger = true ↔ 0 < p.count .integer + p.count .binary := by
  have positive (kind : VariableKind) : 0 < p.count kind ↔ ∃ c ∈ p.columns, c.kind = kind := by
    unfold count
    rw [List.countP_pos_iff]
    simp only [decide_eq_true_eq]
  rw [Nat.add_pos_iff_pos_or_pos, positive, positive, hasInteger, List.any_eq_true]
  constructor
  · rintro ⟨c, mem, whole⟩
    cases kind : c.kind with
    | continuous => simp [kind] at whole
    | integer => exact .inl ⟨c, mem, kind⟩
    | binary => exact .inr ⟨c, mem, kind⟩
  · rintro (⟨c, mem, kind⟩ | ⟨c, mem, kind⟩)
    · exact ⟨c, mem, by simp [kind]⟩
    · exact ⟨c, mem, by simp [kind]⟩

theorem isMixedInteger_iff :
    p.isMixedInteger = true ↔
      0 < p.count .continuous ∧ p.count .continuous < p.columns.length := by
  rw [isMixedInteger, Bool.and_eq_true, decide_eq_true_eq, decide_eq_true_eq]

theorem isOnly_iff (kind : VariableKind) :
    p.isOnly kind = true ↔ 0 < p.count kind ∧ p.count kind = p.columns.length := by
  rw [isOnly, Bool.and_eq_true, decide_eq_true_eq, decide_eq_true_eq]

/-- The category of a problem is right about it. -/
theorem category_says :
    p.category.Says (p.count .continuous) (p.count .integer) (p.count .binary) := by
  have all := p.count_kinds
  unfold category
  split_ifs <;>
    simp only [isMixedInteger_iff, isOnly_iff, hasInteger_iff, Category.Says] at * <;> omega

theorem category_iff (k : Category) :
    p.category = k ↔ k.Says (p.count .continuous) (p.count .integer) (p.count .binary) := by
  constructor
  · rintro rfl
    exact p.category_says
  · exact p.category_says.unique

/-- The search for columns of whole values finds none just in the problems of the last category. -/
theorem hasInteger_iff_category : p.hasInteger = true ↔ p.category ≠ .continuous := by
  rw [hasInteger_iff, Ne, category_iff, Category.Says]
  omega

/-- No problem passes two of the three tests by number. -/
theorem count_tests_le :
    [p.isMixedInteger, p.isOnly .integer, p.isOnly .binary].count true ≤ 1 := by
  have all := p.count_kinds
  simp only [List.count_cons, List.count_nil, beq_iff_eq, isMixedInteger_iff, isOnly_iff]
  split_ifs <;> omega

/-- How the counts, the tests and the label of a problem go together. -/
structure Classified : Prop where
  counted : p.count .continuous + p.count .integer + p.count .binary = p.columns.length
  exclusive : [p.isMixedInteger, p.isOnly .integer, p.isOnly .binary].count true ≤ 1
  whole : p.hasInteger = true ↔ 0 < p.count .integer + p.count .binary
  continuous : p.hasInteger = true ↔ p.category.label ≠ "continuous"
  label : ∀ k : Category, p.category.label = k.label ↔
    k.Says (p.count .continuous) (p.count .integer) (p.count .binary)

theorem classified : p.Classified where
  counted := p.count_kinds
  exclusive := p.count_tests_le
  whole := p.hasInteger_iff
  continuous := p.hasInteger_iff_category.trans
    (not_congr (@Category.label_inj _ .continuous).symm)
  label k := Category.label_inj.trans (p.category_iff k)

end Problem

/-! ## Refusals -/

namespace Dispatch

theorem head?_append {s t : String} {c : Char} (h : s.toList.head? = some c) :
    (s ++ t).toList.head? = some c := by
  rw [String.toList_append, List.head?_append, h, Option.some_or]

theorem head?_message (d : Defect) : ∃ c, d.message.toList.head? = some c ∧ c ≠ 'b' := by
  cases d with
  | notAProblem type => exact ⟨'e', head?_append (by decide), by decide⟩
  | noVariables => exact ⟨'p', by decide, by decide⟩
  | objectiveColumns indices => exact ⟨'o', head?_append (by decide), by decide⟩
  | rowWithoutBound row => exact ⟨'c', head?_append (head?_append (by decide)), by decide⟩
  | rowColumns row indices =>
      exact ⟨'c', head?_append (head?_append (head?_append (by decide))), by decide⟩

/-- A refusal begins with the backend, and no finding of the check does. -/
theorem message_refusal_ne (problem : Problem) (backend : Value) (d : Defect) :
    (refusal problem backend).message ≠ .text d.message := by
  intro same
  -- the first letters tell them apart, whatever names and numbers follow
  have begins : d.message.toList.head? = some 'b' := by
    rw [← Value.text.inj same]
    exact head?_append (head?_append (head?_append (head?_append (by decide))))
  obtain ⟨c, begins', other⟩ := head?_message d
  rw [begins'] at begins
  exact other (Option.some.inj begins)

theorem refusal_not_mem_findings {models : Store} {program : Given (Ref Program)}
    {messages : List String} (check : Model.defectMessages models program = .ok messages)
    (problem : Problem) (backend : Value) :
    ∀ m ∈ messages, (refusal problem backend).message ≠ .text m := by
  cases program with
  | other f =>
      cases check
      rw [List.forall_mem_singleton]
      exact message_refusal_ne problem backend _
  | proper p =>
      rw [defectMessages_proper] at check
      cases found : (models.problem p).inspect with
      | error e =>
          rw [found] at check
          cases check
      | ok defects =>
          rw [found] at check
          cases check
          rw [List.forall_mem_map]
          exact fun d _ => message_refusal_ne problem backend d

end Dispatch

/-- The program is sound, and the adapter made for it does not take columns of whole values. -/
def Lacking {A : Type} [Adapter A] (catalog : Catalog Workspace A) (program : Given (Ref Program))
    (backend : Value) (w : Workspace) (problem : Problem) : Prop :=
  ∃ adapter, Made catalog program backend w problem (.ok adapter) ∧
    Adapter.supportsInteger adapter = .ok false

section

variable {A : Type} [Adapter A] {catalog : Catalog Workspace A} {program : Given (Ref Program)}
  {parameters : Given Parameters} {backend : Value} {w : Workspace} {problem : Problem}
  {l : List Entry}

/-- What a conversation comes to is never told as a fault of the problem. -/
theorem Conversation.kind_ne {talk : List Entry} {ended : Except Failure Outcome}
    (h : Conversation problem parameters backend talk ended) {outcome : Outcome}
    (told : Dispatch.verdict backend ended = .ok outcome) :
    ∀ d ∈ outcome.diagnostics, d.kind ≠ .invalidProblem := by
  cases h with
  | @failed _ _ e order fails =>
      cases caught : e.isUnavailable with
      | true =>
          rw [Dispatch.verdict_of_unavailable caught] at told
          cases told
          simp
      | false =>
          rw [Dispatch.verdict_of_other caught] at told
          cases told
          simp
  | @unusable _ status order bad =>
      have unusable : (Outcome.mk (.without status backend) []).solution.success = false := bad
      cases unexplained : status.unexplained? with
      | some e =>
          rw [Dispatch.verdict_of_unexplained unusable unexplained] at told
          cases told
      | none =>
          rw [Dispatch.verdict_of_explained unusable unexplained] at told
          cases told
          simp
  | misfit order read bad =>
      cases told
      simp [Dispatch.wrongLength]
  | @solved _ status _ values _ objective order answered valued read readObjective =>
      have success : (Outcome.mk ⟨status, some (.real objective), values.map .real, backend⟩
          []).solution.success = true := order.fine _ answered
      rw [Dispatch.verdict_of_success success] at told
      cases told
      simp

/-- A solve that tells a refusal was refused. -/
theorem Course.lacking_of_refusal {outcome : Outcome}
    (h : Course catalog program parameters backend w l (.ok outcome))
    (told : Dispatch.refusal problem backend ∈ outcome.diagnostics) :
    ∃ problem', Lacking catalog program backend w problem' ∧ problem'.hasInteger = true := by
  cases h with
  | invalid check found =>
      obtain ⟨m, mem, same⟩ := List.mem_map.1 told
      exact absurd (congrArg Diagnostic.message same).symm
        (Dispatch.refusal_not_mem_findings check problem backend m mem)
  | unknown sound absent => cases List.mem_singleton.1 told
  | unavailable made caught => cases List.mem_singleton.1 told
  | refused made whole lacks => exact ⟨_, ⟨_, made, lacks⟩, whole⟩
  | driven accepted made drive conversation answer =>
      exact absurd rfl (conversation.kind_ne answer _ told)

/-- Every solve with an adapter that lacks columns of whole values is refused if the problem has
some, before anything else is asked of the adapter. -/
theorem Course.of_lacking {r : Except Failure Outcome}
    (h : Course catalog program parameters backend w l r)
    (lacking : Lacking catalog program backend w problem) (whole : problem.hasInteger = true) :
    l = [.create (.ok ())] ∧
      r = .ok ⟨.without .invalidProblem backend, [Dispatch.refusal problem backend]⟩ := by
  obtain ⟨adapter, made, lacks⟩ := lacking
  cases h with
  | unchecked check => cases made.sound.check.symm.trans check
  | invalid check found =>
      cases made.sound.check.symm.trans check
      exact absurd rfl found
  | unnamed sound unwritten =>
      obtain ⟨make, present⟩ := made.present
      cases present.symm.trans unwritten
  | unknown sound absent =>
      obtain ⟨make, present⟩ := made.present
      cases present.symm.trans absent
  | unavailable made' caught => cases (made.unique made').2
  | unmade made' missed => cases (made.unique made').2
  | unasked made' whole' asked =>
      obtain ⟨rfl, same⟩ := made.unique made'
      cases same
      cases lacks.symm.trans asked
  | refused made' whole' lacks' =>
      obtain ⟨rfl, -⟩ := made.unique made'
      exact ⟨rfl, rfl⟩
  | driven accepted =>
      obtain ⟨rfl, same⟩ := made.unique accepted.made
      cases same
      cases lacks.symm.trans (accepted.takes whole)

end

namespace Solver

/-- The numbers of columns, the tests and the category of a problem agree, whichever its columns
are. So a solve tells that an adapter cannot have a program exactly if the adapter made for it
takes no columns of whole values and the category of the program is another than that of
continuous problems; then nothing else is told, and nothing is asked of the adapter. -/
theorem refused_iff_category {A : Type} [Adapter A] (catalog : Catalog Workspace A)
    (p : Ref Program) (backend : Value) (parameters : Option (Given Parameters))
    (s : Solver × Workspace) :
    (∀ problem : Problem, problem.Classified) ∧
      let problem := s.2.models.problem p
      let run := (solveFrom catalog (.proper p) backend parameters).run s
      (Dispatch.refusal problem backend ∈ run.2.1.diagnostics ↔
          Lacking catalog (.proper p) backend s.2 problem ∧
            problem.category.label ≠ "continuous") ∧
        (Lacking catalog (.proper p) backend s.2 problem →
          problem.category.label ≠ "continuous" →
            run.1 = .ok false ∧ run.2.1.solution = .without .invalidProblem backend ∧
              run.2.1.diagnostics = [Dispatch.refusal problem backend] ∧
              ledger catalog (.proper p) backend parameters s = [.create (.ok ())]) := by
  refine ⟨Problem.classified, ?_⟩
  intro problem run
  obtain ⟨r, course, answer, left⟩ := solve_course catalog (.proper p) backend parameters s
  have refused : Lacking catalog (.proper p) backend s.2 problem →
      problem.category.label ≠ "continuous" →
        run.1 = .ok false ∧ run.2.1.solution = .without .invalidProblem backend ∧
          run.2.1.diagnostics = [Dispatch.refusal problem backend] ∧
          ledger catalog (.proper p) backend parameters s = [.create (.ok ())] := by
    intro lacking category
    have whole := problem.classified.continuous.2 category
    obtain ⟨calls, rfl⟩ := course.of_lacking lacking whole
    exact ⟨answer, congrArg Solver.solution left, congrArg Solver.diagnostics left, calls⟩
  refine ⟨⟨fun told => ?_, fun h => ?_⟩, refused⟩
  · rw [show run.2.1 = _ from left] at told
    cases r with
    | error e => cases told
    | ok outcome =>
        obtain ⟨problem', lacking, whole⟩ := course.lacking_of_refusal told
        obtain ⟨adapter, made, lacks⟩ := lacking
        obtain ⟨_, same, rfl⟩ := made.sound.reads
        cases same
        exact ⟨⟨adapter, made, lacks⟩, problem.classified.continuous.1 whole⟩
  · rw [(refused h.1 h.2).2.2.1]
    exact List.mem_singleton_self _

end Solver

/-! ## A refused solve -/

namespace Sample

/-- A catalog with an adapter without columns of whole values under every name. -/
def continuousOnly : Catalog Workspace Backend :=
  let script := { script (fun _ => none) with supportsInteger := false }
  fun _ _ => some (Factory.make (.scripted script))

end Sample

namespace Solver

theorem refused_iff_category_binary :
    let s := (new none, Sample.workspace .binary)
    let problem := s.2.models.problem ⟨0⟩
    let run := (solveFrom Sample.continuousOnly Sample.program (.text "s") none).run s
    Lacking Sample.continuousOnly Sample.program (.text "s") s.2 problem ∧
      problem.category.label = "binary" ∧ run.1 = .ok false ∧
      run.2.1.diagnostics = [⟨.invalidProblem,
        "backend 's' cannot solve programs with integer variables (binary program given)"⟩] := by
  intro s problem run
  have lacking : Lacking Sample.continuousOnly Sample.program (.text "s") s.2 problem :=
    ⟨_, ⟨⟨⟨⟨0⟩, rfl, rfl⟩, by decide +kernel⟩, _, rfl, rfl⟩, rfl⟩
  have category : problem.category.label = "binary" := by decide +kernel
  have refused := (refused_iff_category Sample.continuousOnly ⟨0⟩ (.text "s") none s).2.2 lacking
    (by rw [category]; decide)
  exact ⟨lacking, category, refused.1, refused.2.2.1.trans (by decide +kernel)⟩

end Solver

end LinearDispatch
