import LinearDispatch.Proofs.Verdict

/-!
# The last answer counts

An adapter may have a model solved a second time, if the first answer leaves open what it means.
What it reports, and what it answers when it is asked for values and for the objective, is the last
answer then: of the answers that a library has in store, number `k` after `k + 1` solves, and of
what those solves have left to be read, the last. This file follows each adapter from the moment at
which all parts are handed over through its solve, for any answers, and through the read-back, for
answers that are numbers.
-/

namespace LinearDispatch

open LinearDispatch.Action Workspace

/-! ## Numbers -/

/-- Each of the values is a number, namely the one at its place. -/
def Numbers (values : List Value) (xs : List Float) : Prop :=
  List.Forall₂ (fun v x => Value.toFloat v = .ok x) values xs

theorem Numbers.mapM {values : List Value} {xs : List Float} (h : Numbers values xs) :
    values.mapM Value.toFloat = .ok xs := by
  induction h with
  | nil => rfl
  | cons here _ ih =>
      rw [List.mapM_cons, here, ih]
      rfl

theorem numbers_map_ofFloat (xs : List Float) : Numbers (xs.map Value.ofFloat) xs := by
  induction xs with
  | nil => exact .nil
  | cons x rest ih => exact .cons rfl ih

theorem Numbers.readValues {values : List Value} {xs : List Float} (h : Numbers values xs) :
    Dispatch.readValues (.list values) = .ok xs :=
  h.mapM

theorem headD_eq_getD {α : Type} (answers : List α) (default : α) :
    answers.headD default = answers.getD 0 default := by
  cases answers <;> rfl

theorem headD_tail {α : Type} (answers : List α) (default : α) :
    answers.tail.headD default = answers.getD 1 default := by
  cases answers with
  | nil => rfl
  | cons a rest => cases rest <;> rfl

/-! ## What is left to be read -/

/-- What solve number `k` left to be read, or the last before it that left something. -/
def lastLeft {α : Type} (readings : List α) (k : ℕ) : Option α :=
  (readings.take (k + 1)).getLast?

theorem lastLeft_zero {α : Type} (readings : List α) : lastLeft readings 0 = readings.head? := by
  cases readings <;> rfl

/-- A second solve that leaves nothing leaves what the first one left. -/
theorem lastLeft_one {α : Type} (readings : List α) :
    lastLeft readings 1 = (readings.tail.head? <|> readings.head?) := by
  rcases readings with _ | ⟨first, _ | ⟨second, rest⟩⟩ <;> rfl

/-- What is read of so many columns and of the objective, where all of it can be read. -/
structure Reading.Gives (reading : Reading) (columns : ℕ) (values : List Value)
    (objective : Value) : Prop where
  values : List.Forall₂ (fun i v => reading.values i = .ok v) (List.range columns) values
  objective : reading.objective = .ok objective

theorem mapM_eq_ok_of_forall₂ {α β : Type} {f : α → Except Failure β} {items : List α}
    {found : List β} (h : List.Forall₂ (fun a b => f a = .ok b) items found) :
    items.mapM f = .ok found := by
  induction h with
  | nil => rfl
  | cons here _ ih =>
      rw [List.mapM_cons, here, ih]
      rfl

/-! ## OR-Tools -/

/-- What there is to be read of a solver after solve number `k`. -/
def OrToolsService.readingAt (service : OrToolsService) (k : ℕ) : Reading :=
  (lastLeft service.readings k).getD service.reading

namespace OrToolsAdapter

/-- The adapter when a solve has left this to be read. -/
def keeping (a : OrToolsAdapter) (left : Option Reading) : OrToolsAdapter :=
  { a with solver := a.solver.map fun s => { s with reading := left <|> s.reading } }

theorem keeping_keeping (a : OrToolsAdapter) (readings : List Reading) :
    (a.keeping (lastLeft readings 0)).keeping readings.tail.head? =
      a.keeping (lastLeft readings 1) := by
  rw [lastLeft_zero, lastLeft_one]
  unfold keeping
  rw [Option.map_map]
  congr 2
  funext solver
  cases readings.tail.head? <;> cases readings.head? <;> rfl

/-- From one workspace to another these calls are made, and what the library has to be read apart
from what solves leave stays. -/
structure Solved (made : List OrToolsCall) (w w' : Workspace) : Prop where
  calls : w'.calls = w.calls ++ made.map .orTools
  faults : w'.faults = w.faults
  reading : w'.orTools.reading = w.orTools.reading

theorem Solved.trans {made more : List OrToolsCall} {w w' w'' : Workspace} (h : Solved made w w')
    (h' : Solved more w' w'') : Solved (made ++ more) w w'' := by
  refine ⟨?_, h'.faults.trans h.faults, h'.reading.trans h.reading⟩
  rw [h'.calls, h.calls, List.append_assoc, List.map_append]

theorem Solved.of_noted {w w' : Workspace} (h : w.Noted w') : Solved [] w w' :=
  ⟨by rw [h.calls_eq]; exact (List.append_nil _).symm, h.faults_eq, by rw [h.orTools_eq]⟩

theorem Solved.and_noted {made : List OrToolsCall} {w w' w'' : Workspace} (h : Solved made w w')
    (h' : w'.Noted w'') : Solved made w w'' := by
  have both := h.trans (.of_noted h')
  rwa [List.append_nil] at both

theorem Solved.tells {made : List OrToolsCall} {w w' : Workspace} (h : Solved made w w') :
    w.Tells ((made.map NativeCall.orTools).filter (·.makes))
      ((made.map NativeCall.orTools).countP (·.solves)) w' :=
  ⟨_, h.calls, rfl, rfl⟩

theorem solveOnce_run (a : OrToolsAdapter) {w : Workspace} (quiet : Quiet .orTools w) :
    ∃ w', solveOnce.run (a, w) = (.ok (w.orTools.statuses.headD (.ofInt 0)),
        a.keeping w.orTools.readings.head?, w') ∧
      Solved [.solve] w w' ∧ w'.orTools.statuses = w.orTools.statuses.tail ∧
      w'.orTools.readings = w.orTools.readings.tail ∧
      w'.orTools.parameterAnswers = w.orTools.parameterAnswers := by
  refine ⟨{ w.afterCall (.orTools .solve) with
    orTools := { w.orTools with
      statuses := w.orTools.statuses.tail, readings := w.orTools.readings.tail } }, ?_,
    ⟨w.calls_afterCall (.orTools .solve), rfl, rfl⟩, rfl, rfl, rfl⟩
  unfold solveOnce OrToolsService.solve
  rw [run_bind, run_liftM, run_bind, run_call, quiet]
  rfl

/-- The solver takes the next parameter text. -/
def accepts (w : Workspace) : Bool :=
  w.orTools.parameterAnswers.headD true

/-- A second attempt solves the model once more, or the solver does not take the option and the
model stays infeasible. -/
theorem solveAgain_run (code : String → Int) (a : OrToolsAdapter) {w : Workspace}
    (quiet : Quiet .orTools w) :
    ∃ w', (solveAgain code).run (a, w) =
        (.ok (if accepts w then w.orTools.statuses.headD (.ofInt 0)
            else .ofInt (code "INFEASIBLE")),
          if accepts w then a.keeping w.orTools.readings.head? else a, w') ∧
      Solved (.setParameterText (withoutPreprocessing a.optionText) ::
        if accepts w then [.solve] else []) w w' := by
  obtain ⟨w₁, logged, noted⟩ : ∃ w₁, (log .orTools .debug
      "GLOP reported INFEASIBLE; solving again without presolve").run w = (.ok (), w₁) ∧
      w.Noted w₁ := ⟨_, rfl, noted_log _ _ _ w⟩
  have quiet₁ : Quiet .orTools w₁ := quiet.of_faults noted.faults_eq
  obtain ⟨w₂, told, solved, statuses, readings⟩ : ∃ w₂,
      (OrToolsService.setParameterText (withoutPreprocessing a.optionText)).run w₁ =
        (.ok (accepts w₁), w₂) ∧
        Solved [.setParameterText (withoutPreprocessing a.optionText)] w₁ w₂ ∧
        w₂.orTools.statuses = w₁.orTools.statuses ∧ w₂.orTools.readings = w₁.orTools.readings :=
    ⟨_, setParameterText_run _ quiet₁, ⟨w₁.calls_afterCall _, rfl, rfl⟩, rfl, rfl⟩
  have quiet₂ : Quiet .orTools w₂ := quiet₁.of_faults solved.faults
  have before := (Solved.of_noted noted).trans solved
  have same : accepts w₁ = accepts w := by rw [accepts, noted.orTools_eq, accepts]
  rw [noted.orTools_eq] at statuses readings
  rw [same] at told
  unfold solveAgain
  rw [run_bind, run_liftM, logged]
  dsimp only
  rw [run_bind, show (Adapter.look fun a => withoutPreprocessing a.optionText).run (a, w₁) =
    (.ok (withoutPreprocessing a.optionText), a, w₁) from rfl]
  dsimp only
  rw [run_bind, run_liftM, told]
  dsimp only
  cases accepts w with
  | false => exact ⟨_, rfl, before.and_noted (noted_log _ _ _ w₂)⟩
  | true =>
      obtain ⟨w₃, ran, solved₃, -⟩ := solveOnce_run a quiet₂
      simp only [reduceIte]
      rw [run_bind, ran, statuses, readings]
      have after := before.trans solved₃
      dsimp only
      split_ifs
      · exact ⟨_, rfl, after.and_noted (noted_log _ _ _ w₃)⟩
      · exact ⟨_, rfl, after⟩

/-! ### The whole solve

There are two attempts at most; status number 1 is the one of the second. -/

/-- The first status asks for a second attempt. -/
def retries (a : OrToolsAdapter) (w : Workspace) : Bool :=
  (w.orTools.statuses.getD 0 (.ofInt 0)).isInt (w.orTools.code "INFEASIBLE") &&
    a.solverId == "GLOP"

def solveCalls (a : OrToolsAdapter) (w : Workspace) : List OrToolsCall :=
  .solve :: if retries a w then
      .setParameterText (withoutPreprocessing a.optionText) :: if accepts w then [.solve] else []
    else []

/-- The number of the last solve. -/
def lastSolve (a : OrToolsAdapter) (w : Workspace) : ℕ :=
  if retries a w && accepts w then 1 else 0

/-- The status that the adapter judges: the last one, or the one that it keeps. -/
def judged (a : OrToolsAdapter) (w : Workspace) : Value :=
  if retries a w then
    if accepts w then w.orTools.statuses.getD 1 (.ofInt 0)
    else .ofInt (w.orTools.code "INFEASIBLE")
  else w.orTools.statuses.getD 0 (.ofInt 0)

theorem solve_run {a : OrToolsAdapter} {w : Workspace} {solver : OrToolsSolver}
    (opened : a.solver = some solver) (quiet : Quiet .orTools w) :
    ∃ w', Adapter.solve.run (a, w) =
        (judge w.orTools.code (judged a w)).run
          (a.keeping (lastLeft w.orTools.readings (lastSolve a w)), w') ∧
      Solved (solveCalls a w) w w' := by
  obtain ⟨w₁, first, solved₁, statuses, readings, answers⟩ := solveOnce_run a quiet
  rw [headD_eq_getD, ← lastLeft_zero] at first
  have begun : Adapter.solve.run (a, w) =
      (if retries a w then solveAgain w.orTools.code >>= judge w.orTools.code
        else judge w.orTools.code (w.orTools.statuses.getD 0 (.ofInt 0)) :
          Action (OrToolsAdapter × Workspace) (Given Status)).run
            (a.keeping (lastLeft w.orTools.readings 0), w₁) := by
    show (solve >>= fun status => pure (.proper status) :
      Action (OrToolsAdapter × Workspace) (Given Status)).run (a, w) = _
    unfold solve retries
    rw [bind_assoc, run_bind, requireSolver_run opened]
    dsimp only
    rw [bind_assoc, run_bind,
      show (Adapter.look (·.solverId)).run (a, w) = (.ok a.solverId, a, w) from rfl]
    dsimp only
    rw [bind_assoc, run_bind, run_gets]
    dsimp only
    rw [bind_assoc, run_bind, first]
    dsimp only
    split
    · simp only [bind_assoc, pure_bind]
      rfl
    · simp only [bind_assoc, pure_bind]
      rfl
  unfold judged solveCalls lastSolve
  cases retry : retries a w with
  | false =>
      rw [retry] at begun
      exact ⟨w₁, begun, solved₁⟩
  | true =>
      obtain ⟨w', again, solved⟩ := solveAgain_run w.orTools.code
        (a.keeping (lastLeft w.orTools.readings 0)) (quiet.of_faults solved₁.faults)
      have same : accepts w₁ = accepts w := by rw [accepts, answers, accepts]
      rw [same, statuses, headD_tail, readings, keeping_keeping] at again
      rw [same] at solved
      rw [retry, if_pos rfl, run_bind, again] at begun
      refine ⟨w', begun.trans ?_, solved₁.trans solved⟩
      cases accepts w <;> rfl

theorem infeasible_of_retries {a : OrToolsAdapter} {w : Workspace} (retry : retries a w = true) :
    (w.orTools.statuses.getD 0 (.ofInt 0)).isInt (w.orTools.code "INFEASIBLE") = true :=
  ((Bool.and_eq_true _ _).mp retry).1

/-- The adapter judges the last status of all, unless it has to keep one that is of no use. -/
theorem solve_last {infinity : Scalar} {columns : ℕ} {a : OrToolsAdapter} {w : Workspace}
    (serving : Serving infinity columns (a, w)) :
    ∃ k last made w', Solved made w w' ∧ w.Tells [] (k + 1) w' ∧
      Adapter.solve.run (a, w) =
        (judge w.orTools.code last).run (a.keeping (lastLeft w.orTools.readings k), w') ∧
      ((classify w.orTools.code (w.orTools.statuses.getD k (.ofInt 0))).usable = true →
        last = w.orTools.statuses.getD k (.ofInt 0)) := by
  obtain ⟨w', ran, solved⟩ := solve_run (a := a) (w := w) serving.solver serving.quiet
  have tells := solved.tells
  unfold solveCalls at tells
  unfold judged lastSolve at ran
  cases retry : retries a w with
  | false =>
      rw [retry] at ran tells
      exact ⟨0, _, _, w', solved, tells, ran, fun _ => rfl⟩
  | true =>
      rw [retry] at ran tells
      cases accepted : accepts w with
      | false =>
          rw [accepted] at ran tells
          refine ⟨0, _, _, w', solved, tells, ran, fun usable => ?_⟩
          rw [not_usable_of_infeasible (infeasible_of_retries retry)] at usable
          cases usable
      | true =>
          rw [accepted] at ran tells
          exact ⟨1, _, _, w', solved, tells, ran, fun _ => rfl⟩

/-- Handed all columns, the adapter solves so that its last status decides, and it answers with the
values of the native columns in their order, as the last solve left them. -/
theorem solve_yields {infinity : Scalar} {columns : ℕ} {s : OrToolsAdapter × Workspace}
    (serving : Serving infinity columns s) :
    ∃ k, s.2.Tells [] (k + 1) (Adapter.solve.run s).2.2 ∧ ∀ {values objective xs x},
      (classify s.2.orTools.code (s.2.orTools.statuses.getD k (.ofInt 0))).usable = true →
      (s.2.orTools.readingAt k).Gives columns values objective →
      Numbers values xs → objective.toFloat = .ok x →
      Adapter.Yields s
        (classify s.2.orTools.code (s.2.orTools.statuses.getD k (.ofInt 0))) xs x := by
  obtain ⟨k, last, made, w', solved, tells, ran, usable_⟩ := solve_last serving
  refine ⟨k, ?_, fun {values objective xs x} usable gives numbers number => ?_⟩
  · rw [show s = (s.1, s.2) from rfl, ran, judge_run]
    exact tells
  · cases usable_ usable
    generalize left : s.1.keeping (lastLeft s.2.orTools.readings k) = a at ran
    have solver : a.solver = some ⟨columns, lastLeft s.2.orTools.readings k⟩ := by
      rw [← left, keeping, serving.solver]
      cases lastLeft s.2.orTools.readings k <;> rfl
    have places : a.columns = List.range columns := by
      rw [← left]
      exact serving.places
    have read : (reading ⟨columns, lastLeft s.2.orTools.readings k⟩).run (a, w') =
        (.ok (s.2.orTools.readingAt k), a, w') := by
      unfold reading
      rw [run_bind, run_gets, solved.reading]
      rfl
    have listed : (Adapter.values (A := OrToolsAdapter)).run (a, w') =
        (.ok (.list values), a, w') := by
      show (Adapter.look id >>= _ : Action (OrToolsAdapter × Workspace) Value).run (a, w') = _
      rw [run_bind, show (Adapter.look (A := OrToolsAdapter) id).run (a, w') = (.ok a, a, w')
        from rfl]
      dsimp only [id]
      rw [solver]
      dsimp only
      rw [run_bind, read]
      dsimp only
      rw [run_bind, run_ofExcept, places, mapM_eq_ok_of_forall₂ gives.values]
      rfl
    have asked : (Adapter.objectiveValue (A := OrToolsAdapter)).run (a, w') =
        (.ok objective, a, w') := by
      show (requireSolver "Objective" >>= fun solver => reading solver >>= fun last =>
        Action.ofExcept last.objective).run (a, w') = _
      rw [run_bind, requireSolver_run solver]
      dsimp only
      rw [run_bind, read]
      dsimp only
      rw [run_ofExcept, gives.objective]
    rw [judge_run, verdict_of_usable usable] at ran
    exact ⟨usable, announced _ _, (a, w'), ran, ⟨_, listed, numbers.readValues⟩, _, asked, number⟩

end OrToolsAdapter

/-! ## HiGHS -/

/-- The answer to the model that is solved after `k` others and has so many columns. -/
def HighsService.answerTo (service : HighsService) (columns k : ℕ) : HighsAnswer :=
  let answer := service.answers.getD k HighsService.defaultAnswer
  { answer with
    values := some (answer.values.getD (.list (List.replicate columns (Value.ofFloat 0.0)))) }

namespace HighsAdapter

theorem milp_run {w : Workspace} (quiet : Quiet .highs w) (m : HighsModel) :
    ∃ w', (HighsService.milp m).run w = (.ok (w.highs.answerTo m.lower.length 0), w') ∧
      w'.calls = w.calls ++ [.highs m] ∧ w'.faults = w.faults ∧
      w'.highs.answers = w.highs.answers.tail := by
  refine ⟨{ w.afterCall (.highs m) with
    highs := { w.highs with answers := w.highs.answers.tail } }, ?_, w.calls_afterCall _, rfl, rfl⟩
  unfold HighsService.milp HighsService.answerTo
  rw [run_bind, run_call, quiet, ← headD_eq_getD, ← List.map_const']
  rfl

theorem answerTo_tail {service service' : HighsService}
    (h : service'.answers = service.answers.tail) (columns : ℕ) :
    service'.answerTo columns 0 = service.answerTo columns 1 := by
  unfold HighsService.answerTo
  rw [h, ← headD_eq_getD, headD_tail]

theorem requireStarted_run {a : HighsAdapter} (started : a.started = true) (w : Workspace) :
    requireStarted.run (a, w) = (.ok (), a, w) := by
  show (Action.check (if a.started then none else some .notOpened)).run (a, w) = _
  rw [started]
  rfl

/-- The models that are solved where this is the answer to the first of them, whose message is
looked at in any case. -/
def solvedModels (m : HighsModel) (first : HighsAnswer) : List HighsModel :=
  if first.message.isWritable && isAmbiguous first then [m, withoutPresolve m] else [m]

/-- What is left of a solve after the first attempt, which was given this answer. -/
def rest (m : HighsModel) (first : HighsAnswer) :
    Action (HighsAdapter × Workspace) (Given Status) := do
  Action.check first.message.unwritable?
  if isAmbiguous first then
    log .highs .debug "HiGHS presolve was inconclusive; solving again"
    let last ← HighsService.milp (withoutPresolve m)
    judge last
  else
    judge first

theorem solve_begins {a : HighsAdapter} {m : HighsModel} {w : Workspace} (quiet : Quiet .highs w)
    (started : a.started = true) (built : a.buildModel w.highs.arrays = .ok m) :
    ∃ w', Adapter.solve.run (a, w) =
        (rest m (w.highs.answerTo m.lower.length 0)).run (a, w') ∧
      w'.calls = w.calls ++ [.highs m] ∧ w'.faults = w.faults ∧
      w'.highs.answers = w.highs.answers.tail := by
  obtain ⟨w', first, calls, faults, answers⟩ := milp_run quiet m
  refine ⟨w', ?_, calls, faults, answers⟩
  show (solve >>= fun status => pure (.proper status) :
    Action (HighsAdapter × Workspace) (Given Status)).run (a, w) = _
  unfold solve rest
  rw [bind_assoc, run_bind, requireStarted_run started]
  dsimp only
  rw [bind_assoc, run_bind, show (Adapter.look (A := HighsAdapter) id).run (a, w) = (.ok a, a, w)
    from rfl]
  dsimp only
  rw [bind_assoc, run_bind, run_gets]
  dsimp only
  rw [bind_assoc, run_bind, run_ofExcept, built]
  dsimp only
  rw [bind_assoc, run_bind, run_liftM, first]
  dsimp only
  rw [bind_assoc]
  congr 2
  funext written
  split
  · simp only [bind_assoc]
    rfl
  · simp only [pure_bind]
    rfl

/-- If the first message can be written, the last answer is judged; if not, that is the end. -/
theorem solve_run {a : HighsAdapter} {m : HighsModel} {w : Workspace} (quiet : Quiet .highs w)
    (started : a.started = true) (built : a.buildModel w.highs.arrays = .ok m) :
    let answer := w.highs.answerTo m.lower.length
    ∃ w', w'.calls = w.calls ++ (solvedModels m (answer 0)).map .highs ∧
      Adapter.solve.run (a, w) =
        if (answer 0).message.isWritable then
          (judge (if isAmbiguous (answer 0) then answer 1 else answer 0)).run (a, w')
        else
          (.error .notWritable, a, w') := by
  intro answer
  obtain ⟨w₁, begun, calls₁, faults₁, answers₁⟩ := solve_begins quiet started built
  unfold solvedModels
  unfold rest at begun
  rw [run_bind] at begun
  cases written : (answer 0).message.isWritable with
  | false =>
      have unwritten : (w.highs.answerTo m.lower.length 0).message.unwritable? =
          some .notWritable := if_neg (Bool.eq_false_iff.1 written)
      rw [unwritten] at begun
      exact ⟨w₁, calls₁, begun⟩
  | true =>
      have fine : (w.highs.answerTo m.lower.length 0).message.unwritable? = none :=
        if_pos written
      rw [fine] at begun
      dsimp only [Action.check] at begun
      simp only [Bool.true_and, if_true]
      cases ambiguous : isAmbiguous (answer 0) with
      | false =>
          rw [ambiguous] at begun
          exact ⟨w₁, calls₁, begun⟩
      | true =>
          obtain ⟨w₂, logged, noted⟩ : ∃ w₂, (log .highs .debug
              "HiGHS presolve was inconclusive; solving again").run w₁ = (.ok (), w₂) ∧
              w₁.Noted w₂ := ⟨_, rfl, noted_log _ _ _ w₁⟩
          have quiet₂ : Quiet .highs w₂ := quiet.of_faults (noted.faults_eq.trans faults₁)
          obtain ⟨w₃, second, calls₃, -, -⟩ := milp_run quiet₂ (withoutPresolve m)
          have answers : w₂.highs.answers = w.highs.answers.tail := by
            rw [noted.highs_eq]
            exact answers₁
          refine ⟨w₃, ?_, ?_⟩
          · rw [calls₃, noted.calls_eq, calls₁, List.append_assoc]
            rfl
          · rw [begun, ambiguous]
            show (do
                log .highs .debug "HiGHS presolve was inconclusive; solving again"
                let last ← HighsService.milp (withoutPresolve m)
                judge last : Action (HighsAdapter × Workspace) (Given Status)).run (a, w₁) = _
            rw [run_bind, run_liftM, logged]
            dsimp only
            rw [run_bind, run_liftM, second, answerTo_tail answers]
            rfl

/-- The adapter judges the last answer of all, if it can write the message of the first. -/
theorem solve_last {a : HighsAdapter} {m : HighsModel} {w : Workspace} (quiet : Quiet .highs w)
    (started : a.started = true) (built : a.buildModel w.highs.arrays = .ok m) :
    ∃ k, ∃ models : List HighsModel, ∃ w', w'.calls = w.calls ++ models.map .highs ∧
      models.length = k + 1 ∧ (∀ m' ∈ models, m' = m ∨ m' = withoutPresolve m) ∧
      Adapter.solve.run (a, w) =
        if (w.highs.answerTo m.lower.length 0).message.isWritable then
          (judge (w.highs.answerTo m.lower.length k)).run (a, w')
        else
          (.error .notWritable, a, w') := by
  obtain ⟨w', calls, ran⟩ := solve_run quiet started built
  unfold solvedModels at calls
  cases written : (w.highs.answerTo m.lower.length 0).message.isWritable with
  | false =>
      rw [written] at calls ran
      exact ⟨0, _, w', calls, rfl, fun m' hm => .inl (List.mem_singleton.1 hm), ran⟩
  | true =>
      rw [written, Bool.true_and] at calls
      rw [written, if_pos rfl] at ran
      split at ran
      · next ambiguous =>
          rw [if_pos ambiguous] at calls
          refine ⟨1, _, w', calls, rfl, fun m' hm => ?_, ran⟩
          exact (List.mem_cons.1 hm).imp_right List.mem_singleton.1
      · next clear =>
          rw [if_neg clear] at calls
          exact ⟨0, _, w', calls, rfl, fun m' hm => .inl (List.mem_singleton.1 hm), ran⟩

/-- With all parts collected, the adapter solves so that its last answer decides, and it answers
with the values of that one. -/
theorem solve_yields {s : HighsAdapter × Workspace} {m : HighsModel} (quiet : Quiet .highs s.2)
    (started : s.1.started = true) (built : s.1.buildModel s.2.highs.arrays = .ok m) :
    ∃ k, ∃ models : List HighsModel,
      (Adapter.solve.run s).2.2.calls = s.2.calls ++ models.map .highs ∧
      models.length = k + 1 ∧ (∀ m' ∈ models, m' = m ∨ m' = withoutPresolve m) ∧
      ∀ {status items xs x},
        (s.2.highs.answerTo m.lower.length 0).message.isWritable = true →
        verdict (s.2.highs.answerTo m.lower.length k) = .ok status →
        status.usable = true →
        ((s.2.highs.answerTo m.lower.length k).values.getD .none).items = .ok items →
        Numbers items xs → (s.2.highs.answerTo m.lower.length k).objective.toFloat = .ok x →
        Adapter.Yields s status xs x := by
  obtain ⟨k, models, w', calls, count, which, ran⟩ := solve_last quiet started built
  generalize hlast : s.2.highs.answerTo m.lower.length k = last at ran
  obtain ⟨w'', judged, noted⟩ := judge_run last s.1 w'
  rw [judged] at ran
  refine ⟨k, models, ?_, count, which, fun {status items xs x} written means usable listed numbers
    objective => ?_⟩
  · rw [show s = (s.1, s.2) from rfl, ran]
    split
    · exact noted.calls_eq.trans calls
    · exact calls
  · rw [hlast] at means listed objective
    rw [if_pos written, means] at ran
    have found : ∀ part, (lastAnswer part).run ({ s.1 with answer := some last }, w'') =
        (.ok last, { s.1 with answer := some last }, w'') := fun _ => rfl
    have values : (Adapter.values (A := HighsAdapter)).run ({ s.1 with answer := some last }, w'') =
        (.ok (.list (xs.map Value.ofFloat)), { s.1 with answer := some last }, w'') := by
      show (lastAnswer "x" >>= fun answer => Action.ofExcept (readValues answer)).run _ = _
      rw [run_bind, found]
      dsimp only
      rw [run_ofExcept]
      unfold readValues
      rw [listed]
      show ((items.mapM Value.toFloat >>= fun xs => pure (Value.list (xs.map Value.ofFloat)) :
        Except Failure Value), _) = _
      rw [numbers.mapM]
      rfl
    have asked : (Adapter.objectiveValue (A := HighsAdapter)).run
        ({ s.1 with answer := some last }, w'') =
        (.ok (.ofFloat x), { s.1 with answer := some last }, w'') := by
      show (lastAnswer "fun" >>= fun answer => Action.ofExcept answer.objective.toFloat >>= fun x =>
        pure (Value.ofFloat x)).run _ = _
      rw [run_bind, found]
      dsimp only
      rw [run_bind, run_ofExcept, objective]
      rfl
    exact ⟨usable, announced_of_verdict means, _, ran,
      ⟨_, values, (numbers_map_ofFloat xs).readValues⟩, _, asked, rfl⟩

end HighsAdapter

/-! ## Gurobi -/

/-- What there is to be read of a model after run number `k`. -/
def GurobiService.readingAt (service : GurobiService) (k : ℕ) : GurobiReading :=
  (lastLeft service.readings k).getD service.reading

namespace GurobiAdapter

/-- A module without the constants in `missing` has those that a status is compared with. -/
def describesStatuses (missing : List String) : Bool :=
  statusMeanings.all fun m => !missing.contains m.1

/-- The adapter when a run has left this to be read. -/
def keeping (a : GurobiAdapter) (left : Option GurobiReading) : GurobiAdapter :=
  { a with model := a.model.map fun m => { m with reading := left.getD m.reading } }

theorem keeping_keeping (a : GurobiAdapter) (readings : List GurobiReading) :
    (a.keeping (lastLeft readings 0)).keeping readings.tail.head? =
      a.keeping (lastLeft readings 1) := by
  rw [lastLeft_zero, lastLeft_one]
  unfold keeping
  rw [Option.map_map]
  congr 2
  funext model
  cases readings.tail.head? <;> rfl

theorem runOnce_run (a : GurobiAdapter) {w : Workspace} (quiet : Quiet .gurobi w) :
    ∃ w', runOnce.run (a, w) = (.ok (w.gurobi.statuses.headD (.ofInt 2)),
        a.keeping w.gurobi.readings.head?, w') ∧
      w'.calls = w.calls ++ [.gurobi .optimize] ∧ w'.faults = w.faults ∧
      w'.gurobi.statuses = w.gurobi.statuses.tail ∧
      w'.gurobi.readings = w.gurobi.readings.tail := by
  refine ⟨{ w.afterCall (.gurobi .optimize) with
    gurobi := { w.gurobi with
      statuses := w.gurobi.statuses.tail, readings := w.gurobi.readings.tail } }, ?_,
    w.calls_afterCall (.gurobi .optimize), rfl, rfl, rfl⟩
  unfold runOnce GurobiService.optimize
  rw [run_bind, run_liftM, run_bind, run_call, quiet]
  rfl

/-- What is left of a solve after the first attempt, which has ended with this status. -/
def rest (first : Value) : Action (GurobiAdapter × Workspace) (Given Status) := do
  let ambiguous ← code "INF_OR_UNBD"
  if first.isInt ambiguous then
    log .gurobi .debug "Gurobi returned INF_OR_UNBD; solving again"
    setParameter (.text "DualReductions") (Value.ofInt 0)
    let last ← runOnce
    judge last
  else
    judge first

theorem solve_begins {a : GurobiAdapter} {m : GurobiModel} {w : Workspace}
    (opened : a.model = some m) (quiet : Quiet .gurobi w) :
    ∃ w', Adapter.solve.run (a, w) =
        (rest (w.gurobi.statuses.getD 0 (.ofInt 2))).run
          (a.keeping (lastLeft w.gurobi.readings 0), w') ∧
      w'.calls = w.calls ++ [.gurobi .update, .gurobi .optimize] ∧ w'.faults = w.faults ∧
      w'.gurobi.statuses = w.gurobi.statuses.tail ∧
      w'.gurobi.readings = w.gurobi.readings.tail := by
  have quiet₁ : Quiet .gurobi (w.afterCall (.gurobi .update)) := quiet
  obtain ⟨w', first, calls, faults, statuses, readings⟩ := runOnce_run a quiet₁
  have stored : (w.afterCall (.gurobi .update)).gurobi = w.gurobi := rfl
  rw [stored, headD_eq_getD, ← lastLeft_zero] at first
  refine ⟨w', ?_, ?_, faults, statuses, readings⟩
  · show (solve >>= fun status => pure (.proper status) :
      Action (GurobiAdapter × Workspace) (Given Status)).run (a, w) = _
    unfold solve rest judge
    rw [bind_assoc, run_bind, requireModel_run opened]
    dsimp only
    rw [bind_assoc, run_bind, quiet.run_call]
    dsimp only
    rw [bind_assoc, run_bind, first]
    dsimp only
    rw [bind_assoc]
    congr 2
    funext ambiguous
    split
    · simp only [bind_assoc]
    · simp only [bind_assoc, pure_bind]
  · rw [calls, w.calls_afterCall, List.append_assoc]
    rfl

/-- The calls of a solve where this is the status after the first attempt. -/
def solveCalls (library : GurobiModule) (first : Value) : List GurobiCall :=
  .update :: .optimize :: if first.isInt (library.code "INF_OR_UNBD") then
      [.setParameter (.text "DualReductions") (.ofInt 0), .optimize]
    else []

/-- The number of the last run where this is the status after the first. -/
def lastRun (library : GurobiModule) (first : Value) : ℕ :=
  if first.isInt (library.code "INF_OR_UNBD") then 1 else 0

theorem solve_run {a : GurobiAdapter} {m : GurobiModel} {library : GurobiModule} {w : Workspace}
    (opened : a.model = some m) (known : a.library = some library)
    (has : library.missing.contains "INF_OR_UNBD" = false) (quiet : Quiet .gurobi w) :
    let status := fun k => w.gurobi.statuses.getD k (.ofInt 2)
    ∃ w', w'.calls = w.calls ++ (solveCalls library (status 0)).map .gurobi ∧
      Adapter.solve.run (a, w) = (judge (status (lastRun library (status 0)))).run
        (a.keeping (lastLeft w.gurobi.readings (lastRun library (status 0))), w') := by
  intro status
  obtain ⟨w₂, ran, calls₂, faults₂, statuses₂, readings₂⟩ := solve_begins opened quiet
  have known₂ : (a.keeping (lastLeft w.gurobi.readings 0)).library = some library := known
  unfold rest at ran
  rw [run_bind, code_answer known₂, defined_of_has has] at ran
  dsimp only [Except.map] at ran
  unfold solveCalls lastRun
  cases ambiguous : (status 0).isInt (library.code "INF_OR_UNBD") with
  | false =>
      rw [ambiguous] at ran
      exact ⟨w₂, calls₂, ran⟩
  | true =>
      obtain ⟨w₃, logged, noted⟩ : ∃ w₃, (log .gurobi .debug
          "Gurobi returned INF_OR_UNBD; solving again").run w₂ = (.ok (), w₃) ∧
          w₂.Noted w₃ := ⟨_, rfl, noted_log _ _ _ w₂⟩
      have quiet₃ : Quiet .gurobi w₃ := quiet.of_faults (noted.faults_eq.trans faults₂)
      have quiet₄ : Quiet .gurobi (w₃.afterCall (.gurobi (.setParameter (.text "DualReductions")
        (Value.ofInt 0)))) := quiet₃
      obtain ⟨w₅, second, calls₅, -, -, -⟩ :=
        runOnce_run (a.keeping (lastLeft w.gurobi.readings 0)) quiet₄
      have stored : (w₃.afterCall (.gurobi (.setParameter (.text "DualReductions")
          (Value.ofInt 0)))).gurobi = w₂.gurobi := noted.gurobi_eq
      rw [stored, statuses₂, readings₂, headD_tail, keeping_keeping] at second
      refine ⟨w₅, ?_, ?_⟩
      · rw [calls₅, w₃.calls_afterCall, noted.calls_eq, calls₂, List.append_assoc,
          List.append_assoc]
        rfl
      · rw [ran, ambiguous, if_pos rfl, run_bind, run_liftM, logged]
        dsimp only
        unfold setParameter
        rw [run_bind, quiet₃.run_call]
        dsimp only
        rw [run_bind, second]
        rfl

/-- The adapter judges the last status of all. -/
theorem solve_last {g : GurobiService} {columns : ℕ} {a : GurobiAdapter} {w : Workspace}
    (serving : Serving g columns (a, w)) (describes : describesStatuses g.library.missing = true) :
    ∃ k w', w.Tells [] (k + 1) w' ∧
      Adapter.solve.run (a, w) = (judge (g.statuses.getD k (.ofInt 2))).run
        ({ a with model := some ⟨columns, g.readingAt k⟩ }, w') := by
  have statuses : w.gurobi.statuses = g.statuses := congrArg (·.statuses) serving.service
  have readings : w.gurobi.readings = g.readings := congrArg (·.readings) serving.service
  have left : ∀ k, a.keeping (lastLeft g.readings k) =
      { a with model := some ⟨columns, g.readingAt k⟩ } := by
    intro k
    rw [keeping, show a.model = _ from serving.model]
    rfl
  have has : g.library.missing.contains "INF_OR_UNBD" = false := by
    have listed : ("INF_OR_UNBD", Status.numericalFailure) ∈ statusMeanings := by decide
    exact Bool.not_eq_true' _ ▸ List.all_eq_true.1 describes _ listed
  obtain ⟨w', calls, ran⟩ := solve_run serving.model serving.library has serving.quiet
  rw [statuses] at calls ran
  rw [readings, left] at ran
  unfold solveCalls at calls
  unfold lastRun at ran
  cases ambiguous : (g.statuses.getD 0 (.ofInt 2)).isInt (g.library.code "INF_OR_UNBD") with
  | true =>
      rw [ambiguous] at calls ran
      exact ⟨1, w', ⟨_, calls, rfl, rfl⟩, ran⟩
  | false =>
      rw [ambiguous] at calls ran
      exact ⟨0, w', ⟨_, calls, rfl, rfl⟩, ran⟩

/-- Handed all columns, the adapter solves so that its last status decides, and it answers with the
values of the native columns in their order, as the last run left them. -/
theorem solve_yields {g : GurobiService} {columns : ℕ} {s : GurobiAdapter × Workspace}
    (serving : Serving g columns s) (describes : describesStatuses g.library.missing = true) :
    ∃ k, s.2.Tells [] (k + 1) (Adapter.solve.run s).2.2 ∧ ∀ {status values objective xs x},
      meaningOf g.library (g.readingAt k).solutionCount (g.statuses.getD k (.ofInt 2)) =
        .ok status → status.usable = true →
      (g.readingAt k).Gives columns values objective →
      Numbers values xs → objective.toFloat = .ok x →
      Adapter.Yields s status xs x := by
  obtain ⟨k, w', tells, ran⟩ := solve_last serving describes
  generalize hleft : { s.1 with model := some ⟨columns, g.readingAt k⟩ } = a at ran
  have model : a.model = some ⟨columns, g.readingAt k⟩ := by rw [← hleft]
  have library : a.library = some g.library := by
    rw [← hleft]
    exact serving.library
  have places : a.columns = List.range columns := by
    rw [← hleft]
    exact serving.places
  rw [judge_run model library] at ran
  refine ⟨k, ?_, fun {status values objective xs x} means usable gives numbers number => ?_⟩
  · rw [show s = (s.1, s.2) from rfl, ran]
    exact tells
  · rw [means] at ran
    have listed : (Adapter.values (A := GurobiAdapter)).run (a, w') =
        (.ok (.list values), a, w') := by
      show (Adapter.look id >>= _ : Action (GurobiAdapter × Workspace) Value).run (a, w') = _
      rw [run_bind, show (Adapter.look (A := GurobiAdapter) id).run (a, w') = (.ok a, a, w')
        from rfl]
      dsimp only [id]
      rw [model]
      dsimp only
      rw [run_bind, run_ofExcept, places, mapM_eq_ok_of_forall₂ gives.values]
      rfl
    have asked : (Adapter.objectiveValue (A := GurobiAdapter)).run (a, w') =
        (.ok objective, a, w') := by
      show (requireModel "ObjVal" >>= fun model => Action.ofExcept model.reading.objective).run
        (a, w') = _
      rw [run_bind, requireModel_run model]
      dsimp only
      rw [run_ofExcept]
      exact congrArg (·, a, w') gives.objective
    exact ⟨usable, announced_of_meaningOf means, _, ran, ⟨_, listed, numbers.readValues⟩,
      _, asked, number⟩

end GurobiAdapter

end LinearDispatch
