import LinearDispatch.Proofs.LastAnswer

/-!
# Second attempts

Three answers leave open what they mean: a model that GLOP calls infeasible, since its preprocessing
says so of unbounded ones too; a model of which HiGHS says in its message that it is one or the
other; and the status of Gurobi that says the same. Then the model is solved once more with the
setting turned off that is to blame, and there it ends, whatever comes out. What the adapter reports
is its `verdict` on the last answer. A last answer that still leaves it open certifies nothing; it
is reported as a numerical failure and not as infeasible or unbounded. A last answer that says that
a limit stopped the run is usable just if there is a solution; for Gurobi that is a matter of the
number of solutions that the last run has left.

Each adapter has a record of its own for this, since each tells its ambiguous answers in another
way. That two attempts are the most is read off the text of the adapters and does not depend on
calls that succeed.
-/

namespace LinearDispatch

open LinearDispatch.Action Workspace

/-- Told to solve, the adapter makes these calls, so many of which solve a model, and it answers
like this. -/
structure Adapter.Ends {A : Type} [Adapter A] (s : A × Workspace) (made : List NativeCall)
    (solves : ℕ) (answer : Except Failure Status) : Prop where
  calls : (Adapter.solve.run s).2.2.calls = s.2.calls ++ made
  count : made.countP (·.solves) = solves
  answer : (Adapter.solve.run s).1 = answer.map .proper

/-! ## OR-Tools -/

namespace OrToolsAdapter

/-- The status that comes next is one that preprocessing may be to blame for. -/
def Doubtful (a : OrToolsAdapter) (w : Workspace) : Prop :=
  a.solverId = "GLOP" ∧
    (w.orTools.statuses.getD 0 (.ofInt 0)).isInt (w.orTools.code "INFEASIBLE") = true

theorem retries_iff {a : OrToolsAdapter} {w : Workspace} : retries a w = true ↔ Doubtful a w := by
  rw [retries, Bool.and_eq_true, beq_iff_eq]
  exact and_comm

/-- How a solve goes by the statuses that the library has in store. -/
structure SecondAttempt (a : OrToolsAdapter) (w : Workspace) : Prop where
  none : ¬Doubtful a w →
    Adapter.Ends (a, w) [.orTools .solve] 1
      (verdict w.orTools.code (w.orTools.statuses.getD 0 (.ofInt 0)))
  refused : Doubtful a w → w.orTools.parameterAnswers.headD true = false →
    Adapter.Ends (a, w)
      [.orTools .solve, .orTools (.setParameterText (withoutPreprocessing a.optionText))] 1
      (verdict w.orTools.code (w.orTools.statuses.getD 0 (.ofInt 0)))
  made : Doubtful a w → w.orTools.parameterAnswers.headD true = true →
    Adapter.Ends (a, w)
      [.orTools .solve, .orTools (.setParameterText (withoutPreprocessing a.optionText)),
        .orTools .solve] 2
      (verdict w.orTools.code (w.orTools.statuses.getD 1 (.ofInt 0)))

theorem ends_of_solved {a a' : OrToolsAdapter} {made : List OrToolsCall} {w w' : Workspace}
    {code : String → ℤ} {last : Value}
    (ran : Adapter.solve.run (a, w) = (judge code last).run (a', w'))
    (solved : Solved made w w') :
    Adapter.Ends (a, w) (made.map .orTools) ((made.map NativeCall.orTools).countP (·.solves))
      (verdict code last) := by
  rw [judge_run] at ran
  refine ⟨?_, rfl, ?_⟩
  · rw [ran]
    exact solved.calls
  · rw [ran]

theorem secondAttempt {a : OrToolsAdapter} {w : Workspace} (opened : a.solver.isSome = true)
    (quiet : Quiet .orTools w) : SecondAttempt a w := by
  obtain ⟨columns, opened⟩ := Option.isSome_iff_exists.1 opened
  obtain ⟨w', ran, solved⟩ := solve_run opened quiet
  have ends := ends_of_solved ran solved
  unfold judged solveCalls at ends
  refine ⟨fun clear => ?_, fun doubtful refused => ?_, fun doubtful accepted => ?_⟩
  · have no : retries a w = false := Bool.eq_false_iff.2 (mt retries_iff.1 clear)
    rw [no] at ends
    exact ends
  · rw [retries_iff.2 doubtful, accepts, refused] at ends
    rw [← verdict_ofInt _ doubtful.2]
    exact ends
  · rw [retries_iff.2 doubtful, accepts, accepted] at ends
    exact ends

end OrToolsAdapter

/-! ## HiGHS -/

namespace HighsAdapter

theorem mentions_go_iff (part : String) (text : List Char) :
    mentions.go part text = true ↔ part.toList <:+: text := by
  induction text with
  | nil =>
      rw [mentions.go, List.infix_nil, String.isEmpty_iff, String.toList_eq_nil_iff]
  | cons c rest ih =>
      rw [mentions.go, Bool.or_eq_true, ih, List.isPrefixOf_iff_prefix, List.infix_cons_iff]

/-- One text stands somewhere in the other. -/
theorem mentions_iff (text part : String) :
    mentions text part = true ↔ part.toList <:+: text.toList :=
  mentions_go_iff part text.toList

/-- The answer leaves open whether the model is infeasible or unbounded: it has the status for
other outcomes, and its message says so, in upper or lower case. To find out the message is written,
also where the status settles it. -/
def Ambiguous (answer : HighsAnswer) : Prop :=
  answer.status.isInt 4 = true ∧ ∃ part ∈ ["unbounded or infeasible", "infeasible or unbounded"],
    part.toList <:+: (Text.lower answer.message.shown).toList

theorem isAmbiguous_iff {answer : HighsAnswer} : isAmbiguous answer = true ↔ Ambiguous answer := by
  rw [isAmbiguous, Bool.and_eq_true, Bool.or_eq_true, mentions_iff, mentions_iff, messageText]
  simp [Ambiguous]

theorem verdict_of_ambiguous {answer : HighsAnswer} (h : Ambiguous answer) :
    verdict answer = answer.message.whenWritable .numericalFailure := by
  have certified : classifyMessage answer = .numericalFailure := if_pos (isAmbiguous_iff.2 h)
  rw [verdict]
  simp only [Value.isInt_eq h.1, certified]
  rfl

theorem verdict_of_limit {answer : HighsAnswer} (h : answer.status.isInt 1 = true) :
    verdict answer = .ok (if hasValues answer then .feasible else .interrupted) := by
  rw [verdict]
  simp only [Value.isInt_eq h]
  rfl

/-- How a solve of this model goes by the answers that the library has in store. -/
structure SecondAttempt (a : HighsAdapter) (m : HighsModel) (w : Workspace) : Prop where
  unwritten : (w.highs.answerTo m.lower.length 0).message.isWritable = false →
    Adapter.Ends (a, w) [.highs m] 1 (.error .notWritable)
  none : (w.highs.answerTo m.lower.length 0).message.isWritable = true →
    ¬Ambiguous (w.highs.answerTo m.lower.length 0) →
    Adapter.Ends (a, w) [.highs m] 1 (verdict (w.highs.answerTo m.lower.length 0))
  made : (w.highs.answerTo m.lower.length 0).message.isWritable = true →
    Ambiguous (w.highs.answerTo m.lower.length 0) →
    Adapter.Ends (a, w)
      [.highs m,
        .highs { m with options := m.options.put (.text "presolve") (.scalar (.bool false)) }] 2
      (verdict (w.highs.answerTo m.lower.length 1))

theorem ends_of_judged {a : HighsAdapter} {models : List HighsModel} {w w' : Workspace}
    {last : HighsAnswer} (ran : Adapter.solve.run (a, w) = (judge last).run (a, w'))
    (calls : w'.calls = w.calls ++ models.map .highs) :
    Adapter.Ends (a, w) (models.map .highs) ((models.map NativeCall.highs).countP (·.solves))
      (verdict last) := by
  obtain ⟨w'', judged, noted⟩ := judge_run last a w'
  rw [judged] at ran
  refine ⟨?_, rfl, ?_⟩
  · rw [ran]
    exact noted.calls_eq.trans calls
  · rw [ran]

theorem secondAttempt {a : HighsAdapter} {m : HighsModel} {w : Workspace}
    (started : a.started = true) (built : a.buildModel w.highs.arrays = .ok m)
    (quiet : Quiet .highs w) :
    SecondAttempt a m w := by
  obtain ⟨w', calls, ran⟩ := solve_run quiet started built
  unfold solvedModels at calls
  refine ⟨fun unwritten => ?_, fun written clear => ?_, fun written ambiguous => ?_⟩
  · rw [unwritten] at calls ran
    refine ⟨?_, rfl, ?_⟩
    · rw [ran]
      exact calls
    · rw [ran]
      rfl
  · have no : isAmbiguous (w.highs.answerTo m.lower.length 0) = false :=
      Bool.eq_false_iff.2 (mt isAmbiguous_iff.1 clear)
    rw [written, no] at calls ran
    exact ends_of_judged ran calls
  · rw [written, isAmbiguous_iff.2 ambiguous] at calls ran
    exact ends_of_judged ran calls

end HighsAdapter

/-! ## Gurobi -/

namespace GurobiAdapter

/-- The adapter fails because the module lacks a constant that the status is compared with. -/
def Undescribed (library : GurobiModule) (answer : Except Failure Status) : Prop :=
  ∃ name, library.missing.contains name = true ∧
    answer = .error (.missingPart library.constantsType name)

theorem defined_cases (library : GurobiModule) (name : String) :
    defined library name = .ok () ∨ library.missing.contains name = true ∧
      defined library name = .error (.missingPart library.constantsType name) := by
  unfold defined
  cases library.missing.contains name with
  | false => exact .inl rfl
  | true => exact .inr ⟨rfl, rfl⟩

/-- The names of all statuses. -/
def statusNames : List String :=
  statusMeanings.map (·.1) ++ limitNames

/-- The statuses that the module defines are different numbers. -/
def TellsApart (library : GurobiModule) : Prop :=
  ∀ name ∈ statusNames, ∀ name' ∈ statusNames, library.missing.contains name = false →
    library.missing.contains name' = false → library.code name = library.code name' → name = name'

section

variable {library : GurobiModule} {status : Value} {name : String}

/-- A status that is the number of a constant has the meaning of that constant. -/
theorem meaningIn_cases (apart : TellsApart library) (mem : name ∈ statusNames)
    (has : library.missing.contains name = false) (h : status.isInt (library.code name) = true)
    {meanings : List (String × Status)} (listed : ∀ m ∈ meanings, m.1 ∈ statusNames) :
    meaningIn library status meanings = .ok ((meanings.find? (·.1 = name)).map (·.2)) ∨
      ∃ name', library.missing.contains name' = true ∧ meaningIn library status meanings =
        .error (.missingPart library.constantsType name') := by
  induction meanings with
  | nil => exact .inl rfl
  | cons m rest ih =>
      rw [meaningIn, Value.isInt_eq h, List.find?_cons]
      cases has' : library.missing.contains m.1 with
      | true =>
          rw [defined, has']
          exact .inr ⟨m.1, has', rfl⟩
      | false =>
          have same : library.code m.1 = library.code name ↔ m.1 = name :=
            ⟨apart _ (listed m List.mem_cons_self) _ mem has' has, congrArg library.code⟩
          rw [defined, has', decide_eq_decide.2 same]
          cases decide (m.1 = name) with
          | true => exact .inl rfl
          | false => exact ih fun m mem => listed m (List.mem_cons_of_mem _ mem)

theorem verdict_cases (apart : TellsApart library) (mem : name ∈ statusNames)
    (has : library.missing.contains name = false) (h : status.isInt (library.code name) = true)
    (count : Except Failure Value) :
    Undescribed library (verdict library count status) ∨
      verdict library count status =
        (match (statusMeanings.find? (·.1 = name)).map (·.2) with
        | some meant => .ok meant
        | none => unlisted library count status) := by
  unfold verdict meaningOf
  obtain here | ⟨absent, here⟩ := defined_cases library "INF_OR_UNBD"
  · rw [here]
    obtain found | ⟨name', absent, failed⟩ := meaningIn_cases apart mem has h
      fun m listed => List.mem_append_left _ (List.mem_map_of_mem listed)
    · rw [found]
      exact .inr rfl
    · rw [failed]
      exact .inl ⟨name', absent, rfl⟩
  · rw [here]
    exact .inl ⟨_, absent, rfl⟩

theorem verdict_of_ambiguous (apart : TellsApart library)
    (h : status.isInt (library.code "INF_OR_UNBD") = true) (count : Except Failure Value) :
    verdict library count status = .ok .numericalFailure ∨
      Undescribed library (verdict library count status) := by
  cases has : library.missing.contains "INF_OR_UNBD" with
  | true =>
      refine .inr ⟨_, has, ?_⟩
      rw [verdict, defined, has]
      rfl
  | false => exact (verdict_cases apart (by decide) has h count).symm

theorem verdict_of_limit (apart : TellsApart library) (listed : name ∈ limitNames)
    (has : library.missing.contains name = false) (h : status.isInt (library.code name) = true)
    (count : Except Failure Value) :
    verdict library count status =
        (hasSolution count).map (fun found => if found then .feasible else .interrupted) ∨
      Undescribed library (verdict library count status) := by
  have others : ∀ limit ∈ limitNames, (statusMeanings.find? (·.1 = limit)).map (·.2) = none := by
    decide
  have limit : isLimit library status = true := by
    refine List.any_eq_true.2 ⟨name, listed, ?_⟩
    rw [h, has]
    rfl
  have whole := (verdict_cases apart (List.mem_append_right _ listed) has h count).symm
  rw [others name listed] at whole
  refine whole.imp_left fun same => same.trans ?_
  rw [unlisted, Value.isSome_key?_of_isInt h, if_pos rfl, if_pos limit]

end

/-- The status that comes next is the ambiguous one, by the constant that the module has for it. -/
def Doubtful (library : GurobiModule) (w : Workspace) : Prop :=
  library.missing.contains "INF_OR_UNBD" = false ∧
    (w.gurobi.statuses.getD 0 (.ofInt 2)).isInt (library.code "INF_OR_UNBD") = true

/-- The number of solutions that there is to be read of a model after run number `k`. -/
def countAt (m : GurobiModel) (w : Workspace) (k : ℕ) : Except Failure Value :=
  ((lastLeft w.gurobi.readings k).getD m.reading).solutionCount

/-- How a solve goes by the statuses that the library has in store. -/
structure SecondAttempt (a : GurobiAdapter) (m : GurobiModel) (library : GurobiModule)
    (w : Workspace) : Prop where
  none : ¬Doubtful library w →
    Adapter.Ends (a, w) [.gurobi .update, .gurobi .optimize] 1
      (verdict library (countAt m w 0) (w.gurobi.statuses.getD 0 (.ofInt 2)))
  made : Doubtful library w →
    Adapter.Ends (a, w)
      [.gurobi .update, .gurobi .optimize,
        .gurobi (.setParameter (.text "DualReductions") (.ofInt 0)), .gurobi .optimize] 2
      (verdict library (countAt m w 1) (w.gurobi.statuses.getD 1 (.ofInt 2)))

theorem ends_of_undefined {a : GurobiAdapter} {m : GurobiModel} {library : GurobiModule}
    {w : Workspace} (opened : a.model = some m) (known : a.library = some library)
    (absent : library.missing.contains "INF_OR_UNBD" = true) (quiet : Quiet .gurobi w)
    (count : Except Failure Value) (status : Value) :
    Adapter.Ends (a, w) [.gurobi .update, .gurobi .optimize] 1
      (verdict library count status) := by
  obtain ⟨w', ran, calls, -⟩ := solve_begins opened quiet
  have undefined_ : defined library "INF_OR_UNBD" =
      .error (.missingPart library.constantsType "INF_OR_UNBD") := by
    rw [defined, absent]
    rfl
  have known' : (a.keeping (lastLeft w.gurobi.readings 0)).library = some library := known
  unfold rest at ran
  rw [run_bind, code_answer known', undefined_] at ran
  refine ⟨?_, rfl, ?_⟩
  · rw [ran]
    exact calls
  · rw [ran, verdict, undefined_]
    rfl

theorem secondAttempt {a : GurobiAdapter} {m : GurobiModel} {library : GurobiModule}
    {w : Workspace} (opened : a.model = some m) (known : a.library = some library)
    (quiet : Quiet .gurobi w) : SecondAttempt a m library w := by
  cases has : library.missing.contains "INF_OR_UNBD" with
  | true =>
      refine ⟨fun _ => ends_of_undefined opened known has quiet _ _, fun doubtful => ?_⟩
      cases has.symm.trans doubtful.1
  | false =>
      obtain ⟨w', calls, ran⟩ := solve_run opened known has quiet
      have left : ∀ k, (a.keeping (lastLeft w.gurobi.readings k)).model =
          some { m with reading := (lastLeft w.gurobi.readings k).getD m.reading } := by
        intro k
        rw [keeping, opened]
        rfl
      have known' : ∀ k, (a.keeping (lastLeft w.gurobi.readings k)).library = some library :=
        fun _ => known
      rw [judge_run (left _) (known' _), ← verdict_of_has has] at ran
      unfold solveCalls at calls
      unfold lastRun at ran
      refine ⟨fun clear => ?_, fun doubtful => ?_⟩
      · have no : ¬(w.gurobi.statuses.getD 0 (.ofInt 2)).isInt
            (library.code "INF_OR_UNBD") = true := fun ambiguous => clear ⟨has, ambiguous⟩
        rw [if_neg no] at calls ran
        exact ⟨by rw [ran]; exact calls, rfl, by rw [ran]; rfl⟩
      · rw [if_pos doubtful.2] at calls ran
        exact ⟨by rw [ran]; exact calls, rfl, by rw [ran]; rfl⟩

end GurobiAdapter

/-! ## Never a third attempt -/

namespace Action

variable {σ α β : Type} {π : σ → Workspace} {n : ℕ}

/-- The call solves no model. -/
abbrev Idle (c : NativeCall) : Prop :=
  c.solves = false

/-- However the action ends, it has `n` models solved at most. -/
def SolvesAtMost (π : σ → Workspace) (n : ℕ) (x : Action σ α) : Prop :=
  ∀ s, ∃ made, (π (x.run s).2).calls = (π s).calls ++ made ∧ made.countP (·.solves) ≤ n

theorem solvesAtMost_of_makes {x : Action σ α} (idle : Makes π Idle x) (n : ℕ) :
    SolvesAtMost π n x := by
  intro s
  obtain ⟨made, calls, none⟩ := (idle s).calls
  refine ⟨made, calls, ?_⟩
  rw [List.countP_eq_zero.2 fun c mem => Bool.eq_false_iff.1 (none c mem)]
  exact Nat.zero_le n

theorem solvesAtMost_bind {m : ℕ} {x : Action σ α} {f : α → Action σ β}
    (first : SolvesAtMost π m x) (later : ∀ a, SolvesAtMost π n (f a)) :
    SolvesAtMost π (n + m) (x >>= f) := by
  intro s
  obtain ⟨made, calls, few⟩ := first s
  cases ran : x.run s with
  | mk answer s' =>
      rw [ran] at calls
      rw [run_bind, ran]
      cases answer with
      | error e => exact ⟨made, calls, Nat.le_trans few (Nat.le_add_left m n)⟩
      | ok a =>
          obtain ⟨more, calls', few'⟩ := later a s'
          refine ⟨made ++ more, ?_, ?_⟩
          · rw [calls', calls, List.append_assoc]
          · rw [List.countP_append]
            omega

/-! What solves nothing does not count. -/

theorem solvesAtMost_after {x : Action σ α} {f : α → Action σ β} (idle : Makes π Idle x)
    (later : ∀ a, SolvesAtMost π n (f a)) : SolvesAtMost π n (x >>= f) :=
  solvesAtMost_bind (solvesAtMost_of_makes idle 0) later

theorem solvesAtMost_before {x : Action σ α} {f : α → Action σ β} (first : SolvesAtMost π n x)
    (idle : ∀ a, Makes π Idle (f a)) : SolvesAtMost π n (x >>= f) := by
  have both := solvesAtMost_bind first fun a => solvesAtMost_of_makes (idle a) 0
  rwa [Nat.zero_add] at both

theorem solvesAtMost_ite {c : Prop} [Decidable c] {x y : Action σ α} (hx : SolvesAtMost π n x)
    (hy : SolvesAtMost π n y) : SolvesAtMost π n (if c then x else y) := by
  split
  · exact hx
  · exact hy

theorem solvesAtMost_call (c : NativeCall) : SolvesAtMost id 1 (call c) := by
  intro w
  refine ⟨[c], ?_, List.countP_le_length⟩
  rw [run_call]
  exact w.calls_afterCall c

theorem solvesAtMost_onSecond {x : Action Workspace α} (h : SolvesAtMost id n x) :
    SolvesAtMost (Prod.snd : σ × Workspace → Workspace) n (onSecond x) :=
  fun s => h s.2

theorem makes_log_second {P : NativeCall → Prop} (channel : Channel) (level : Level)
    (message : String) :
    Makes (Prod.snd : σ × Workspace → Workspace) P (liftM (log channel level message)) :=
  makes_onSecond (makes_log channel level message)

/-- A service takes its answer from a store. -/
theorem makes_take {read : Workspace → α} {write : α → Workspace → Workspace} {value : α → β}
    (quiet : ∀ (a : α) (w : Workspace), w.Extends Idle (write a w)) :
    Makes id Idle (gets read >>= fun a => Action.modify (write a) >>= fun _ => pure (value a)) :=
  makes_bind (makes_gets _) fun a => makes_bind (makes_modify (quiet a)) fun _ => makes_pure _

end Action

/-! ### The three adapters -/

theorem OrToolsAdapter.solves_twice_at_most :
    SolvesAtMost Prod.snd 2 (Adapter.solve (A := OrToolsAdapter)) := by
  have once : SolvesAtMost Prod.snd 1 solveOnce :=
    solvesAtMost_before (solvesAtMost_onSecond (solvesAtMost_before (solvesAtMost_call _) fun _ =>
      makes_take fun _ _ => .of_eq rfl rfl rfl)) fun _ =>
        makes_bind (makes_remember _) fun _ => makes_pure _
  have told : ∀ text, Makes id Idle (OrToolsService.setParameterText text) := fun text =>
    makes_bind (makes_call rfl) fun _ => makes_take fun _ _ => .of_eq rfl rfl rfl
  have again : ∀ code, SolvesAtMost Prod.snd 1 (solveAgain code) := by
    intro code
    refine solvesAtMost_after (makes_log_second _ _ _) fun _ => ?_
    refine solvesAtMost_after (makes_look _) fun text => ?_
    refine solvesAtMost_after (makes_onSecond (told text)) fun accepted => ?_
    refine solvesAtMost_ite ?_ (solvesAtMost_of_makes ?_ 1)
    · refine solvesAtMost_before once fun status => ?_
      exact makes_ite (makes_bind (makes_log_second _ _ _) fun _ => makes_pure _) (makes_pure _)
    · exact makes_bind (makes_log_second _ _ _) fun _ => makes_pure _
  have judged : ∀ (code : String → ℤ) (last : Value), Makes Prod.snd Idle (do
      requireKey last
      pure (classify code last) : Action (OrToolsAdapter × Workspace) Status) := fun _ _ =>
    makes_bind (makes_check _) fun _ => makes_pure _
  refine solvesAtMost_before (x := solve) ?_ fun _ => makes_pure _
  refine solvesAtMost_after (requireSolver_makes _) fun _ => ?_
  refine solvesAtMost_after (makes_look _) fun solverId => ?_
  refine solvesAtMost_after (makes_gets _) fun code => ?_
  refine solvesAtMost_bind (m := 1) (n := 1) once fun first => ?_
  exact solvesAtMost_ite (solvesAtMost_before (again code) (judged code))
    (solvesAtMost_of_makes (judged code first) 1)

theorem HighsAdapter.solves_twice_at_most :
    SolvesAtMost Prod.snd 2 (Adapter.solve (A := HighsAdapter)) := by
  have once : ∀ model, SolvesAtMost id 1 (HighsService.milp model) := fun model =>
    solvesAtMost_before (solvesAtMost_call _) fun _ => makes_take fun _ _ => .of_eq rfl rfl rfl
  have judged : ∀ last, Makes Prod.snd Idle (do
      Adapter.remember fun a : HighsAdapter => { a with answer := some last }
      classify last : Action (HighsAdapter × Workspace) Status) := fun last =>
    makes_bind (makes_remember _) fun _ => makes_onSecond (classify_makes last)
  refine solvesAtMost_before (x := solve) ?_ fun _ => makes_pure _
  refine solvesAtMost_after (makes_bind (makes_look _) fun _ => makes_check _) fun _ => ?_
  refine solvesAtMost_after (makes_look _) fun a => ?_
  refine solvesAtMost_after (makes_gets _) fun arrays => ?_
  refine solvesAtMost_after (makes_ofExcept _) fun model => ?_
  refine solvesAtMost_bind (m := 1) (n := 1) (solvesAtMost_onSecond (once model)) fun first => ?_
  refine solvesAtMost_after (makes_check _) fun _ => ?_
  refine solvesAtMost_ite ?_ (solvesAtMost_of_makes (judged first) 1)
  refine solvesAtMost_after (makes_log_second _ _ _) fun _ => ?_
  exact solvesAtMost_before (solvesAtMost_onSecond (once _)) judged

theorem GurobiAdapter.solves_twice_at_most :
    SolvesAtMost Prod.snd 2 (Adapter.solve (A := GurobiAdapter)) := by
  have once : SolvesAtMost Prod.snd 1 runOnce :=
    solvesAtMost_before (solvesAtMost_onSecond (solvesAtMost_before (solvesAtMost_call _) fun _ =>
      makes_take fun _ _ => .of_eq rfl rfl rfl)) fun _ =>
        makes_bind (makes_remember _) fun _ => makes_pure _
  have judged : ∀ last, Makes Prod.snd Idle
      (requireModel "SolCount" >>= fun model => classify model.reading.solutionCount last) :=
    fun last => makes_bind (requireModel_makes _) fun _ => classify_makes _ last
  refine solvesAtMost_before (x := solve) ?_ fun _ => makes_pure _
  refine solvesAtMost_after (requireModel_makes _) fun model => ?_
  refine solvesAtMost_after (makes_onSecond (makes_call rfl)) fun _ => ?_
  refine solvesAtMost_bind (m := 1) (n := 1) once fun first => ?_
  refine solvesAtMost_after (code_makes _) fun _ => ?_
  refine solvesAtMost_ite ?_ (solvesAtMost_of_makes (judged first) 1)
  refine solvesAtMost_after (makes_log_second _ _ _) fun _ => ?_
  refine solvesAtMost_after (makes_onSecond (makes_call rfl)) fun _ => ?_
  exact solvesAtMost_before once judged

/-- Whatever a library answers, a model is solved a second time just if the first answer leaves it
open whether the model is infeasible or unbounded, with the one setting changed that is to blame, if
the library takes it; and never a third time, whatever fails. What comes out is the verdict on the
last answer alone. If that is still the ambiguous one, it is a numerical failure, and if it says
that a limit stopped the run, something usable just if there is a solution. -/
theorem second_attempts (w : Workspace) :
    ((∀ {a : OrToolsAdapter}, a.solver.isSome = true → Quiet .orTools w → a.SecondAttempt w) ∧
      SolvesAtMost Prod.snd 2 (Adapter.solve (A := OrToolsAdapter)) ∧
      ∀ code status, status.isInt (code "NOT_SOLVED") = true →
        OrToolsAdapter.verdict code status = .ok .interrupted) ∧
    ((∀ {a : HighsAdapter} {m : HighsModel}, a.started = true →
        a.buildModel w.highs.arrays = .ok m → Quiet .highs w → a.SecondAttempt m w) ∧
      SolvesAtMost Prod.snd 2 (Adapter.solve (A := HighsAdapter)) ∧
      ∀ answer, (HighsAdapter.Ambiguous answer →
          HighsAdapter.verdict answer = answer.message.whenWritable .numericalFailure) ∧
        (answer.status.isInt 1 = true → HighsAdapter.verdict answer =
          .ok (if HighsAdapter.hasValues answer then .feasible else .interrupted))) ∧
    (∀ {a : GurobiAdapter} {m : GurobiModel} {library : GurobiModule}, a.model = some m →
        a.library = some library → Quiet .gurobi w → a.SecondAttempt m library w) ∧
      SolvesAtMost Prod.snd 2 (Adapter.solve (A := GurobiAdapter)) ∧
      ∀ library count status, GurobiAdapter.TellsApart library →
        (status.isInt (library.code "INF_OR_UNBD") = true →
          GurobiAdapter.verdict library count status = .ok .numericalFailure ∨
            GurobiAdapter.Undescribed library (GurobiAdapter.verdict library count status)) ∧
        ∀ name ∈ GurobiAdapter.limitNames, library.missing.contains name = false →
          status.isInt (library.code name) = true →
          GurobiAdapter.verdict library count status =
              (GurobiAdapter.hasSolution count).map
                (fun found => if found then .feasible else .interrupted) ∨
            GurobiAdapter.Undescribed library (GurobiAdapter.verdict library count status) :=
  ⟨⟨OrToolsAdapter.secondAttempt, OrToolsAdapter.solves_twice_at_most,
      fun _ _ => OrToolsAdapter.verdict_of_limit⟩,
    ⟨HighsAdapter.secondAttempt, HighsAdapter.solves_twice_at_most, fun _ =>
      ⟨HighsAdapter.verdict_of_ambiguous, HighsAdapter.verdict_of_limit⟩⟩,
    GurobiAdapter.secondAttempt, GurobiAdapter.solves_twice_at_most, fun _ count _ apart =>
      ⟨fun ambiguous => GurobiAdapter.verdict_of_ambiguous apart ambiguous count,
        fun _ listed has limit => GurobiAdapter.verdict_of_limit apart listed has limit count⟩⟩

/-- Three first answers that leave it open, and a second one that says unbounded. -/
theorem second_attempts_sample :
    let sample := Sample.workspace .binary
    let answer (status : ℤ) (message : String) : HighsAnswer :=
      ⟨.ofInt status, none, .text message, .none⟩
    let w := { sample with
      orTools := { sample.orTools with statuses := [.ofInt 2, .ofInt 3] }
      highs := { sample.highs with answers := [answer 4 "Unbounded or Infeasible", answer 3 ""] }
      gurobi := { sample.gurobi with statuses := [.ofInt 4, .ofInt 5] } }
    let glop : OrToolsAdapter := ⟨"GLOP", some ⟨0, none⟩, [], ""⟩
    let highs : HighsAdapter := { HighsAdapter.new with started := true }
    let m : HighsModel := ⟨[], [], [], [], none, .empty⟩
    let gurobi : GurobiAdapter :=
      ⟨.proper gurobiEnvironment, true, some w.gurobi.library, some ⟨0, w.gurobi.reading⟩, []⟩
    Adapter.Ends (glop, w)
        [.orTools .solve, .orTools (.setParameterText "use_preprocessing: false"),
          .orTools .solve] 2 (.ok .unbounded) ∧
      Adapter.Ends (highs, w) [.highs m, .highs { m with
        options := m.options.put (.text "presolve") (.scalar (.bool false)) }] 2
        (.ok .unbounded) ∧
      Adapter.Ends (gurobi, w)
        [.gurobi .update, .gurobi .optimize,
          .gurobi (.setParameter (.text "DualReductions") (.ofInt 0)), .gurobi .optimize] 2
        (.ok .unbounded) := by
  intro sample answer w glop highs m gurobi
  obtain ⟨⟨orTools_, -⟩, ⟨highs_, -⟩, gurobi_, -⟩ := second_attempts w
  have ambiguous : HighsAdapter.Ambiguous (w.highs.answerTo m.lower.length 0) :=
    HighsAdapter.isAmbiguous_iff.1 (by decide +kernel)
  refine ⟨(@orTools_ glop rfl fun _ _ => rfl).made ⟨rfl, rfl⟩ rfl,
    (@highs_ highs m rfl rfl fun _ _ => rfl).made (by decide +kernel) ambiguous,
    (@gurobi_ gurobi _ _ rfl rfl fun _ _ => rfl).made ⟨rfl, rfl⟩⟩

end LinearDispatch
