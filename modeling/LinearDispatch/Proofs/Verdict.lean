import LinearDispatch.Proofs.GurobiAssembly
import LinearDispatch.Proofs.HighsModel
import LinearDispatch.Proofs.OrToolsAssembly

/-!
# What an adapter makes of an answer

When a model has been solved, an adapter turns what it was told into a status of its own. OR-Tools
tells a status, and with the one of HiGHS comes a message; Gurobi tells a status and has the number
of solutions to be read. The adapter may look up constants on the way and log, so that all this is
an action. What comes out of it depends on the answer alone and on the constants, whatever the
adapter was used for, and that is its `verdict`. Each verdict is one that can be announced.
-/

namespace LinearDispatch

open LinearDispatch.Action Workspace

/-! ## Values and integers -/

theorem Value.isInt_unique {v : Value} {m n : ℤ} (h : v.isInt m = true) (h' : v.isInt n = true) :
    m = n := by
  cases v with
  | scalar s =>
      have same : s.same (.int m) = true := by simpa [isInt, ofInt, Value.same] using h
      have same' : s.same (.int n) = true := by simpa [isInt, ofInt, Value.same] using h'
      obtain ⟨p, hp, hm⟩ := Scalar.same_iff.1 same
      obtain ⟨q, hq, hn⟩ := Scalar.same_iff.1 same'
      cases hp.symm.trans hq
      have equal : some ((m : ℝ) : EReal) = some ((n : ℝ) : EReal) := hm.trans hn.symm
      exact_mod_cast Option.some.inj equal
  | none | text s | list items | member e name label => simp [isInt, ofInt, Value.same] at h

/-- A value that is equal to one integer is equal to no other. -/
theorem Value.isInt_eq {v : Value} {m : ℤ} (h : v.isInt m = true) (n : ℤ) :
    v.isInt n = decide (n = m) := by
  by_cases same : n = m
  · rw [same, h, decide_eq_true rfl]
  · rw [decide_eq_false same]
    exact Bool.eq_false_iff.2 fun h' => same (isInt_unique h' h)

theorem Value.isInt_ofInt (n : ℤ) : (ofInt n).isInt n = true :=
  Scalar.same_iff.2 ⟨(n : ℝ), rfl, rfl⟩

theorem Value.isSome_key?_of_isInt {v : Value} {n : ℤ} (h : v.isInt n = true) :
    v.key?.isSome = true := by
  cases v with
  | list items => simp [isInt, ofInt, Value.same] at h
  | none | scalar s | text s | member e name label => rfl

/-! ## OR-Tools -/

namespace OrToolsAdapter

/-- What the adapter makes of the last status. -/
def verdict (code : String → ℤ) (status : Value) : Except Failure Status :=
  if status.key?.isSome then .ok (classify code status) else .error (.notHashable status.typeName)

/-- What is left of a solve when the last status is there. -/
def judge (code : String → Int) (last : Value) :
    Action (OrToolsAdapter × Workspace) (Given Status) := do
  requireKey last
  pure (.proper (classify code last))

theorem judge_run (code : String → ℤ) (last : Value) (s : OrToolsAdapter × Workspace) :
    (judge code last).run s = ((verdict code last).map .proper, s) := by
  unfold judge requireKey verdict
  rw [run_bind]
  cases last.key?.isSome <;> rfl

/-- What a status means is listed, or it means nothing. -/
theorem classify_cases (code : String → Int) (status : Value) :
    (∃ m ∈ statusMeanings, status.isInt (code m.1) = true ∧ classify code status = m.2) ∨
      classify code status = .numericalFailure := by
  unfold classify
  cases found : statusMeanings.reverse.find? fun m => status.isInt (code m.1) with
  | none => exact .inr rfl
  | some m =>
      have here : status.isInt (code m.1) = true := by simpa using List.find?_some found
      exact .inl ⟨m, List.mem_reverse.1 (List.mem_of_find?_eq_some found), here, rfl⟩

theorem announced (code : String → Int) (status : Value) :
    (classify code status).unannounced? = none := by
  have plain : ∀ m ∈ statusMeanings, m.2.unannounced? = none := by decide
  obtain ⟨m, listed, -, meant⟩ | other := classify_cases code status
  · rw [meant]
    exact plain m listed
  · rw [other]
    rfl

theorem verdict_of_isInt (code : String → ℤ) {status : Value} {n : ℤ}
    (h : status.isInt n = true) : verdict code status = .ok (classify code status) := by
  rw [verdict, Value.isSome_key?_of_isInt h, if_pos rfl]

theorem verdict_of_usable {code : String → ℤ} {status : Value}
    (usable : (classify code status).usable = true) :
    verdict code status = .ok (classify code status) := by
  obtain ⟨m, -, h, -⟩ | other := classify_cases code status
  · exact verdict_of_isInt code h
  · rw [other] at usable
    cases usable

/-- A status that is equal to a number means what that number does. -/
theorem verdict_ofInt (code : String → ℤ) {status : Value} {n : ℤ} (h : status.isInt n = true) :
    verdict code (.ofInt n) = verdict code status := by
  rw [verdict_of_isInt code h, verdict_of_isInt code (Value.isInt_ofInt n), classify, classify]
  simp only [Value.isInt_eq h, Value.isInt_eq (Value.isInt_ofInt n)]

theorem reverse_statusMeanings : statusMeanings.reverse = [("NOT_SOLVED", .interrupted),
    ("MODEL_INVALID", .invalidProblem), ("ABNORMAL", .numericalFailure), ("UNBOUNDED", .unbounded),
    ("INFEASIBLE", .infeasible), ("FEASIBLE", .feasible), ("OPTIMAL", .optimal)] := rfl

/-- A limit stopped the solver before it found anything. -/
theorem verdict_of_limit {code : String → ℤ} {status : Value}
    (h : status.isInt (code "NOT_SOLVED") = true) : verdict code status = .ok .interrupted := by
  rw [verdict_of_isInt code h, classify, reverse_statusMeanings, List.find?_cons, h]

/-- What counts before infeasible is of no use either. -/
theorem not_usable_of_infeasible {code : String → Int} {status : Value}
    (h : status.isInt (code "INFEASIBLE") = true) : (classify code status).usable = false := by
  unfold classify
  rw [reverse_statusMeanings]
  simp only [List.find?_cons, h]
  cases status.isInt (code "NOT_SOLVED") <;> cases status.isInt (code "MODEL_INVALID") <;>
    cases status.isInt (code "ABNORMAL") <;> cases status.isInt (code "UNBOUNDED") <;> rfl

end OrToolsAdapter

/-! ## HiGHS -/

namespace HighsAdapter

/-- What the adapter makes of the last answer. It goes by the message where the status does not
settle it. -/
def verdict (answer : HighsAnswer) : Except Failure Status :=
  if answer.status.isInt 0 then .ok .optimal
  else if answer.status.isInt 1 then .ok (if hasValues answer then .feasible else .interrupted)
  else if answer.status.isInt 2 then .ok .infeasible
  else if answer.status.isInt 3 then .ok .unbounded
  else answer.message.whenWritable (classifyMessage answer)

/-- The adapter comes to its verdict, and all it does besides is that it may log. -/
theorem classify_run (answer : HighsAnswer) (w : Workspace) :
    ∃ w', (classify answer).run w = (verdict answer, w') ∧ w.Noted w' := by
  unfold classify verdict
  by_cases h₀ : answer.status.isInt 0 = true
  · exact ⟨w, by rw [if_pos h₀, if_pos h₀]; rfl, .refl w⟩
  rw [if_neg h₀, if_neg h₀]
  by_cases h₁ : answer.status.isInt 1 = true
  · exact ⟨w, by rw [if_pos h₁, if_pos h₁]; rfl, .refl w⟩
  rw [if_neg h₁, if_neg h₁]
  by_cases h₂ : answer.status.isInt 2 = true
  · exact ⟨w, by rw [if_pos h₂, if_pos h₂]; rfl, .refl w⟩
  rw [if_neg h₂, if_neg h₂]
  by_cases h₃ : answer.status.isInt 3 = true
  · exact ⟨w, by rw [if_pos h₃, if_pos h₃]; rfl, .refl w⟩
  rw [if_neg h₃, if_neg h₃]
  obtain ⟨w', logged, noted⟩ := logShowing_run [answer.status, answer.message] .highs .debug
    ("HiGHS returned status " ++ answer.status.shown ++ ": " ++ answer.message.shown) w
  refine ⟨w', ?_, noted⟩
  rw [run_bind, logged]
  unfold Value.unwritable? Value.whenWritable
  cases answer.message.isWritable <;> rfl

theorem classify_answer (answer : HighsAnswer) (w : Workspace) :
    ((classify answer).run w).1 = verdict answer := by
  obtain ⟨w', ran, -⟩ := classify_run answer w
  rw [ran]

theorem announced_of_verdict {answer : HighsAnswer} {status : Status}
    (means : verdict answer = .ok status) : status.unannounced? = none := by
  unfold verdict at means
  split_ifs at means
  iterate 5
    · cases means
      rfl
  · obtain ⟨-, rfl⟩ := Value.whenWritable_eq_ok.1 means
    unfold classifyMessage
    split_ifs <;> rfl

/-- What is left of a solve when the last answer is there. -/
def judge (last : HighsAnswer) : Action (HighsAdapter × Workspace) (Given Status) := do
  Adapter.remember fun a => { a with answer := some last }
  let status ← classify last
  pure (.proper status)

theorem judge_run (last : HighsAnswer) (a : HighsAdapter) (w : Workspace) :
    ∃ w', (judge last).run (a, w) =
        ((verdict last).map .proper, { a with answer := some last }, w') ∧ w.Noted w' := by
  obtain ⟨w', ran, noted⟩ := classify_run last w
  refine ⟨w', ?_, noted⟩
  unfold judge
  rw [run_bind, show (Adapter.remember fun a : HighsAdapter => { a with answer := some last }).run
    (a, w) = (.ok (), { a with answer := some last }, w) from rfl]
  dsimp only
  rw [run_bind, run_liftM, ran]
  cases verdict last <;> rfl

end HighsAdapter

/-! ## Gurobi -/

namespace GurobiAdapter

/-- The meaning of a status among those listed, by the constants of a module. -/
def meaningIn (library : GurobiModule) (status : Value) :
    List (String × Status) → Except Failure (Option Status)
  | [] => .ok none
  | (name, meant) :: rest => do
    defined library name
    if status.isInt (library.code name) then .ok (some meant) else meaningIn library status rest

/-- The meaning of a status that is not listed. -/
def unlisted (library : GurobiModule) (count : Except Failure Value) (status : Value) :
    Except Failure Status :=
  if status.key?.isSome then
    if isLimit library status then
      (hasSolution count).map fun found => if found then .feasible else .interrupted
    else
      .ok .numericalFailure
  else
    .error (.notHashable status.typeName)

/-- What a status means, by the number of solutions that is left. -/
def meaningOf (library : GurobiModule) (count : Except Failure Value) (status : Value) :
    Except Failure Status := do
  match ← meaningIn library status statusMeanings with
  | some meant => .ok meant
  | none => unlisted library count status

/-- What the adapter makes of the last status, by the number of solutions that is left. -/
def verdict (library : GurobiModule) (count : Except Failure Value) (status : Value) :
    Except Failure Status := do
  defined library "INF_OR_UNBD"
  meaningOf library count status

/-- The constant that is looked up first is one of those that a status is compared with. -/
theorem verdict_of_has {library : GurobiModule}
    (has : library.missing.contains "INF_OR_UNBD" = false) (count : Except Failure Value)
    (status : Value) : verdict library count status = meaningOf library count status := by
  rw [verdict, defined_of_has has]
  rfl

section

variable {a : GurobiAdapter} {library : GurobiModule}

theorem meaning_answer (known : a.library = some library) (status : Value)
    (meanings : List (String × Status)) (w : Workspace) :
    (meaning status meanings).run (a, w) = (meaningIn library status meanings, a, w) := by
  induction meanings with
  | nil => rfl
  | cons m rest ih =>
      rw [meaning, run_bind, code_answer known, meaningIn]
      cases defined library m.1 with
      | error e => rfl
      | ok =>
          show _ = ((if status.isInt (library.code m.1) then .ok (some m.2)
            else meaningIn library status rest : Except Failure (Option Status)), a, w)
          dsimp only [Except.map]
          by_cases here : status.isInt (library.code m.1) = true
          · rw [if_pos here, if_pos here]
            rfl
          · rw [if_neg here, if_neg here]
            exact ih

theorem unlisted_answer (known : a.library = some library) (count : Except Failure Value)
    (status : Value) (w : Workspace) :
    (do
      let library ← requireLibrary
      requireKey status
      if isLimit library status then
        let found ← Action.ofExcept (hasSolution count)
        pure (if found then .feasible else .interrupted)
      else
        pure .numericalFailure : Action (GurobiAdapter × Workspace) Status).run (a, w) =
      (unlisted library count status, a, w) := by
  unfold unlisted requireKey
  rw [run_bind, requireLibrary_run known]
  dsimp only
  rw [run_bind]
  cases status.key?.isSome with
  | false => rfl
  | true =>
      show (if isLimit library status then _ else _ :
        Action (GurobiAdapter × Workspace) Status).run (a, w) = _
      by_cases limit : isLimit library status = true
      · rw [if_pos limit, if_pos rfl, if_pos limit, run_bind, run_ofExcept]
        cases hasSolution count <;> rfl
      · rw [if_neg limit, if_pos rfl, if_neg limit]
        rfl

/-- What a status means depends on the module and on the number of solutions only, and looking it up
changes nothing. -/
theorem classify_run (known : a.library = some library) (count : Except Failure Value)
    (status : Value) (w : Workspace) :
    (classify count status).run (a, w) = (meaningOf library count status, a, w) := by
  unfold classify meaningOf
  rw [run_bind, meaning_answer known]
  cases meaningIn library status statusMeanings with
  | error e => rfl
  | ok meant =>
      cases meant with
      | some meant => rfl
      | none => exact unlisted_answer known count status w

/-- What is left of a solve when the last status is there. -/
def judge (last : Value) : Action (GurobiAdapter × Workspace) (Given Status) := do
  let model ← requireModel "SolCount"
  let status ← classify model.reading.solutionCount last
  pure (.proper status)

theorem judge_run {m : GurobiModel} (opened : a.model = some m) (known : a.library = some library)
    (last : Value) (w : Workspace) :
    (judge last).run (a, w) =
      ((meaningOf library m.reading.solutionCount last).map .proper, a, w) := by
  unfold judge
  rw [run_bind, requireModel_run opened]
  dsimp only
  rw [run_bind, classify_run known]
  cases meaningOf library m.reading.solutionCount last <;> rfl

end

theorem mem_of_meaningIn {library : GurobiModule} {status : Value}
    {meanings : List (String × Status)} {meant : Status}
    (found : meaningIn library status meanings = .ok (some meant)) :
    meant ∈ meanings.map (·.2) := by
  induction meanings with
  | nil => cases found
  | cons m rest ih =>
      rw [meaningIn] at found
      obtain ⟨-, -, found⟩ := exists_of_bind_eq_ok found
      split at found
      · cases found
        exact List.mem_cons_self
      · exact List.mem_cons_of_mem _ (ih found)

theorem announced_of_meaningOf {library : GurobiModule} {count : Except Failure Value}
    {last : Value} {status : Status} (means : meaningOf library count last = .ok status) :
    status.unannounced? = none := by
  obtain ⟨meant, found, means⟩ := exists_of_bind_eq_ok means
  cases meant with
  | some meant =>
      cases means
      have plain : ∀ status ∈ statusMeanings.map (·.2), status.unannounced? = none := by decide
      exact plain _ (mem_of_meaningIn found)
  | none =>
      have means : unlisted library count last = .ok status := means
      unfold unlisted at means
      split_ifs at means
      · cases counted : hasSolution count with
        | error e =>
            rw [counted] at means
            cases means
        | ok found =>
            rw [counted] at means
            cases means
            cases found <;> rfl
      · cases means
        rfl

end GurobiAdapter

end LinearDispatch
