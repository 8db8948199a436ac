import LinearDispatch.Proofs.ReadBack
import LinearDispatch.Proofs.Requests
import LinearDispatch.Proofs.SecondAttempt

/-!
# The option text of OR-Tools

An OR-Tools solver takes its options as one text, a line for each, and what stands between the name
and the value of an option depends on the solver. Nothing is escaped: a value may hold the
separator, and a name may end with a part of it. A reader cuts each line at the first separator. If
no name has white space in it and no value a line break, this finds every option again, so that the
text decides the options.

The text is sent when the adapter is started, if all options can be written. It is also kept, since
the second attempt of GLOP sends it once more with a line of its own. Between the two the adapter
may be used in any way; it forgets the text only when it is started again.
-/

namespace LinearDispatch

open LinearDispatch.Action Workspace

/-! ## Lines and cuts -/

namespace Text

/-- The lines of a text: what stands between its line breaks. -/
def lines (text : String) : List String :=
  (text.toList.splitOn '\n').map String.ofList

/-- What stands before and after the first place where the separator stands. -/
def cutChars (separator : List Char) : List Char → Option (List Char × List Char)
  | [] => if separator.isEmpty then some ([], []) else none
  | c :: rest =>
    if separator.isPrefixOf (c :: rest) then
      some ([], (c :: rest).drop separator.length)
    else
      (cutChars separator rest).map fun parts => (c :: parts.1, parts.2)

def cut (separator line : String) : Option (String × String) :=
  (cutChars separator.toList line.toList).map fun parts =>
    (String.ofList parts.1, String.ofList parts.2)

/-- A separator is found where it was put, if it stands at no earlier place. -/
theorem cutChars_append {separator key : List Char} (value : List Char)
    (first : ∀ n < key.length, ¬separator <+: (key ++ separator ++ value).drop n) :
    cutChars separator (key ++ separator ++ value) = some (key, value) := by
  induction key with
  | nil =>
      rw [List.nil_append]
      cases separator with
      | nil => cases value <;> rfl
      | cons s rest =>
          have here : (s :: rest).isPrefixOf (s :: (rest ++ value)) = true :=
            List.isPrefixOf_iff_prefix.2 (List.prefix_append (s :: rest) value)
          rw [List.cons_append, cutChars, if_pos here, ← List.cons_append, List.drop_left]
  | cons c key ih =>
      have later := ih fun n lt => first (n + 1) (Nat.succ_lt_succ lt)
      have here : ¬separator.isPrefixOf (c :: (key ++ separator ++ value)) = true := fun h =>
        first 0 (Nat.succ_pos _) (List.isPrefixOf_iff_prefix.1 h)
      rw [List.cons_append, List.cons_append, cutChars, if_neg here, later]
      rfl

/-- A separator with a blank in it does not begin within a key that has none. The first blank of
what would begin there is further from its beginning than that of the separator. -/
theorem not_prefix_within {head tail key value : List Char} (clear : ' ' ∉ head)
    (plain : ' ' ∉ key) {n : Nat} (within : n < key.length) :
    ¬(head ++ ' ' :: tail) <+: (key ++ (head ++ ' ' :: tail) ++ value).drop n := by
  rintro ⟨rest, begins⟩
  have spread : (key ++ (head ++ ' ' :: tail) ++ value).drop n =
      (key.drop n ++ head) ++ ' ' :: (tail ++ value) := by
    rw [List.append_assoc, List.drop_append_of_le_length (Nat.le_of_lt within)]
    simp only [List.append_assoc, List.cons_append]
  have firstBlank {before : List Char} (none : ' ' ∉ before) (after : List Char) :
      (before ++ ' ' :: after).takeWhile (· ≠ ' ') = before := by
    have clear : ∀ c ∈ before, decide (c ≠ ' ') = true := by
      intro c mem
      refine decide_eq_true fun same => none ?_
      rwa [same] at mem
    rw [List.takeWhile_append_of_pos clear, List.takeWhile_cons_of_neg (by simp), List.append_nil]
  have plain' : ' ' ∉ key.drop n ++ head := by
    rw [List.mem_append, not_or]
    exact ⟨fun mem => plain (List.mem_of_mem_drop mem), clear⟩
  have begins' : head ++ ' ' :: (tail ++ rest) =
      (key.drop n ++ head) ++ ' ' :: (tail ++ value) := by
    rw [← spread, ← begins, List.append_assoc, List.cons_append]
  have same : head = key.drop n ++ head :=
    calc head = (head ++ ' ' :: (tail ++ rest)).takeWhile (· ≠ ' ') := (firstBlank clear _).symm
      _ = ((key.drop n ++ head) ++ ' ' :: (tail ++ value)).takeWhile (· ≠ ' ') := by rw [begins']
      _ = key.drop n ++ head := firstBlank plain' _
  have short := congrArg List.length same
  rw [List.length_append, List.length_drop] at short
  omega

end Text

/-! ## A text of options -/

namespace Text

theorem lines_intercalate {parts : List String} (given : parts ≠ [])
    (whole : ∀ part ∈ parts, '\n' ∉ part.toList) : lines ("\n".intercalate parts) = parts := by
  have split : ("\n".intercalate parts).toList.splitOn '\n' = parts.map String.toList := by
    rw [String.toList_intercalate]
    refine List.splitOn_intercalate '\n' (fun chars listed => ?_) (by simpa using given)
    obtain ⟨part, mem, rfl⟩ := List.mem_map.1 listed
    exact whole part mem
  rw [lines, split, List.map_map]
  exact (List.map_congr_left fun part _ => String.ofList_toList).trans (List.map_id _)

/-- A line that is added to a text comes after its lines. -/
theorem lines_append (text line : String) (whole : '\n' ∉ line.toList) :
    lines (text ++ "\n" ++ line) = lines text ++ [line] := by
  have last : line.toList.splitOn '\n' = [line.toList] := by
    have one : ∀ chars ∈ [line.toList], '\n' ∉ chars := by simpa using whole
    simpa using List.splitOn_intercalate '\n' one (List.cons_ne_nil _ _)
  have split : (text ++ "\n" ++ line).toList.splitOn '\n' =
      text.toList.splitOn '\n' ++ line.toList.splitOn '\n' := by
    rw [String.toList_append, String.toList_append, List.append_assoc]
    exact List.splitOnP_append_cons _ _ (by decide)
  rw [lines, split, last, List.map_append]
  simp only [lines, List.map_cons, List.map_nil, String.ofList_toList]

end Text

namespace Mapping

/-- No name has white space in it and no value a line break, as they are written. -/
def Plain (options : Mapping) : Prop :=
  ∀ e ∈ options.entries, e.1.value.shown.toList.any Text.isBlank = false ∧
    '\n' ∉ e.2.shown.toList

instance (options : Mapping) : Decidable options.Plain :=
  inferInstanceAs (Decidable (∀ e ∈ options.entries, _ ∧ _))

theorem Plain.not_mem {options : Mapping} (plain : options.Plain) {e : Key × Value}
    (mem : e ∈ options.entries) {c : Char} (blank : Text.isBlank c = true) :
    c ∉ e.1.value.shown.toList :=
  fun h => List.any_eq_false.1 (plain e mem).1 c h blank

/-- The names and the values as they are written. -/
def rendered (options : Mapping) : List (String × String) :=
  options.entries.map fun e => (e.1.value.shown, e.2.shown)

end Mapping

namespace OrToolsAdapter

theorem exists_separator (solverId : String) : ∃ head tail : List Char,
    (separator solverId).toList = head ++ ' ' :: tail ∧ ' ' ∉ head ∧
      '\n' ∉ head ++ ' ' :: tail := by
  unfold separator
  split_ifs
  · exact ⟨[], ['=', ' '], by decide⟩
  · exact ⟨[':'], [], by decide⟩
  · exact ⟨[], [], by decide⟩

theorem separator_ne_empty (solverId : String) : separator solverId ≠ "" := by
  unfold separator
  split_ifs <;> decide

/-- A line of the text is cut where its name ends. -/
theorem cut_line (solverId : String) {name : String} (plain : ' ' ∉ name.toList) (value : String) :
    Text.cut (separator solverId) (name ++ separator solverId ++ value) = some (name, value) := by
  obtain ⟨head, tail, shape, clear, -⟩ := exists_separator solverId
  have first : ∀ n < name.toList.length, ¬(separator solverId).toList <+:
      (name.toList ++ (separator solverId).toList ++ value.toList).drop n := by
    rw [shape]
    exact fun n within => Text.not_prefix_within clear plain within
  rw [Text.cut, String.toList_append, String.toList_append, Text.cutChars_append _ first]
  simp only [Option.map_some, String.ofList_toList]

/-- What a reader makes of a text: each line cut at the first separator. -/
def readOptions (solverId text : String) : List (Option (String × String)) :=
  (Text.lines text).map (Text.cut (separator solverId))

variable {solverId : String} {options options' : Mapping}

theorem lines_optionLines (plain : options.Plain) (given : options.entries ≠ []) :
    Text.lines (optionLines solverId options) = options.rendered.map fun e =>
      e.1 ++ separator solverId ++ e.2 := by
  rw [Mapping.rendered, List.map_map]
  refine Text.lines_intercalate (by simpa using given) fun line listed => ?_
  obtain ⟨e, mem, rfl⟩ := List.mem_map.1 listed
  obtain ⟨head, tail, shape, -, whole⟩ := exists_separator solverId
  have name : '\n' ∉ e.1.value.shown.toList := plain.not_mem mem rfl
  have value : '\n' ∉ e.2.shown.toList := (plain e mem).2
  rw [String.toList_append, String.toList_append, shape, List.mem_append, List.mem_append]
  tauto

/-- The options are read back, in their order. -/
theorem readOptions_optionLines (plain : options.Plain) (given : options.entries ≠ []) :
    readOptions solverId (optionLines solverId options) = options.rendered.map some := by
  rw [readOptions, lines_optionLines plain given, List.map_map]
  refine List.map_congr_left fun e listed => ?_
  obtain ⟨entry, mem, rfl⟩ := List.mem_map.1 listed
  exact cut_line solverId (plain.not_mem mem rfl) _

/-- A text that is empty has no options. -/
theorem optionLines_eq_empty : optionLines solverId options = "" ↔ options.entries = [] := by
  constructor
  · intro empty
    by_contra some
    obtain ⟨e, rest, same⟩ := List.exists_cons_of_ne_nil some
    have line : e.1.value.shown ++ separator solverId ++ e.2.shown ≠ "" := fun h =>
      separator_ne_empty solverId
        (String.append_eq_empty_iff.1 (String.append_eq_empty_iff.1 h).1).2
    rw [optionLines, same, List.map_cons] at empty
    cases rest with
    | nil =>
        rw [List.map_nil, String.intercalate_singleton] at empty
        exact line empty
    | cons e' rest =>
        rw [List.map_cons, String.intercalate_cons_cons] at empty
        exact line (String.append_eq_empty_iff.1 (String.append_eq_empty_iff.1 empty).1).1
  · intro empty
    rw [optionLines, empty]
    rfl

/-- Options that are written in two ways have two texts. -/
theorem rendered_eq_of_optionLines_eq (plain : options.Plain) (plain' : options'.Plain)
    (same : optionLines solverId options = optionLines solverId options') :
    options.rendered = options'.rendered := by
  by_cases empty : options.entries = []
  · have empty' : options'.entries = [] :=
      optionLines_eq_empty.1 (same.symm.trans (optionLines_eq_empty.2 empty))
    rw [Mapping.rendered, Mapping.rendered, empty, empty']
  · have empty' : options'.entries ≠ [] := fun h =>
      empty (optionLines_eq_empty.1 (same.trans (optionLines_eq_empty.2 h)))
    have read : readOptions solverId (optionLines solverId options) = _ :=
      readOptions_optionLines plain empty
    rw [same, readOptions_optionLines plain' empty'] at read
    exact (List.map_injective_iff.2 (Option.some_injective _) read).symm

/-- The text of the second attempt has the lines of the first and one more. -/
theorem lines_withoutPreprocessing (solverId : String) (options : Mapping) :
    Text.lines (withoutPreprocessing (optionLines solverId options)) =
      (if options.entries = [] then [] else Text.lines (optionLines solverId options)) ++
        ["use_preprocessing: false"] := by
  unfold withoutPreprocessing
  by_cases empty : options.entries = []
  · rw [if_pos empty, optionLines_eq_empty.2 empty]
    decide +kernel
  · have some : (optionLines solverId options).isEmpty = false :=
      Bool.eq_false_iff.2 fun h => empty (optionLines_eq_empty.1 (String.isEmpty_iff.1 h))
    have line : "\nuse_preprocessing: false" = "\n" ++ "use_preprocessing: false" := rfl
    rw [if_neg empty, some, if_neg Bool.false_ne_true, line, ← String.append_assoc]
    exact Text.lines_append _ "use_preprocessing: false" (by decide)

end OrToolsAdapter

/-! ## Texts that are handed over -/

def NativeCall.parameterText? : NativeCall → Option String
  | .orTools (.setParameterText text) => some text
  | _ => none

namespace Workspace

/-- From one workspace to another a solver is handed these texts. -/
def Hands (w : Workspace) (texts : List String) (w' : Workspace) : Prop :=
  ∃ more, w'.calls = w.calls ++ more ∧ more.filterMap (·.parameterText?) = texts

/-- A solver may be told other things. -/
def Mute (w w' : Workspace) : Prop :=
  w.Extends (fun c => c.parameterText? = none) w'

variable {w w' w'' : Workspace} {texts : List String}

theorem Hands.trans {texts' : List String} (h : w.Hands texts w') (h' : w'.Hands texts' w'') :
    w.Hands (texts ++ texts') w'' := by
  obtain ⟨more, calls, rfl⟩ := h
  obtain ⟨more', calls', rfl⟩ := h'
  refine ⟨more ++ more', ?_, List.filterMap_append⟩
  rw [calls', calls, List.append_assoc]

theorem Mute.hands (h : w.Mute w') : w.Hands [] w' := by
  obtain ⟨more, calls, none⟩ := h.calls
  exact ⟨more, calls, List.filterMap_eq_nil_iff.2 none⟩

theorem Mute.then (h : w.Mute w') (h' : w'.Hands texts w'') : w.Hands texts w'' :=
  h.hands.trans h'

theorem Hands.and_mute (h : w.Hands texts w') (h' : w'.Mute w'') : w.Hands texts w'' := by
  have both := h.trans h'.hands
  rwa [List.append_nil] at both

theorem Hands.afterCall (w : Workspace) (text : String) :
    w.Hands [text] (w.afterCall (.orTools (.setParameterText text))) :=
  ⟨[.orTools (.setParameterText text)], w.calls_afterCall _, rfl⟩

end Workspace

namespace OrToolsAdapter

section Parts

variable {α β : Type} {σ : Type} {π : σ → Workspace}

/-- No text is handed over. -/
abbrev IsMute (π : σ → Workspace) (x : Action σ α) : Prop :=
  Makes π (fun c => c.parameterText? = none) x

theorem hands_bind {x : Action σ α} {f : α → Action σ β} {s : σ} {texts : List String}
    (hx : (π s).Hands texts (π (x.run s).2)) (hf : ∀ a, IsMute π (f a)) :
    (π s).Hands texts (π ((x >>= f).run s).2) :=
  hx.and_mute (makes_after hf s)

theorem setParameterText_hands (text : String) (w : Workspace) :
    w.Hands [text] ((OrToolsService.setParameterText text).run w).2 := by
  refine hands_bind (π := id) ?_ fun _ => makes_bind (makes_gets _) fun _ =>
    makes_bind (makes_modify fun _ => .of_eq rfl rfl rfl) fun _ => makes_pure _
  rw [run_call]
  exact .afterCall w text

end Parts

/-- What a second attempt depends on. -/
def memory (a : OrToolsAdapter) : String × String × Bool :=
  (a.solverId, a.optionText, a.solver.isSome)

theorem keeping_call (c : NativeCall) : Within (Adapter.Keeping memory)
    (liftM (call c) : Action (OrToolsAdapter × Workspace) Unit) :=
  Adapter.keeping_onSecond _

theorem keeping_requireSolver (part : String) :
    Within (Adapter.Keeping memory) (requireSolver part) := by
  refine within_bind (Adapter.keeping_look _) fun solver => ?_
  cases solver with
  | some solver => exact within_pure _
  | none => exact within_fail _

theorem solver_of_required {part : String} {s t : OrToolsAdapter × Workspace}
    {solver : OrToolsSolver} (required : (requireSolver part).run s = (.ok solver, t)) :
    t.1.solver.isSome = true := by
  unfold requireSolver at required
  rw [run_bind, Adapter.look_run] at required
  cases opened : s.1.solver with
  | none =>
      rw [opened] at required
      cases required
  | some solver' =>
      rw [opened] at required
      cases required
      rw [opened]
      rfl

theorem keeping_setCoefficients (target : Nat → Value → OrToolsCall)
    (terms : List (Key × Value)) :
    Within (Adapter.Keeping memory) (setCoefficients target terms) := by
  induction terms with
  | nil => exact within_pure ()
  | cons e rest ih =>
      exact within_bind (Adapter.keeping_look _) fun _ =>
        within_bind (within_ofExcept _) fun _ => within_bind (keeping_call _) fun _ => ih

theorem keeping_give (part : Part) : Within (Adapter.Keeping memory) (give part) := by
  have mapped (side : Value) : Within (Adapter.Keeping memory) (mapSide side) :=
    within_bind (within_gets _) fun _ => within_ofExcept _
  cases part with
  | column kind lower upper name =>
      let telling : Action (OrToolsAdapter × Workspace) Unit := do
        let lower ← mapSide lower
        let upper ← mapSide upper
        call (.orTools (columnCall kind lower upper name))
      have keeping_telling : Within (Adapter.Keeping memory) telling :=
        within_bind (mapped lower) fun _ => within_bind (mapped upper) fun _ => keeping_call _
      have parts : give (.column kind lower upper name) =
          requireSolver "infinity" >>= fun solver => telling >>= fun _ =>
            Adapter.remember fun a => { a with
              solver := some { solver with columns := solver.columns + 1 }
              columns := a.columns ++ [solver.columns] } := by
        simp only [telling, bind_assoc]
        rfl
      intro s
      rw [parts]
      refine related_bind (keeping_requireSolver _ s) fun solver t required => ?_
      refine related_bind (keeping_telling t) fun _ u told => ?_
      -- the solver that was required is still there when it gets its column
      have kept := keeping_telling t
      rw [told] at kept
      have there : u.1.solver.isSome = true :=
        (congrArg (·.2.2) kept).trans (solver_of_required required)
      show (u.1.solverId, u.1.optionText, true) = memory u.1
      rw [memory, there]
  | row coefficients lower upper name =>
      exact within_bind (keeping_requireSolver _) fun _ => within_bind (mapped _) fun _ =>
        within_bind (mapped _) fun _ => within_bind (keeping_call _) fun _ =>
        within_bind (within_ofExcept _) fun _ => keeping_setCoefficients _ _
  | objective coefficients =>
      exact within_bind (keeping_requireSolver _) fun _ => within_bind (keeping_call _) fun _ =>
        within_bind (within_ofExcept _) fun _ =>
        within_bind (keeping_setCoefficients _ _) fun _ => keeping_call _

theorem keeping_solveOnce : Within (Adapter.Keeping memory) solveOnce := by
  refine within_bind (Adapter.keeping_onSecond _) fun answer =>
    within_bind (Adapter.keeping_remember fun a => ?_) fun _ => within_pure _
  rw [memory, memory, Option.isSome_map]

theorem keeping_reading (solver : OrToolsSolver) :
    Within (Adapter.Keeping memory) (reading solver) :=
  within_bind (within_gets _) fun _ => within_pure _

theorem keeping_solveAgain (code : String → ℤ) :
    Within (Adapter.Keeping memory) (solveAgain code) := by
  refine within_bind (Adapter.keeping_onSecond _) fun _ =>
    within_bind (Adapter.keeping_look _) fun _ =>
    within_bind (Adapter.keeping_onSecond _) fun accepted => within_ite ?_ ?_
  · refine within_bind keeping_solveOnce fun status => ?_
    exact within_ite (within_bind (Adapter.keeping_onSecond _) fun _ => within_pure _)
      (within_pure _)
  · exact within_bind (Adapter.keeping_onSecond _) fun _ => within_pure _

theorem keeping_solve : Within (Adapter.Keeping memory) solve := by
  refine within_bind (keeping_requireSolver _) fun _ =>
    within_bind (Adapter.keeping_look _) fun _ => within_bind (within_gets _) fun code => ?_
  refine within_bind keeping_solveOnce fun first => ?_
  have judged (last : Value) : Within (Adapter.Keeping memory) (do
      requireKey last
      pure (classify code last) : Action (OrToolsAdapter × Workspace) Status) :=
    within_bind (within_check _) fun _ => within_pure _
  exact within_ite (within_bind (keeping_solveAgain code) judged)
    (within_bind (within_pure _) judged)

/-- An adapter forgets the text of its options only when it is started again or closed. -/
theorem keeps_memory : Adapter.Keeps memory where
  version := within_bind (Adapter.keeping_look _) fun a => by
    cases a.solver with
    | none => exact within_pure _
    | some _ => exact within_bind (within_gets _) fun _ => within_ofExcept _
  give := keeping_give
  solve := within_bind keeping_solve fun _ => within_pure _
  values := within_bind (Adapter.keeping_look _) fun a => by
    cases a.solver with
    | none => exact within_pure _
    | some solver =>
        exact within_bind (keeping_reading solver) fun _ =>
          within_bind (within_ofExcept _) fun _ => within_pure _
  objectiveValue := within_bind (keeping_requireSolver _) fun solver =>
    within_bind (keeping_reading solver) fun _ => within_ofExcept _

theorem serviceSolve_mute : IsMute id OrToolsService.solve :=
  makes_bind (makes_call rfl) fun _ => makes_bind (makes_gets _) fun _ =>
    makes_bind (makes_modify fun _ => .of_eq rfl rfl rfl) fun _ => makes_pure _

theorem solveOnce_mute : IsMute Prod.snd solveOnce :=
  makes_bind (makes_onSecond serviceSolve_mute) fun _ =>
    makes_bind (makes_remember _) fun _ => makes_pure _

/-- One solve either fails or answers the status that comes next. -/
theorem solveOnce_cases (s : OrToolsAdapter × Workspace) :
    (∃ e t, s.2.faults s.2.nativeCalls (.orTools .solve) = some e ∧
      solveOnce.run s = (.error e, t)) ∨
    s.2.faults s.2.nativeCalls (.orTools .solve) = none ∧ ∃ t,
      solveOnce.run s = (.ok (s.2.orTools.statuses.getD 0 (.ofInt 0)), t) := by
  unfold solveOnce OrToolsService.solve
  rw [run_bind, run_liftM, run_bind, run_call]
  cases fault : s.2.faults s.2.nativeCalls (.orTools .solve) with
  | some e => exact .inl ⟨e, _, rfl, rfl⟩
  | none => exact .inr ⟨rfl, _, congrArg (fun v => (Except.ok v, _)) (headD_eq_getD _ _)⟩

theorem solveAgain_hands (code : String → ℤ) (a : OrToolsAdapter) (w : Workspace) :
    w.Hands [withoutPreprocessing a.optionText] ((solveAgain code).run (a, w)).2.2 := by
  obtain ⟨w₁, logged, noted⟩ : ∃ w₁, (log .orTools .debug
      "GLOP reported INFEASIBLE; solving again without presolve").run w = (.ok (), w₁) ∧
      w.Noted w₁ := ⟨_, rfl, noted_log _ _ _ w⟩
  unfold solveAgain
  rw [run_bind, run_liftM, logged]
  dsimp only
  rw [run_bind, Adapter.look_run]
  refine Mute.then (noted.extends_ _) (hands_bind (π := Prod.snd)
    (setParameterText_hands _ w₁) fun accepted => ?_)
  have log_mute {level : Level} {message : String} : IsMute Prod.snd
      (liftM (log .orTools level message) : Action (OrToolsAdapter × Workspace) Unit) :=
    makes_onSecond (makes_log _ _ _)
  refine makes_ite ?_ (makes_bind log_mute fun _ => makes_pure _)
  refine makes_bind solveOnce_mute fun status => ?_
  exact makes_ite (makes_bind log_mute fun _ => makes_pure _) (makes_pure _)

theorem judge_mute (code : String → ℤ) (last : Value) : IsMute Prod.snd (judge code last) :=
  makes_bind (makes_check _) fun _ => makes_pure _

/-- A solve hands over one text, if it comes to a second attempt, and else none. -/
theorem solve_hands {a : OrToolsAdapter} (opened : a.solver.isSome = true) (w : Workspace) :
    (w.faults w.nativeCalls (.orTools .solve) = none ∧ Doubtful a w →
      w.Hands [withoutPreprocessing a.optionText] (Adapter.solve.run (a, w)).2.2) ∧
    (¬(w.faults w.nativeCalls (.orTools .solve) = none ∧ Doubtful a w) →
      w.Hands [] (Adapter.solve.run (a, w)).2.2) := by
  obtain ⟨columns, opened⟩ := Option.isSome_iff_exists.1 opened
  have begun : Adapter.solve.run (a, w) =
      (solveOnce >>= fun first =>
        if first.isInt (w.orTools.code "INFEASIBLE") && a.solverId == "GLOP" then
          solveAgain w.orTools.code >>= judge w.orTools.code
        else judge w.orTools.code first :
          Action (OrToolsAdapter × Workspace) (Given Status)).run (a, w) := by
    show (solve >>= fun status => pure (.proper status) :
      Action (OrToolsAdapter × Workspace) (Given Status)).run (a, w) = _
    unfold solve
    rw [bind_assoc, run_bind, requireSolver_run opened]
    dsimp only
    rw [bind_assoc, run_bind, Adapter.look_run]
    dsimp only
    rw [bind_assoc, run_bind, run_gets]
    dsimp only
    rw [bind_assoc]
    congr 2
    funext first
    split <;> simp only [bind_assoc, pure_bind] <;> rfl
  have mute : w.Mute (solveOnce.run (a, w)).2.2 := solveOnce_mute (a, w)
  have kept : memory (solveOnce.run (a, w)).2.1 = memory a := keeping_solveOnce (a, w)
  rw [begun, run_bind]
  obtain ⟨e, t, fault, ran⟩ | ⟨fault, ⟨a', w'⟩, ran⟩ := solveOnce_cases (a, w)
  · rw [ran] at mute
    rw [ran, fault]
    exact ⟨fun both => (nomatch both.1), fun _ => mute.hands⟩
  · rw [ran] at mute kept
    rw [ran, ← show a'.optionText = a.optionText from congrArg (·.2.1) kept]
    dsimp only
    have asks : ((w.orTools.statuses.getD 0 (.ofInt 0)).isInt (w.orTools.code "INFEASIBLE") &&
        a.solverId == "GLOP") = true ↔ Doubtful a w := retries_iff
    refine ⟨fun both => ?_, fun other => ?_⟩
    · rw [if_pos (asks.2 both.2)]
      exact mute.then (hands_bind (π := Prod.snd) (solveAgain_hands _ a' w') (judge_mute _))
    · rw [if_neg fun h => other ⟨fault, asks.1 h⟩]
      exact mute.then (Mute.hands (judge_mute _ _ (a', w')))

/-! ## Starting -/

/-- No text is handed over and the adapter stays as it is. -/
def Still (s t : OrToolsAdapter × Workspace) : Prop :=
  t.1 = s.1 ∧ s.2.Mute t.2

instance : Std.Refl Still where
  refl s := ⟨rfl, .refl _ s.2⟩

instance : Trans Still Still Still where
  trans h h' := ⟨h'.1.trans h.1, h.2.trans h'.2⟩

/-- How it ends when options are handed over: the text is remembered, or it did not come so far.
Without options there is nothing to come to. -/
inductive Passed (options : Mapping) (s : OrToolsAdapter × Workspace) :
    Except Failure Unit × OrToolsAdapter × Workspace → Prop
  | before {e : Failure} {t : OrToolsAdapter × Workspace} (still : Still s t) :
      Passed options s (.error e, t)
  | nothing {r : Except Failure Unit} {t : OrToolsAdapter × Workspace}
      (empty : options.entries = []) (still : Still s t) : Passed options s (r, t)
  | handed {r : Except Failure Unit} {t : OrToolsAdapter × Workspace}
      (given : options.entries ≠ []) (written : unwritableOption? options = none)
      (kept : t.1 = { s.1 with optionText := optionLines s.1.solverId options })
      (hands : s.2.Hands [optionLines s.1.solverId options] t.2) : Passed options s (r, t)

theorem Passed.after {options : Mapping} {s t : OrToolsAdapter × Workspace}
    {result : Except Failure Unit × OrToolsAdapter × Workspace} (still : Still s t)
    (passed : Passed options t result) : Passed options s result := by
  cases passed with
  | before later => exact .before (Trans.trans still later)
  | nothing empty later => exact .nothing empty (Trans.trans still later)
  | handed given written kept hands =>
      rw [still.1] at kept hands
      exact .handed given written kept (still.2.then hands)

theorem passed_bind {α : Type} {options : Mapping} {x : Action (OrToolsAdapter × Workspace) α}
    {f : α → Action (OrToolsAdapter × Workspace) Unit} {s : OrToolsAdapter × Workspace}
    (hx : Within Still x) (hf : ∀ a t, t.1 = s.1 → Passed options t ((f a).run t)) :
    Passed options s ((x >>= f).run s) := by
  have still := hx s
  rw [run_bind]
  cases ran : x.run s with
  | mk r t =>
      rw [ran] at still
      cases r with
      | error e => exact .before still
      | ok a => exact .after still (hf a t still.1)

theorem passOptions_passed (options : Mapping) (s : OrToolsAdapter × Workspace) :
    Passed options s ((passOptions s.1.solverId options).run s) := by
  unfold passOptions
  by_cases empty : options.entries = []
  · rw [empty]
    exact .nothing empty (Std.Refl.refl s)
  · have some : (!options.entries.isEmpty) = true := by simpa using empty
    rw [if_pos some, run_bind]
    cases written : unwritableOption? options with
    | some e => exact .before (Std.Refl.refl s)
    | none =>
    let text := optionLines s.1.solverId options
    let t : OrToolsAdapter × Workspace := ({ s.1 with optionText := text }, s.2)
    let rest : Action (OrToolsAdapter × Workspace) Unit := do
      let accepted ← OrToolsService.setParameterText text
      if !accepted then
        log .orTools .warning
          (s.1.solverId ++ " rejected solver-specific parameters: " ++ Text.quoted text)
    have kept : Within (Adapter.Keeping id) rest :=
      within_bind (Adapter.keeping_onSecond _) fun _ =>
        within_ite (Adapter.keeping_onSecond _) (within_pure _)
    refine .handed empty written (kept t) (hands_bind (π := Prod.snd) (s := t)
      (setParameterText_hands text s.2) fun accepted => ?_)
    exact makes_ite (makes_onSecond (makes_log _ _ _)) (makes_pure _)

theorem still_onSecond {α : Type} {x : Action Workspace α} (hx : IsMute id x) :
    Within Still (onSecond x : Action (OrToolsAdapter × Workspace) α) :=
  fun s => ⟨rfl, hx s.2⟩

theorem limitTime_still (limit : Option Scalar) : Within Still (limitTime limit) := by
  cases limit with
  | none => exact within_pure ()
  | some seconds =>
      exact within_bind (within_ofExcept _) fun _ => still_onSecond (makes_call rfl)

theorem limitThreads_still (solverId : String) (limit : Option Scalar) :
    Within Still (limitThreads solverId limit) := by
  cases limit with
  | none => exact within_pure ()
  | some threads =>
      refine within_bind (still_onSecond (makes_bind (makes_call rfl) fun _ => makes_gets _))
        fun accepted => within_ite ?_ (within_pure _)
      cases threads.truncate with
      | ok whole => exact still_onSecond (makes_logShowing _ _ _ _)
      | error e => exact within_pure ()

theorem apply_passed (p : Parameters) (s : OrToolsAdapter × Workspace) :
    Passed p.options s ((apply p).run s) := by
  have output (c : OrToolsCall) (mute : (NativeCall.orTools c).parameterText? = none) :
      Within Still (liftM (Workspace.call (.orTools c)) :
        Action (OrToolsAdapter × Workspace) Unit) :=
    still_onSecond (makes_call mute)
  unfold apply
  rw [run_bind, Adapter.look_run]
  refine passed_bind (output _ (by cases p.verbose.isTrue <;> rfl)) fun _ t₁ same₁ => ?_
  refine passed_bind (limitTime_still _) fun _ t₂ same₂ => ?_
  refine passed_bind (limitThreads_still _ _) fun _ t₃ same₃ => ?_
  rw [← same₁, ← same₂, ← same₃]
  exact passOptions_passed p.options t₃

/-- A start fails before there is a new solver, or it goes on with a new solver. -/
theorem start_passed (a : OrToolsAdapter) (p : Parameters) (w : Workspace) :
    (∃ e w', w.Mute w' ∧ (Adapter.start (.proper p)).run (a, w) = (.error e, a, w')) ∨
    ∃ w', w.Mute w' ∧ Passed p.options (⟨a.solverId, some ⟨0, none⟩, [], ""⟩, w')
      ((Adapter.start (.proper p)).run (a, w)) := by
  have mute : IsMute id (OrToolsService.createSolver a.solverId) :=
    makes_bind (makes_call rfl) fun _ => makes_gets _
  have after := mute w
  show (∃ e w', _ ∧ (start (.proper p)).run (a, w) = _) ∨
    ∃ w', _ ∧ Passed _ _ ((start (.proper p)).run (a, w))
  unfold start
  rw [run_bind, Adapter.look_run]
  dsimp only
  rw [run_bind, run_liftM]
  cases ran : (OrToolsService.createSolver a.solverId).run w with
  | mk r w₁ =>
      rw [ran] at after
      cases r with
      | error e => exact .inl ⟨e, w₁, after, rfl⟩
      | ok created =>
          cases created with
          | false => exact .inl ⟨_, w₁, after, rfl⟩
          | true =>
              exact .inr ⟨w₁, after, apply_passed p (⟨a.solverId, some ⟨0, none⟩, [], ""⟩, w₁)⟩

/-- A text is handed over at most once, only if there are options that can be written, and always
then if the start returns. -/
theorem start_hands (a : OrToolsAdapter) (p : Parameters) (w : Workspace) :
    (w.Hands [] ((Adapter.start (.proper p)).run (a, w)).2.2 ∧
      (p.options.entries = [] ∨ ((Adapter.start (.proper p)).run (a, w)).1 ≠ .ok ())) ∨
    p.options.entries ≠ [] ∧ unwritableOption? p.options = none ∧
      w.Hands [optionLines a.solverId p.options]
        ((Adapter.start (.proper p)).run (a, w)).2.2 := by
  obtain ⟨e, w', mute, ran⟩ | ⟨w', mute, passed⟩ := start_passed a p w
  · rw [ran]
    exact .inl ⟨mute.hands, .inr nofun⟩
  · generalize (Adapter.start (.proper p)).run (a, w) = result at passed ⊢
    cases passed with
    | before still => exact .inl ⟨mute.then still.2.hands, .inr nofun⟩
    | nothing empty still => exact .inl ⟨mute.then still.2.hands, .inl empty⟩
    | handed given written kept hands => exact .inr ⟨given, written, mute.then hands⟩

/-- What is remembered is what was handed over, or nothing where there was nothing. -/
theorem start_memory {a b : OrToolsAdapter} {p : Parameters} {w w' : Workspace}
    (started : (Adapter.start (.proper p)).run (a, w) = (.ok (), b, w')) :
    memory b = (a.solverId, optionLines a.solverId p.options, true) := by
  obtain ⟨e, _, -, ran⟩ | ⟨_, -, passed⟩ := start_passed a p w
  · rw [ran] at started
    cases started
  · rw [started] at passed
    cases passed with
    | nothing empty still =>
        rw [show b = ⟨a.solverId, some ⟨0, none⟩, [], ""⟩ from still.1,
          optionLines_eq_empty.2 empty]
        rfl
    | handed given written kept hands =>
        rw [show b = ⟨a.solverId, some ⟨0, none⟩, [], optionLines a.solverId p.options⟩ from kept]
        rfl

/-- What becomes of the options that an adapter is started with, where `result` is how the start
ends. -/
structure Conveys (options : Mapping) (w : Workspace) (a : OrToolsAdapter)
    (result : Except Failure Unit × OrToolsAdapter × Workspace) : Prop where
  /-- no text is handed over, or there are options that can be written and it is their text -/
  once : w.Hands [] result.2.2 ∨
    options.entries ≠ [] ∧ unwritableOption? options = none ∧
      w.Hands [optionLines a.solverId options] result.2.2
  handed : result.1 = .ok () → options.entries ≠ [] →
    w.Hands [optionLines a.solverId options] result.2.2
  /-- the text has a line for each option, in their order, that can be cut into the option -/
  read : options.entries ≠ [] →
    readOptions a.solverId (optionLines a.solverId options) = options.rendered.map some
  decided : ∀ options' : Mapping, options'.Plain →
    optionLines a.solverId options = optionLines a.solverId options' →
    options.rendered = options'.rendered
  /-- however the adapter is used until it is started again or closed, a second attempt hands over
  the same lines and one more -/
  again : result.1 = .ok () → ∀ b, Adapter.Used (·.continues = true) result.2.1 b →
    ∀ v : Workspace, v.faults v.nativeCalls (.orTools .solve) = none ∧ Doubtful b v →
      ∃ text, v.Hands [text] (Adapter.solve.run (b, v)).2.2 ∧
        Text.lines text =
          (if options.entries = [] then [] else Text.lines (optionLines a.solverId options)) ++
            ["use_preprocessing: false"]
  /-- without a second attempt a solve hands over nothing -/
  silent : result.1 = .ok () → ∀ b, Adapter.Used (·.continues = true) result.2.1 b →
    ∀ v : Workspace, ¬(v.faults v.nativeCalls (.orTools .solve) = none ∧ Doubtful b v) →
      v.Hands [] (Adapter.solve.run (b, v)).2.2

theorem options_read_back (a : OrToolsAdapter) (w : Workspace) (p : Parameters)
    (plain : p.options.Plain) :
    Conveys p.options w a ((Adapter.start (.proper p)).run (a, w)) := by
  have hands := start_hands a p w
  have remembers : ∀ b, ((Adapter.start (.proper p)).run (a, w)).1 = .ok () →
      Adapter.Used (·.continues = true) ((Adapter.start (.proper p)).run (a, w)).2.1 b →
      memory b = (a.solverId, optionLines a.solverId p.options, true) := by
    intro b ok used
    obtain ⟨first, w', started⟩ : ∃ first w',
        (Adapter.start (.proper p)).run (a, w) = (.ok (), first, w') :=
      ⟨_, _, Prod.ext ok rfl⟩
    rw [started] at used
    exact (used.keeping fun q may => keeps_memory.ask may).trans (start_memory started)
  refine ⟨?_, fun ok some => ?_, readOptions_optionLines plain,
    fun options' plain' same => rendered_eq_of_optionLines_eq plain plain' same,
    fun ok b used v both => ?_, fun ok b used v other => ?_⟩
  · exact hands.imp (·.1) id
  · exact (hands.resolve_left fun none => none.2.elim some fun failed => failed ok).2.2
  · have memory := remembers b ok used
    have opened : b.solver.isSome = true := congrArg (·.2.2) memory
    refine ⟨_, (solve_hands opened v).1 both, ?_⟩
    rw [show b.optionText = _ from congrArg (·.2.1) memory]
    exact lines_withoutPreprocessing a.solverId p.options
  · have opened : b.solver.isSome = true := congrArg (·.2.2) (remembers b ok used)
    exact (solve_hands opened v).2 other

end OrToolsAdapter

namespace Sample

/-- A build with GLOP that calls two models infeasible. -/
def glop : Workspace :=
  let w := workspace .continuous
  { w with orTools := { w.orTools with
      known := ["GLOP"]
      statuses := [.ofInt (orToolsCode "INFEASIBLE"), .ofInt (orToolsCode "INFEASIBLE")] } }

/-- One of the values has the separator of GLOP in it. -/
def options : Mapping :=
  .ofList [(.text "max_number_of_iterations", .ofInt 100), (.text "note", .text "a: b")]

theorem make_glop : OrToolsAdapter.make "glop" = ⟨"GLOP", none, [], ""⟩ :=
  congrArg (OrToolsAdapter.mk · none [] "") (by decide +kernel)

end Sample

namespace OrToolsAdapter

theorem options_read_back_of_separator_in_value :
    Sample.options.Plain ∧
      readOptions "GLOP" (optionLines "GLOP" Sample.options) =
        [some ("max_number_of_iterations", "100"), some ("note", "a: b")] ∧
      ∃ b w, (Adapter.start (.proper { Parameters.default with options := Sample.options })).run
          (make "glop", Sample.glop) = (.ok (), b, w) ∧
        ∃ text, w.Hands [text] (Adapter.solve.run (b, w)).2.2 ∧
          Text.lines text =
            ["max_number_of_iterations: 100", "note: a: b", "use_preprocessing: false"] := by
  rw [Sample.make_glop]
  have plain : Sample.options.Plain := by decide +kernel
  have conveys := options_read_back ⟨"GLOP", none, [], ""⟩ Sample.glop
    { Parameters.default with options := Sample.options } plain
  have given : Sample.options.entries ≠ [] := by decide
  obtain ⟨result, ran⟩ : ∃ result,
      (Adapter.start (.proper { Parameters.default with options := Sample.options })).run
        ((⟨"GLOP", none, [], ""⟩ : OrToolsAdapter), Sample.glop) = result := ⟨_, rfl⟩
  have started : result.1 = .ok () := by
    rw [← ran]
    decide +kernel
  have doubtful : Doubtful result.2.1 result.2.2 := by
    rw [← ran]
    exact ⟨by decide +kernel, by decide +kernel⟩
  have quiet : result.2.2.faults result.2.2.nativeCalls (.orTools .solve) = none := by
    rw [← ran]
    decide +kernel
  rw [ran] at conveys
  obtain ⟨text, hands, lines⟩ := conveys.again started result.2.1 .unused _ ⟨quiet, doubtful⟩
  refine ⟨plain, (conveys.read given).trans (by decide +kernel), result.2.1, result.2.2,
    ran.trans (Prod.ext started rfl), text, hands, ?_⟩
  exact lines.trans (by decide +kernel)

end OrToolsAdapter

end LinearDispatch
