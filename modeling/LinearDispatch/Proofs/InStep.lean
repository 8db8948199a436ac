import LinearDispatch.Adapter.Backend
import LinearDispatch.Proofs.NativeCalls
import LinearDispatch.Proofs.Respects

/-!
# Adapters in step

Everything that an adapter does depends on what it remembers, on the environments and on the native
libraries. It reads neither the model objects nor the registry, it does not look back into the
journal, and how many native calls were made before counts only in so far as it decides which of
those to come will fail. So two runs of an adapter, from workspaces that match, do the same, call
for call, as long as no call fails in one of them and not in the other: they write the same into
both journals and leave both model stores and both registries as they were. `InStep` is the
comparison of the two runs, and each action of each adapter respects it.
-/

namespace LinearDispatch

open LinearDispatch.Action Workspace

namespace Workspace

/-- The environments and the native libraries are the same. -/
structure Matches (w w' : Workspace) : Prop where
  environments : w.environments = w'.environments
  orTools : w.orTools = w'.orTools
  highs : w.highs = w'.highs
  gurobi : w.gurobi = w'.gurobi

theorem Matches.refl (w : Workspace) : w.Matches w :=
  ⟨rfl, rfl, rfl, rfl⟩

/-- The environments and the native libraries are the same, and so is which of the native calls to
come will fail. -/
structure Alike (w w' : Workspace) : Prop extends w.Matches w' where
  faults : ∀ n, w.faults (w.nativeCalls + n) = w'.faults (w'.nativeCalls + n)

/-- What was written since the workspace `first`, and the native calls in it were counted. -/
structure Since (first : Workspace) (more : List Event) (w : Workspace) : Prop where
  journal : w.journal = first.journal ++ more
  counted : w.nativeCalls = first.nativeCalls + (more.filterMap Event.native?).length
  faults : w.faults = first.faults

/-- Since the first two workspaces two runs have written the same and come to two that match, and
neither has changed its model objects or its registry. -/
structure Abreast (first first' : Workspace) (w w' : Workspace) : Prop where
  same : w.Matches w'
  written : ∃ more, first.Since more w ∧ first'.Since more w'
  models : w.models = first.models ∧ w'.models = first'.models
  registry : w.registry = first.registry ∧ w'.registry = first'.registry

theorem Abreast.refl {w w' : Workspace} (same : w.Matches w') : Abreast w w' w w' :=
  ⟨same, ⟨[], ⟨(List.append_nil _).symm, rfl, rfl⟩, (List.append_nil _).symm, rfl, rfl⟩,
    ⟨rfl, rfl⟩, rfl, rfl⟩

/-- One of the calls since `first` fails in one of the runs and not, or otherwise, in the other. -/
def Parted (first first' w : Workspace) : Prop :=
  ∃ more, w.journal = first.journal ++ more ∧ ∃ k c, (more.filterMap Event.native?)[k]? = some c ∧
    first.faults (first.nativeCalls + k) c ≠ first'.faults (first'.nativeCalls + k) c

/-- Two runs from two workspaces are compared until they part. -/
def InStep (first first' : Workspace) : Comparison Workspace :=
  ⟨Abreast first first', Parted first first'⟩

theorem Parted.of_journal {first first' w w' : Workspace} (events : List Event)
    (grown : w'.journal = w.journal ++ events) (h : Parted first first' w) :
    Parted first first' w' := by
  obtain ⟨more, journal, k, c, called, differ⟩ := h
  refine ⟨more ++ events, ?_, k, c, ?_, differ⟩
  · rw [grown, journal, List.append_assoc]
  · rw [List.filterMap_append, List.getElem?_append_left (List.getElem?_eq_some_iff.1 called).1]
    exact called

end Workspace

variable {first first' : Workspace}

/-! ## Actions on a workspace -/

theorem inStep_gets {α : Type} {f : Workspace → α} (same : ∀ w w', w.Matches w' → f w = f w') :
    Respects (InStep first first') (gets f) :=
  respects_gets fun w w' h => same w w' h.same

theorem inStep_modify {f : Workspace → Workspace}
    (same : ∀ w w', w.Matches w' → (f w).Matches (f w'))
    (rest : ∀ w, (f w).journal = w.journal ∧ (f w).nativeCalls = w.nativeCalls ∧
      (f w).faults = w.faults ∧ (f w).models = w.models ∧ (f w).registry = w.registry) :
    Respects (InStep first first') (Action.modify f) := by
  have since : ∀ {first more w}, Since first more w → Since first more (f w) := by
    rintro first more w ⟨journal, counted, faults⟩
    obtain ⟨journal', counted', faults', -⟩ := rest w
    exact ⟨journal'.trans journal, counted'.trans counted, faults'.trans faults⟩
  refine respects_modify (fun w => .of_journal [] ?_) fun w w' h => ?_
  · rw [(rest w).1, List.append_nil]
  · obtain ⟨more, grown, grown'⟩ := h.written
    obtain ⟨-, -, -, models, registry⟩ := rest w
    obtain ⟨-, -, -, models', registry'⟩ := rest w'
    exact ⟨same w w' h.same, ⟨more, since grown, since grown'⟩,
      ⟨models.trans h.models.1, models'.trans h.models.2⟩,
      registry.trans h.registry.1, registry'.trans h.registry.2⟩

theorem Workspace.Since.record {first w : Workspace} {more : List Event} (h : Since first more w)
    {e : Event} (silent : e.native? = none) :
    Since first (more ++ [e]) { w with journal := w.journal ++ [e] } := by
  refine ⟨?_, ?_, h.faults⟩
  · exact (congrArg (· ++ [e]) h.journal).trans (List.append_assoc _ _ _)
  · rw [List.filterMap_append, List.filterMap_cons_none silent, List.filterMap_nil,
      List.append_nil]
    exact h.counted

theorem Workspace.Since.call {first w : Workspace} {more : List Event} (h : Since first more w)
    (c : NativeCall) : Since first (more ++ [.native c]) (w.afterCall c) := by
  refine ⟨?_, ?_, h.faults⟩
  · exact (congrArg (· ++ [.native c]) h.journal).trans (List.append_assoc _ _ _)
  · rw [List.filterMap_append, List.length_append, ← Nat.add_assoc]
    exact congrArg (· + 1) h.counted

theorem inStep_record {e : Event} (silent : e.native? = none) :
    Respects (InStep first first') (record e) := by
  refine respects_modify (fun w => .of_journal [e] rfl) fun w w' h => ?_
  obtain ⟨more, grown, grown'⟩ := h.written
  exact ⟨{ h.same with }, ⟨more ++ [e], grown.record silent, grown'.record silent⟩, h.models,
    h.registry⟩

theorem inStep_log (channel : Channel) (level : Level) (message : String) :
    Respects (InStep first first') (log channel level message) :=
  inStep_record rfl

theorem inStep_logShowing (values : List Value) (channel : Channel) (level : Level)
    (message : String) :
    Respects (InStep first first') (logShowing values channel level message) :=
  respects_ite (inStep_log channel level message) (respects_pure ())

/-- A call fails in both runs or in none of them, or they part. -/
theorem inStep_call (c : NativeCall) : Respects (InStep first first') (call c) := by
  intro w
  rw [run_call]
  refine ⟨.of_journal [.native c] rfl, fun w' h => ?_⟩
  rw [run_call]
  obtain ⟨more, grown, grown'⟩ := h.written
  have later : Abreast first first' (w.afterCall c) (w'.afterCall c) :=
    ⟨{ h.same with }, ⟨_, grown.call c, grown'.call c⟩, h.models, h.registry⟩
  by_cases fails : w.faults w.nativeCalls c = w'.faults w'.nativeCalls c
  · rw [fails]
    exact .inr ⟨rfl, later⟩
  · rw [grown.faults, grown.counted, grown'.faults, grown'.counted] at fails
    refine .inl ⟨_, (grown.call c).journal, (more.filterMap Event.native?).length, c, ?_, fails⟩
    rw [List.filterMap_append, List.getElem?_append_right (Nat.le_refl _), Nat.sub_self]
    rfl

/-! ### The native libraries -/

theorem inStep_createSolver (solverId : String) :
    Respects (InStep first first') (OrToolsService.createSolver solverId) :=
  respects_bind (inStep_call _) fun _ => inStep_gets fun w w' h => by rw [h.orTools]

theorem inStep_setThreads (threads : Scalar) :
    Respects (InStep first first') (OrToolsService.setThreads threads) :=
  respects_bind (inStep_call _) fun _ => inStep_gets fun w w' h => by rw [h.orTools]

/-- A call whose answer is taken from a library. -/
theorem inStep_ask {α β : Type} (c : NativeCall) {f : Workspace → α}
    {g : α → Workspace → Workspace} {answer : α → β}
    (same : ∀ w w', w.Matches w' → f w = f w')
    (left : ∀ a w w', w.Matches w' → (g a w).Matches (g a w'))
    (rest : ∀ a w, (g a w).journal = w.journal ∧ (g a w).nativeCalls = w.nativeCalls ∧
      (g a w).faults = w.faults ∧ (g a w).models = w.models ∧ (g a w).registry = w.registry) :
    Respects (InStep first first') (do
      call c
      let a ← gets f
      Action.modify (g a)
      pure (answer a)) := by
  refine respects_bind (inStep_call c) fun _ => respects_bind (inStep_gets same) fun a => ?_
  exact respects_bind (inStep_modify (left a) (rest a)) fun _ => respects_pure _

theorem inStep_setParameterText (text : String) :
    Respects (InStep first first') (OrToolsService.setParameterText text) :=
  inStep_ask _ (fun w w' h => by rw [h.orTools])
    (fun _ w w' h => { h with orTools := by rw [h.orTools] }) fun _ _ => ⟨rfl, rfl, rfl, rfl, rfl⟩

theorem inStep_orToolsSolve : Respects (InStep first first') OrToolsService.solve :=
  inStep_ask _ (fun w w' h => by rw [h.orTools])
    (fun _ w w' h => { h with orTools := by rw [h.orTools] }) fun _ _ => ⟨rfl, rfl, rfl, rfl, rfl⟩

theorem inStep_milp (model : HighsModel) :
    Respects (InStep first first') (HighsService.milp model) :=
  inStep_ask _ (fun w w' h => by rw [h.highs])
    (fun _ w w' h => { h with highs := by rw [h.highs] }) fun _ _ => ⟨rfl, rfl, rfl, rfl, rfl⟩

theorem inStep_optimize : Respects (InStep first first') GurobiService.optimize :=
  inStep_ask _ (fun w w' h => by rw [h.gurobi])
    (fun _ w w' h => { h with gurobi := by rw [h.gurobi] }) fun _ _ => ⟨rfl, rfl, rfl, rfl, rfl⟩

theorem inStep_locate : Respects (InStep first first') GurobiService.locate := by
  refine respects_bind (inStep_gets fun w w' h => h.gurobi) fun g => ?_
  exact respects_bind (respects_check _) fun _ => respects_pure _

theorem inStep_createEnvironment :
    Respects (InStep first first') GurobiService.createEnvironment := by
  have counted : Respects (InStep first first') (Action.modify fun w =>
      { w with gurobi := { w.gurobi with created := w.gurobi.created + 1 } }) :=
    inStep_modify (fun w w' h => { h with gurobi := by rw [h.gurobi] })
      fun _ => ⟨rfl, rfl, rfl, rfl, rfl⟩
  refine respects_bind counted fun _ => ?_
  refine respects_bind (inStep_gets fun w w' h => by rw [h.gurobi]) fun serial => ?_
  exact respects_bind (inStep_call _) fun _ => respects_pure _

/-! ### Shared environments -/

namespace SharedEnvironment

theorem inStep_look {α : Type} (r : Ref SharedEnvironment) (f : SharedEnvironment → α) :
    Respects (InStep first first') (look r f) :=
  inStep_gets fun w w' h => by rw [h.environments]

theorem inStep_change (r : Ref SharedEnvironment) (f : SharedEnvironment → SharedEnvironment) :
    Respects (InStep first first') (change r f) :=
  inStep_modify (fun w w' h => { h with environments := by rw [h.environments] })
    fun _ => ⟨rfl, rfl, rfl, rfl, rfl⟩

theorem inStep_startGurobi : Respects (InStep first first') startGurobi := by
  refine respects_bind inStep_locate fun _ => ?_
  refine respects_bind (respects_attempt ?_) fun started => ?_
  · refine respects_bind inStep_createEnvironment fun env => ?_
    refine respects_bind (inStep_call _) fun _ => respects_bind (inStep_call _) fun _ => ?_
    exact respects_pure env
  · cases started with
    | ok env => exact respects_pure env
    | error e => exact respects_ite (respects_fail _) (respects_fail _)

theorem inStep_make (r : Ref SharedEnvironment) : Respects (InStep first first') (make r) := by
  refine respects_bind (inStep_look r id) fun h => ?_
  cases h.source with
  | gurobi => exact respects_bind inStep_startGurobi fun _ => respects_pure _
  | script make dispose =>
      refine respects_bind (inStep_record rfl) fun _ => ?_
      exact respects_bind (inStep_change r _) fun _ => respects_ofExcept _

theorem inStep_dispose (r : Ref SharedEnvironment) (env : Environment) :
    Respects (InStep first first') (dispose r env) := by
  refine respects_bind (inStep_look r id) fun h => ?_
  cases h.source with
  | gurobi => exact inStep_call _
  | script make dispose =>
      refine respects_bind (inStep_record rfl) fun _ => ?_
      exact respects_bind (inStep_change r _) fun _ => respects_check _

theorem inStep_teardown (r : Ref SharedEnvironment) :
    Respects (InStep first first') (teardown r) := by
  refine respects_bind (inStep_look r id) fun h => ?_
  cases h.environment with
  | none => exact respects_pure _
  | some env =>
      refine respects_bind (inStep_change r _) fun _ => ?_
      exact respects_bind (inStep_logShowing _ _ _ _) fun _ => inStep_dispose r env

theorem inStep_acquire (r : Ref SharedEnvironment) :
    Respects (InStep first first') (acquire r) := by
  refine respects_bind (inStep_look r id) fun h => ?_
  have held : Respects (InStep first first') (do
      change r fun h => { h with holders := h.holders + 1 }
      look r (·.environment)) :=
    respects_bind (inStep_change r _) fun _ => inStep_look r _
  refine respects_ite ?_ held
  refine respects_bind (inStep_logShowing _ _ _ _) fun _ => ?_
  refine respects_bind (inStep_make r) fun env => ?_
  exact respects_bind (inStep_change r _) fun _ => held

theorem inStep_release (r : Ref SharedEnvironment) :
    Respects (InStep first first') (release r) := by
  refine respects_bind (inStep_look r id) fun h => respects_ite (respects_fail _) ?_
  refine respects_bind (inStep_change r _) fun _ => ?_
  exact respects_ite (inStep_teardown r) (respects_pure _)

end SharedEnvironment

/-! ## Adapters -/

/-- Two runs on workspaces that are alike, by an adapter that remembers the same in both. -/
abbrev Both {A : Type} (first first' : Workspace) : Comparison (A × Workspace) :=
  Beside (InStep first first')

/-- Whatever an adapter of this type is asked, it does in step. -/
structure Adapter.Steady (A : Type) [Adapter A] (first first' : Workspace) : Prop where
  version : Respects (Both first first') (Adapter.version (A := A))
  start : ∀ p, Respects (Both first first') (Adapter.start (A := A) p)
  give : ∀ part, Respects (Both first first') (Adapter.give (A := A) part)
  solve : Respects (Both first first') (Adapter.solve (A := A))
  values : Respects (Both first first') (Adapter.values (A := A))
  objectiveValue : Respects (Both first first') (Adapter.objectiveValue (A := A))
  close : Respects (Both first first') (Adapter.close (A := A))

theorem both_call {A : Type} (c : NativeCall) :
    Respects (Both (A := A) first first') (liftM (call c)) :=
  respects_onSecond (inStep_call c)

theorem both_log {A : Type} (channel : Channel) (level : Level) (message : String) :
    Respects (Both (A := A) first first') (liftM (log channel level message)) :=
  respects_onSecond (inStep_log channel level message)

theorem both_logShowing {A : Type} (values : List Value) (channel : Channel) (level : Level)
    (message : String) :
    Respects (Both (A := A) first first') (liftM (logShowing values channel level message)) :=
  respects_onSecond (inStep_logShowing values channel level message)

namespace ScriptedAdapter

theorem inStep_make (script : Script) : Respects (InStep first first') (make script) :=
  respects_bind (inStep_record rfl) fun _ => respects_bind (respects_check _) fun _ =>
    respects_pure _

theorem both_note (c : AdapterCall) : Respects (Both first first') (note c) := by
  refine respects_bind (respects_look id) fun a => ?_
  refine respects_bind (respects_onSecond (inStep_record rfl)) fun _ => ?_
  exact respects_bind (respects_remember _) fun _ => respects_check _

theorem steady : Adapter.Steady ScriptedAdapter first first' where
  version := respects_look _
  start p := respects_bind (respects_ofExcept _) fun _ => both_note _
  give part := by
    refine respects_bind (respects_ofExcept _) fun _ => respects_bind (both_note _) fun _ => ?_
    cases part with
    | column => exact respects_remember _
    | row | objective => exact respects_pure ()
  solve := respects_bind (both_note _) fun _ => respects_look _
  values := respects_bind (both_note _) fun _ => respects_look _
  objectiveValue := respects_bind (both_note _) fun _ => respects_look _
  close := both_note _

end ScriptedAdapter

namespace OrToolsAdapter

theorem both_requireSolver (part : String) : Respects (Both first first') (requireSolver part) := by
  refine respects_bind (respects_look _) fun solver => ?_
  cases solver with
  | some solver => exact respects_pure solver
  | none => exact respects_fail _

theorem both_limitTime (limit : Option Scalar) :
    Respects (Both first first') (limitTime limit) := by
  cases limit with
  | none => exact respects_pure ()
  | some seconds => exact respects_bind (respects_ofExcept _) fun _ => both_call _

theorem both_limitThreads (solverId : String) (limit : Option Scalar) :
    Respects (Both first first') (limitThreads solverId limit) := by
  cases limit with
  | none => exact respects_pure ()
  | some threads =>
      refine respects_bind (respects_onSecond (inStep_setThreads _)) fun accepted => ?_
      refine respects_ite ?_ (respects_pure _)
      cases threads.truncate with
      | ok whole => exact both_logShowing _ _ _ _
      | error e => exact respects_pure ()

theorem both_passOptions (solverId : String) (options : Mapping) :
    Respects (Both first first') (passOptions solverId options) := by
  refine respects_ite ?_ (respects_pure _)
  refine respects_bind (respects_check _) fun _ => respects_bind (respects_remember _) fun _ => ?_
  refine respects_bind (respects_onSecond (inStep_setParameterText _)) fun accepted => ?_
  exact respects_ite (both_log _ _ _) (respects_pure _)

theorem both_start (p : Given Parameters) : Respects (Both first first') (start p) := by
  refine respects_bind (respects_look _) fun solverId => ?_
  refine respects_bind (respects_onSecond (inStep_createSolver _)) fun created => ?_
  refine respects_bind (respects_check _) fun _ => respects_bind (respects_remember _) fun _ => ?_
  refine respects_bind (respects_ofExcept _) fun p => respects_bind (respects_look _) fun id => ?_
  refine respects_bind (both_call _) fun _ => respects_bind (both_limitTime _) fun _ => ?_
  exact respects_bind (both_limitThreads _ _) fun _ => both_passOptions _ _

theorem both_setCoefficients (target : Nat → Value → OrToolsCall) (entries : List (Key × Value)) :
    Respects (Both first first') (setCoefficients target entries) := by
  induction entries with
  | nil => exact respects_pure ()
  | cons entry rest ih =>
      refine respects_bind (respects_look _) fun columns => ?_
      exact respects_bind (respects_ofExcept _) fun _ => respects_bind (both_call _) fun _ => ih

theorem both_mapSide (side : Value) : Respects (Both first first') (mapSide side) :=
  respects_bind (respects_gets fun s s' h => by rw [h.second.same.orTools]) fun _ =>
    respects_ofExcept _

theorem both_give (part : Part) : Respects (Both first first') (give part) := by
  cases part with
  | column =>
      refine respects_bind (both_requireSolver _) fun _ => ?_
      refine respects_bind (both_mapSide _) fun _ => respects_bind (both_mapSide _) fun _ => ?_
      refine respects_bind (both_call _) fun _ => ?_
      exact respects_remember _
  | row =>
      refine respects_bind (both_requireSolver _) fun _ => ?_
      refine respects_bind (both_mapSide _) fun _ => respects_bind (both_mapSide _) fun _ => ?_
      refine respects_bind (both_call _) fun _ => ?_
      exact respects_bind (respects_ofExcept _) fun _ => both_setCoefficients _ _
  | objective =>
      refine respects_bind (both_requireSolver _) fun _ => respects_bind (both_call _) fun _ => ?_
      refine respects_bind (respects_ofExcept _) fun _ => ?_
      exact respects_bind (both_setCoefficients _ _) fun _ => both_call _

theorem both_solveOnce : Respects (Both first first') solveOnce :=
  respects_bind (respects_onSecond inStep_orToolsSolve) fun _ =>
    respects_bind (respects_remember _) fun _ => respects_pure _

theorem both_reading (solver : OrToolsSolver) : Respects (Both first first') (reading solver) :=
  respects_bind (respects_gets fun s s' h => by rw [h.second.same.orTools]) fun _ =>
    respects_pure _

theorem both_solveAgain (code : String → Int) :
    Respects (Both first first') (solveAgain code) := by
  refine respects_bind (both_log _ _ _) fun _ => respects_bind (respects_look _) fun text => ?_
  refine respects_bind (respects_onSecond (inStep_setParameterText _)) fun accepted => ?_
  refine respects_ite ?_ (respects_bind (both_log _ _ _) fun _ => respects_pure _)
  refine respects_bind both_solveOnce fun status => ?_
  exact respects_ite (respects_bind (both_log _ _ _) fun _ => respects_pure _) (respects_pure _)

theorem both_solve : Respects (Both first first') solve := by
  refine respects_bind (both_requireSolver _) fun _ => respects_bind (respects_look _) fun id => ?_
  refine respects_bind (respects_gets fun s s' h => by rw [h.second.same.orTools]) fun code => ?_
  refine respects_bind both_solveOnce fun status => ?_
  have classified : ∀ last : Value, Respects (Both (A := OrToolsAdapter) first first') (do
      requireKey last
      pure (classify code last)) :=
    fun last => respects_bind (respects_check _) fun _ => respects_pure _
  exact respects_ite (respects_bind (both_solveAgain code) classified) (classified status)

theorem steady : Adapter.Steady OrToolsAdapter first first' where
  version := by
    refine respects_bind (respects_look id) fun a => ?_
    cases a.solver with
    | none => exact respects_pure _
    | some solver =>
        refine respects_bind (respects_gets fun s s' h => ?_) fun _ => respects_ofExcept _
        rw [h.second.same.orTools]
  start := both_start
  give := both_give
  solve := respects_bind both_solve fun _ => respects_pure _
  values := by
    refine respects_bind (respects_look id) fun a => ?_
    cases a.solver with
    | none => exact respects_pure _
    | some solver => exact respects_bind (both_reading solver) fun _ =>
        respects_bind (respects_ofExcept _) fun _ => respects_pure _
  objectiveValue := respects_bind (both_requireSolver _) fun solver =>
    respects_bind (both_reading solver) fun _ => respects_ofExcept _
  close := respects_remember _

end OrToolsAdapter

namespace HighsAdapter

theorem both_start (p : Given Parameters) : Respects (Both first first') (start p) := by
  refine respects_bind (respects_remember _) fun _ => ?_
  refine respects_bind (respects_ofExcept _) fun p => ?_
  refine respects_bind (respects_ofExcept _) fun own => ?_
  refine respects_bind (respects_remember _) fun _ => ?_
  exact respects_ite (respects_bind (both_log _ _ _) fun _ => respects_remember _)
    (respects_remember _)

theorem both_requireStarted : Respects (Both first first') requireStarted :=
  respects_bind (respects_look _) fun _ => respects_check _

theorem inStep_classify (answer : HighsAnswer) :
    Respects (InStep first first') (classify answer) := by
  refine respects_ite (respects_pure _) (respects_ite (respects_pure _) ?_)
  refine respects_ite (respects_pure _) (respects_ite (respects_pure _) ?_)
  exact respects_bind (inStep_logShowing _ _ _ _) fun _ =>
    respects_bind (respects_check _) fun _ => respects_pure _

theorem both_solve : Respects (Both first first') solve := by
  refine respects_bind both_requireStarted fun _ => respects_bind (respects_look id) fun a => ?_
  refine respects_bind (respects_gets fun s s' h => ?_) fun arrays => ?_
  · rw [h.second.same.highs]
  refine respects_bind (respects_ofExcept _) fun model => ?_
  refine respects_bind (respects_onSecond (inStep_milp _)) fun answer => ?_
  refine respects_bind (respects_check _) fun _ => ?_
  have classified : ∀ last, Respects (Both first first') (do
      Adapter.remember fun a : HighsAdapter => { a with answer := some last }
      classify last) :=
    fun last => respects_bind (respects_remember _) fun _ =>
      respects_onSecond (inStep_classify last)
  refine respects_ite (respects_bind (both_log _ _ _) fun _ => ?_) (classified answer)
  exact respects_bind (respects_onSecond (inStep_milp _)) classified

theorem both_lastAnswer (part : String) : Respects (Both first first') (lastAnswer part) := by
  refine respects_bind (respects_look _) fun answer => ?_
  cases answer with
  | some answer => exact respects_pure answer
  | none => exact respects_fail _

theorem steady : Adapter.Steady HighsAdapter first first' where
  version := respects_gets fun s s' h => by rw [h.second.same.highs]
  start := both_start
  give part := by
    refine respects_bind both_requireStarted fun _ => respects_bind (respects_look id) fun a => ?_
    exact respects_bind (respects_ofExcept _) fun _ => respects_remember _
  solve := respects_bind both_solve fun _ => respects_pure _
  values := respects_bind (both_lastAnswer _) fun _ => respects_ofExcept _
  objectiveValue := respects_bind (both_lastAnswer _) fun _ =>
    respects_bind (respects_ofExcept _) fun _ => respects_pure _
  close := respects_remember _

end HighsAdapter

namespace GurobiAdapter

theorem both_shared (part : String) : Respects (Both first first') (shared part) :=
  respects_bind (respects_look _) fun _ => respects_ofExcept _

theorem both_requireModel (part : String) : Respects (Both first first') (requireModel part) := by
  refine respects_bind (respects_look _) fun model => ?_
  cases model with
  | some m => exact respects_pure m
  | none => exact respects_fail _

theorem both_requireLibrary : Respects (Both first first') requireLibrary := by
  refine respects_bind (respects_look _) fun library => ?_
  cases library with
  | some library => exact respects_pure library
  | none => exact respects_fail _

theorem both_constant (name : String) : Respects (Both first first') (constant name) :=
  respects_bind both_requireLibrary fun _ => respects_check _

theorem both_createModel (env : Option Environment) :
    Respects (Both first first') (createModel env) := by
  refine respects_bind (both_call _) fun _ => ?_
  exact respects_bind (respects_gets fun s s' h => by rw [h.second.same.gurobi]) fun reading =>
    respects_remember _

theorem both_setOptional (name : String) (value : Option Scalar) :
    Respects (Both first first') (setOptional name value) := by
  cases value with
  | none => exact respects_pure ()
  | some value => exact both_call _

theorem both_apply (p : Parameters) : Respects (Both first first') (apply p) := by
  refine respects_bind (both_call _) fun _ => respects_bind (both_setOptional _ _) fun _ => ?_
  refine respects_bind (both_setOptional _ _) fun _ => ?_
  exact respects_bind (respects_forEach (fun _ => both_call _) _) fun _ => respects_pure _

theorem both_start (p : Given Parameters) : Respects (Both first first') (start p) := by
  refine respects_bind (respects_onSecond inStep_locate) fun library => ?_
  refine respects_bind (both_shared _) fun r => ?_
  refine respects_bind (respects_onSecond (SharedEnvironment.inStep_acquire r)) fun env => ?_
  refine respects_bind (respects_remember _) fun _ => ?_
  refine respects_bind (both_createModel env) fun _ => ?_
  exact respects_bind (respects_ofExcept _) fun p => both_apply p

theorem both_code (name : String) : Respects (Both first first') (code name) :=
  respects_bind (both_constant _) fun _ =>
    respects_bind both_requireLibrary fun _ => respects_pure _

theorem both_readInfinity : Respects (Both first first') readInfinity :=
  respects_bind (both_constant _) fun _ =>
    respects_bind both_requireLibrary fun _ => respects_pure _

theorem both_mapSide (side : Value) : Respects (Both first first') (mapSide side) := by
  refine respects_bind (respects_ofExcept _) fun s => ?_
  refine respects_bind (respects_ofExcept _) fun _ => ?_
  exact respects_ite (respects_bind both_readInfinity fun _ => respects_pure _) (respects_pure s)

theorem both_giveColumn (kind : VariableKind) (lower upper name : Value) :
    Respects (Both first first') (giveColumn kind lower upper name) := by
  refine respects_bind (both_constant _) fun _ => respects_bind (both_constant _) fun _ => ?_
  refine respects_bind (both_constant _) fun _ => ?_
  refine respects_bind (both_requireModel _) fun model => ?_
  refine respects_bind (both_mapSide _) fun lower => respects_bind (both_mapSide _) fun upper => ?_
  refine respects_bind (both_call _) fun _ => ?_
  exact respects_bind (respects_gets fun s s' h => by rw [h.second.same.gurobi]) fun reading =>
    respects_remember _

theorem both_terms (coefficients : Coefficients) :
    Respects (Both first first') (terms coefficients) := by
  refine respects_bind (respects_ofExcept _) fun lookups => ?_
  refine respects_bind both_requireLibrary fun _ => ?_
  refine respects_bind (respects_ofExcept _) fun values => ?_
  refine respects_bind (respects_look _) fun _ => ?_
  exact respects_bind (respects_ofExcept _) fun places => respects_pure _

theorem both_giveSide (expression : List (Nat × Value)) (sense : GurobiSense) (senseName : String)
    (side name : Value) :
    Respects (Both first first') (giveSide expression sense senseName side name) :=
  respects_bind (both_requireModel _) fun _ => respects_bind (both_constant _) fun _ => both_call _

theorem both_giveRow (coefficients : Coefficients) (lower upper name : Value) :
    Respects (Both first first') (giveRow coefficients lower upper name) := by
  refine respects_bind (both_terms _) fun expression => respects_ite (both_giveSide _ _ _ _ _) ?_
  refine respects_bind (respects_ofExcept _) fun lowerOpen => ?_
  refine respects_bind (respects_ofExcept _) fun upperOpen => ?_
  refine respects_ite (both_logShowing _ _ _ _) (respects_ite (both_giveSide _ _ _ _ _) ?_)
  refine respects_ite (both_giveSide _ _ _ _ _) ?_
  exact respects_bind (both_requireModel _) fun _ => both_call _

theorem both_give (part : Part) : Respects (Both first first') (give part) := by
  cases part with
  | column kind lower upper name => exact both_giveColumn kind lower upper name
  | row coefficients lower upper name => exact both_giveRow coefficients lower upper name
  | objective coefficients =>
      refine respects_bind (both_requireModel _) fun _ => respects_bind (both_terms _) fun _ => ?_
      exact respects_bind (both_constant _) fun _ => both_call _

theorem both_meaning (status : Value) (meanings : List (String × Status)) :
    Respects (Both first first') (meaning status meanings) := by
  induction meanings with
  | nil => exact respects_pure none
  | cons first rest ih =>
      exact respects_bind (both_code _) fun _ => respects_ite (respects_pure _) ih

theorem both_classify (count : Except Failure Value) (status : Value) :
    Respects (Both first first') (classify count status) := by
  refine respects_bind (both_meaning _ _) fun meant => ?_
  cases meant with
  | some meant => exact respects_pure meant
  | none =>
      refine respects_bind both_requireLibrary fun _ => respects_bind (respects_check _) fun _ => ?_
      refine respects_ite ?_ (respects_pure _)
      exact respects_bind (respects_ofExcept _) fun _ => respects_pure _

theorem both_runOnce : Respects (Both first first') runOnce :=
  respects_bind (respects_onSecond inStep_optimize) fun _ =>
    respects_bind (respects_remember _) fun _ => respects_pure _

theorem both_solve : Respects (Both first first') solve := by
  refine respects_bind (both_requireModel _) fun _ => respects_bind (both_call _) fun _ => ?_
  refine respects_bind both_runOnce fun status => respects_bind (both_code _) fun _ => ?_
  have classified (last : Value) : Respects (Both first first')
      (requireModel "SolCount" >>= fun model => classify model.reading.solutionCount last) :=
    respects_bind (both_requireModel _) fun model => both_classify _ last
  refine respects_ite ?_ (classified status)
  refine respects_bind (both_log _ _ _) fun _ => respects_bind (both_call _) fun _ => ?_
  exact respects_bind both_runOnce classified

theorem both_close : Respects (Both first first') close := by
  refine respects_bind (respects_look id) fun a => ?_
  have released : Respects (Both first first') (do
      Adapter.remember fun a : GurobiAdapter => { a with columns := [] }
      if a.acquired then
        Adapter.remember fun a => { a with acquired := false }
        let r ← shared "release"
        SharedEnvironment.release r) := by
    refine respects_bind (respects_remember _) fun _ => respects_ite ?_ (respects_pure ())
    refine respects_bind (respects_remember _) fun _ => respects_bind (both_shared _) fun r => ?_
    exact respects_onSecond (SharedEnvironment.inStep_release r)
  refine respects_ite ?_ released
  refine respects_bind (both_call _) fun _ => respects_bind (respects_remember _) fun _ => ?_
  exact released

theorem steady : Adapter.Steady GurobiAdapter first first' where
  version := by
    refine respects_bind (respects_look id) fun a => ?_
    cases a.model with
    | none => exact respects_pure _
    | some m =>
        refine respects_bind (respects_gets fun s s' h => ?_) fun _ =>
          respects_bind (respects_ofExcept _) fun _ => respects_pure _
        rw [h.second.same.gurobi]
  start := both_start
  give := both_give
  solve := respects_bind both_solve fun _ => respects_pure _
  values := by
    refine respects_bind (respects_look id) fun a => ?_
    cases a.model with
    | none => exact respects_pure _
    | some model => exact respects_bind (respects_ofExcept _) fun _ => respects_pure _
  objectiveValue := respects_bind (both_requireModel _) fun _ => respects_ofExcept _
  close := both_close

end GurobiAdapter

namespace Backend

theorem both_drive {α : Type} {x : {A : Type} → [Adapter A] → Action (A × Workspace) α}
    (scripted : Respects (Both first first') (x (A := ScriptedAdapter)))
    (orTools : Respects (Both first first') (x (A := OrToolsAdapter)))
    (highs : Respects (Both first first') (x (A := HighsAdapter)))
    (gurobi : Respects (Both first first') (x (A := GurobiAdapter))) :
    Respects (Both first first') (drive x) := by
  -- a comparison of two drives is one of the adapters that are driven
  have driven : ∀ {b : Backend} {y : Action (Backend × Workspace) α},
      Respects (Both first first') y → (∀ w, (drive x).run (b, w) = y.run (b, w)) → ∀ w,
      (Parted first first' w → Parted first first' ((drive x).run (b, w)).2.2) ∧
        ∀ s', (Both first first').Related (b, w) s' →
          Parted first first' ((drive x).run (b, w)).2.2 ∨
            ((drive x).run (b, w)).1 = ((drive x).run s').1 ∧
              (Both first first').Related ((drive x).run (b, w)).2 ((drive x).run s').2 := by
    intro b y hy same w
    rw [same]
    refine ⟨(hy (b, w)).1, ?_⟩
    rintro ⟨b', w'⟩ h
    obtain rfl : b = b' := h.first
    rw [same]
    exact (hy (b, w)).2 _ h
  rintro ⟨b, w⟩
  cases b with
  | scripted a => exact driven (respects_inside scripted .scripted a) (fun _ => rfl) w
  | orTools a => exact driven (respects_inside orTools .orTools a) (fun _ => rfl) w
  | highs a => exact driven (respects_inside highs .highs a) (fun _ => rfl) w
  | gurobi a => exact driven (respects_inside gurobi .gurobi a) (fun _ => rfl) w

theorem steady : Adapter.Steady Backend first first' where
  version := both_drive ScriptedAdapter.steady.version OrToolsAdapter.steady.version
    HighsAdapter.steady.version GurobiAdapter.steady.version
  start p := both_drive (ScriptedAdapter.steady.start p) (OrToolsAdapter.steady.start p)
    (HighsAdapter.steady.start p) (GurobiAdapter.steady.start p)
  give part := both_drive (ScriptedAdapter.steady.give part) (OrToolsAdapter.steady.give part)
    (HighsAdapter.steady.give part) (GurobiAdapter.steady.give part)
  solve := both_drive ScriptedAdapter.steady.solve OrToolsAdapter.steady.solve
    HighsAdapter.steady.solve GurobiAdapter.steady.solve
  values := both_drive ScriptedAdapter.steady.values OrToolsAdapter.steady.values
    HighsAdapter.steady.values GurobiAdapter.steady.values
  objectiveValue := both_drive ScriptedAdapter.steady.objectiveValue
    OrToolsAdapter.steady.objectiveValue HighsAdapter.steady.objectiveValue
    GurobiAdapter.steady.objectiveValue
  close := both_drive ScriptedAdapter.steady.close OrToolsAdapter.steady.close
    HighsAdapter.steady.close GurobiAdapter.steady.close

end Backend

theorem Factory.inStep_make (factory : Factory) : Respects (InStep first first') factory.make := by
  cases factory with
  | scripted script =>
      exact respects_bind (ScriptedAdapter.inStep_make script) fun _ => respects_pure _
  | orTools | highs | gurobi => exact respects_pure _

end LinearDispatch
