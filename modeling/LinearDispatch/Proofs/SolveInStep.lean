import LinearDispatch.Proofs.Consistency
import LinearDispatch.Proofs.InStep

/-!
# Two solves in step

Every adapter goes in step, so a drive does, and so do the stages before it, which read the program
and the registry once. What is compared here is a whole solve together with the ledger of the calls
on its adapter: from workspaces with the same models, registry, environments and native libraries
two solves do the same, unless a native call fails in the one and not in the other.
-/

namespace LinearDispatch

open LinearDispatch.Action Workspace

variable {first first' : Workspace}

/-! ## Watched adapters -/

namespace Watched

variable {A : Type}

theorem both_enter {α : Type} {call : Action (A × Workspace) α}
    (h : Respects (Both first first') call) (entry : Except Failure α → Entry) :
    Respects (Both first first') (enter entry call) := by
  rintro ⟨⟨a, l⟩, w⟩
  refine ⟨(h (a, w)).1, ?_⟩
  rintro ⟨⟨a', l'⟩, w'⟩ ⟨same, related⟩
  cases same
  refine ((h (a, w)).2 (a, w') ⟨rfl, related⟩).imp_right fun ⟨answer, left⟩ => ?_
  refine ⟨answer, ?_, left.second⟩
  show Watched.mk _ (l ++ [entry (call.run (a, w)).1]) =
    Watched.mk _ (l ++ [entry (call.run (a, w')).1])
  rw [answer]
  exact congrArg (Watched.mk · _) left.first

theorem steady [Adapter A] (h : Adapter.Steady A first first') :
    Adapter.Steady (Watched A) first first' where
  version := both_enter h.version _
  start p := both_enter (h.start p) _
  give part := both_enter (h.give part) _
  solve := both_enter h.solve _
  values := both_enter h.values _
  objectiveValue := both_enter h.objectiveValue _
  close := both_enter h.close _

theorem both_make {create : Action Workspace A} (h : Respects (InStep first first') create) :
    Respects (Both first first') (make create) := by
  rintro ⟨l, w⟩
  rw [make_run]
  refine ⟨(h w).1, ?_⟩
  rintro ⟨l', w'⟩ ⟨same, related⟩
  cases same
  refine ((h w).2 w' related).imp_right fun ⟨answer, left⟩ => ?_
  rw [make_run]
  dsimp only
  rw [answer]
  exact ⟨rfl, rfl, left⟩

end Watched

/-! ## Driving an adapter -/

namespace Dispatch

theorem giveUp_inStep (status : Status) (backend : Value) (diagnostics : List Diagnostic) :
    Respects (InStep first first') (giveUp status backend diagnostics) :=
  respects_bind (inStep_logShowing _ _ _ _) fun _ => respects_pure _

theorem giveUpAfter_inStep (e : Failure) (backend : Value) :
    Respects (InStep first first') (giveUpAfter e backend) :=
  respects_ite (giveUp_inStep _ _ _)
    (respects_bind (inStep_logShowing _ _ _ _) fun _ => giveUp_inStep _ _ _)

theorem conclude_inStep (outcome : Outcome) (backend : Value) :
    Respects (InStep first first') (conclude outcome backend) := by
  refine respects_ite ?_ (respects_bind (respects_check _) fun _ => giveUp_inStep _ _ _)
  cases outcome.solution.status.word with
  | ok word => exact respects_bind (inStep_logShowing _ _ _ _) fun _ => respects_pure _
  | error e => exact respects_pure _

section

variable {A : Type} [Adapter A]

theorem handOver_both (h : Adapter.Steady A first first') (parts : List Part) :
    Respects (Both (A := A) first first') (handOver parts) := by
  induction parts with
  | nil => exact respects_pure ()
  | cons part rest ih => exact respects_bind (h.give part) fun _ => ih

theorem run_both (h : Adapter.Steady A first first') (problem : Problem)
    (parameters : Given Parameters) (backend : Value) :
    Respects (Both (A := A) first first') (run problem parameters backend) := by
  refine respects_bind (h.start parameters) fun _ => respects_bind h.version fun version => ?_
  refine respects_bind (both_logShowing _ _ _ _) fun _ => ?_
  refine respects_bind (handOver_both h _) fun _ => ?_
  refine respects_bind h.solve fun answer => respects_bind (respects_ofExcept _) fun status => ?_
  refine respects_ite (respects_pure _) (respects_bind h.values fun raw => ?_)
  refine respects_bind (respects_ofExcept _) fun values => respects_ite (respects_pure _) ?_
  refine respects_bind h.objectiveValue fun raw => ?_
  exact respects_bind (respects_ofExcept _) fun objective => respects_pure _

theorem closeQuietly_both (h : Adapter.Steady A first first') (backend : Value) :
    Respects (Both (A := A) first first') (closeQuietly backend) := by
  refine respects_bind (respects_attempt h.close) fun closed => ?_
  cases closed with
  | ok => exact respects_pure ()
  | error e => exact both_logShowing _ _ _ _

theorem attempt_both (h : Adapter.Steady A first first') (problem : Problem)
    (parameters : Given Parameters) (backend : Value) :
    Respects (Both (A := A) first first') (attempt problem parameters backend) := by
  refine respects_bind (respects_attempt (run_both h problem parameters backend)) fun ended => ?_
  cases ended with
  | error e =>
      refine respects_bind (respects_onSecond (giveUpAfter_inStep e backend)) fun outcome => ?_
      exact respects_bind (closeQuietly_both h backend) fun _ => respects_pure _
  | ok outcome =>
      refine respects_bind (closeQuietly_both h backend) fun _ => ?_
      exact respects_onSecond (conclude_inStep outcome backend)

/-! ## A whole solve, with its ledger -/

theorem driveWatched_both (h : Adapter.Steady A first first') (parameters : Given Parameters)
    (backend : Value) (problem : Problem) (adapter : A) :
    Respects (Both first first') (Watched.drive parameters backend problem adapter) := by
  rintro ⟨l, w⟩
  have both := attempt_both (Watched.steady h) problem parameters backend (⟨adapter, l⟩, w)
  refine ⟨both.1, ?_⟩
  rintro ⟨l', w'⟩ ⟨same, related⟩
  cases same
  refine (both.2 (⟨adapter, l⟩, w') ⟨rfl, related⟩).imp_right fun ⟨answer, left⟩ => ?_
  exact ⟨answer, congrArg Watched.ledger left.first, left.second⟩

theorem prepare_both {create : Action (List Entry × Workspace) A}
    (h : Respects (Both first first') create) (problem : Problem) (backend : Value) :
    Respects (Both first first') (prepare create problem backend) := by
  refine respects_bind (respects_ofExcept _) fun defects => ?_
  cases defects with
  | cons defect rest =>
      exact respects_bind (respects_onSecond (giveUp_inStep _ _ _)) fun _ => respects_pure _
  | nil =>
      refine respects_bind (respects_attempt h) fun created => ?_
      cases created with
      | error e =>
          refine respects_ite ?_ (respects_fail e)
          exact respects_bind (respects_onSecond (giveUpAfter_inStep e backend)) fun _ =>
            respects_pure _
      | ok adapter =>
          refine respects_bind (respects_ofExcept _) fun refused =>
            respects_ite ?_ (respects_pure _)
          exact respects_bind (respects_onSecond (giveUp_inStep _ _ _)) fun _ => respects_pure _

end

theorem createWatched_both (registry : first.registry = first'.registry) (backend : Value) :
    Respects (Both first first') ((Watched.catalog Registry.catalog).create backend) := by
  rintro ⟨l, w⟩
  rw [Watched.create_run]
  have found : ∀ {w'}, Abreast first first' w w' →
      Registry.catalog.lookup backend w' = Registry.catalog.lookup backend w := by
    intro w' related
    unfold Catalog.lookup Registry.catalog Registry.catalogBy
    rw [related.registry.1, related.registry.2, registry]
  cases made : Registry.catalog.lookup backend w with
  | error e =>
      refine ⟨id, ?_⟩
      rintro ⟨l', w'⟩ ⟨same, related⟩
      cases same
      rw [Watched.create_run, found related, made]
      exact .inr ⟨rfl, rfl, related⟩
  | ok maker =>
    cases maker with
    | none =>
      refine ⟨id, ?_⟩
      rintro ⟨l', w'⟩ ⟨same, related⟩
      cases same
      rw [Watched.create_run, found related, made]
      exact .inr ⟨rfl, rfl, related⟩
    | some create =>
      obtain ⟨factory, -, rfl⟩ :=
        Option.map_eq_some_iff.1 (Value.whenWritable_eq_ok.1 made).2
      have both : Respects (Both first first') (Watched.make factory.make) :=
        Watched.both_make factory.inStep_make
      refine ⟨(both (l, w)).1, ?_⟩
      rintro ⟨l', w'⟩ ⟨same, related⟩
      cases same
      rw [Watched.create_run, found related, made]
      exact (both (l, w)).2 (l, w') ⟨rfl, related⟩

/-- A solve reads the program and the registry, and goes in step from there. -/
theorem solveWatched_both (models : first.models = first'.models)
    (registry : first.registry = first'.registry) (program : Given (Ref Program)) (backend : Value)
    (parameters : Given Parameters) :
    Respects (Both first first') (solveWatched Registry.catalog program backend parameters) := by
  cases program with
  | other f => exact respects_onSecond (giveUp_inStep _ _ _)
  | proper p =>
      refine respects_bind (respects_onSecond (respects_gets fun w w' h => ?_)) fun problem => ?_
      · rw [h.models.1, h.models.2, models]
      · refine respects_bind (prepare_both (createWatched_both registry backend) problem backend) ?_
        intro prepared
        cases prepared with
        | inl outcome => exact respects_pure outcome
        | inr adapter => exact driveWatched_both Backend.steady parameters backend problem adapter

/-- Two solves of one program from workspaces that match: if no call fails in the one and not in the
other, the same outcome and ledger, and runs in step. -/
theorem solve_inStep {w w' : Workspace} (models : w.models = w'.models)
    (registry : w.registry = w'.registry) (same : w.Matches w') (program : Given (Ref Program))
    (backend : Value) (parameters : Given Parameters) :
    Parted w w' ((solve Registry.catalog program backend parameters).run w).2 ∨
      ((solve Registry.catalog program backend parameters).run w).1 =
          ((solve Registry.catalog program backend parameters).run w').1 ∧
        Abreast w w' ((solve Registry.catalog program backend parameters).run w).2
          ((solve Registry.catalog program backend parameters).run w').2 ∧
        ((solveWatched Registry.catalog program backend parameters).run ([], w)).2.1 =
          ((solveWatched Registry.catalog program backend parameters).run ([], w')).2.1 := by
  have both := solveWatched_both models registry program backend parameters
  have follows := fun w => solveWatched_follows Registry.catalog program backend parameters ([], w)
  rw [← show _ = (solve Registry.catalog program backend parameters).run w from follows w,
    ← show _ = (solve Registry.catalog program backend parameters).run w' from follows w']
  exact ((both ([], w)).2 ([], w') ⟨rfl, .refl same⟩).imp_right fun ⟨outcome, left⟩ =>
    ⟨outcome, left.second, left.first⟩

end Dispatch

end LinearDispatch
