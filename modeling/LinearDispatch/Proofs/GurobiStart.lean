import LinearDispatch.Proofs.NativeCalls
import LinearDispatch.Proofs.Returns

/-!
# A Gurobi adapter is started

Starting an adapter takes an environment from its handle, creates a model in it and sets
parameters. The environment may be there already; if it is not, the handle makes one, by starting
Gurobi or as its owner has it. With native calls that do not fail, the start returns if the module
is there, the handle is one and gives an environment, and the parameters are parameters:
`start_run`.

Whatever is called before the model is created, the model starts out without columns, and what is
called to set parameters only prepares it: `Fresh`.
-/

namespace LinearDispatch

open LinearDispatch.Action Workspace

/-! ## Environments -/

/-- The call is one of those by which Gurobi is started. -/
def NativeCall.startsGurobi : NativeCall → Bool
  | .gurobi (.createEnvironment _) | .gurobi (.setEnvironmentParameter ..)
  | .gurobi .startEnvironment => true
  | _ => false

theorem NativeCall.prepares_of_startsGurobi {c : NativeCall} (h : c.startsGurobi = true) :
    c.prepares = true := by
  cases c with
  | highs m | orTools c => cases h
  | gurobi c => cases c <;> first | rfl | cases h

namespace SharedEnvironment

/-- What making an environment keeps of Gurobi: only how many there are may change. -/
structure Prepared (w w' : Workspace) : Prop where
  calls : w.Extends (·.prepares = true) w'
  service : w'.gurobi = { w.gurobi with created := w'.gurobi.created }

theorem Prepared.refl (w : Workspace) : Prepared w w :=
  ⟨.refl _ w, rfl⟩

theorem Prepared.trans {w w' w'' : Workspace} (h : Prepared w w') (h' : Prepared w' w'') :
    Prepared w w'' := by
  refine ⟨h.calls.trans h'.calls, h'.service.trans ?_⟩
  rw [h.service]

theorem Prepared.present {w w' : Workspace} (h : Prepared w w') :
    w'.gurobi.present = w.gurobi.present := by
  rw [h.service]

/-- Gurobi is present and its calls do not fail. -/
def undisturbed : Frame Workspace where
  Here w := Quiet .gurobi w ∧ w.gurobi.present = true
  Same := Prepared
  refl := .refl
  trans := Prepared.trans
  stays h here := ⟨here.1.of_extends h.calls, h.present.trans here.2⟩

theorem returns_call {c : GurobiCall} (prepares : (NativeCall.gurobi c).prepares = true) :
    Returns undisturbed True (call (.gurobi c)) := by
  rintro w ⟨quiet, -⟩
  have extends_ := makes_call (P := (·.prepares = true)) prepares w
  have ran : (call (.gurobi c)).run w = (.ok (), w.afterCall (.gurobi c)) := by
    rw [run_call, quiet]
  rw [ran] at extends_
  exact returnsFrom_of_run ran ⟨extends_, rfl⟩

theorem returns_record {e : Event} (h : e.native? = none) :
    Returns undisturbed True (record e) :=
  fun w _ => ⟨iff_of_true rfl trivial, makes_record h w, rfl⟩

theorem returns_change (r : Ref SharedEnvironment) (f : SharedEnvironment → SharedEnvironment) :
    Returns undisturbed True (change r f) :=
  returns_modify fun _ => ⟨.of_eq rfl rfl rfl, rfl⟩

theorem returns_locate : Returns undisturbed True GurobiService.locate := by
  rintro w ⟨-, present⟩
  have found := locate_run w
  rw [if_pos present] at found
  exact returnsFrom_of_run found (undisturbed.refl w)

theorem returns_startGurobi : Returns undisturbed True startGurobi := by
  refine returns_then returns_locate fun _ => returns_attempt ?_ fun env => returns_pure _
  refine returns_then ?_ fun env => returns_then (returns_call rfl) fun _ =>
    returns_then (returns_call rfl) fun _ => returns_pure _
  refine returns_then (returns_modify fun _ => ⟨.of_eq rfl rfl rfl, rfl⟩) fun _ => ?_
  exact returns_then (returns_gets _) fun _ => returns_then (returns_call rfl) fun _ =>
    returns_pure _

/-- The source of a handle gives an environment when it is asked the next time. -/
def CanMake (h : SharedEnvironment) : Prop :=
  match h.source with
  | .gurobi => True
  | .script make _ => (make h.made).isOk = true

theorem returnsFrom_make (r : Ref SharedEnvironment) {w : Workspace} (here : undisturbed.Here w) :
    ReturnsFrom undisturbed w (w.environments.get r).CanMake (make r) := by
  have looked : (look r id).run w = (.ok (w.environments.get r), w) := rfl
  refine returnsFrom_bind_of_run looked (undisturbed.refl w) ?_
  unfold CanMake
  cases (w.environments.get r).source with
  | gurobi => exact returns_then returns_startGurobi (fun _ => returns_pure _) w here
  | script make dispose =>
      refine returns_then (returns_record rfl) (fun _ => ?_) w here
      exact returns_then (returns_change r _) fun _ => returns_ofExcept _

/-- Acquiring a handle works if it has an environment or can make one. -/
theorem returnsFrom_acquire (r : Ref SharedEnvironment) {w : Workspace}
    (here : undisturbed.Here w) :
    ReturnsFrom undisturbed w
      ((w.environments.get r).isOpen = true ∨ (w.environments.get r).CanMake) (acquire r) := by
  have looked : (look r id).run w = (.ok (w.environments.get r), w) := rfl
  have held : Returns undisturbed True (do
      change r fun h => { h with holders := h.holders + 1 }
      look r (·.environment)) :=
    returns_then (returns_change r _) fun _ => returns_gets _
  refine returnsFrom_bind_of_run looked (undisturbed.refl w) ?_
  unfold isOpen
  dsimp only
  cases (w.environments.get r).environment with
  | some env => exact returns_congr (by simp) held w here
  | none =>
      obtain ⟨w', logged, noted⟩ := logShowing_run [(w.environments.get r).name] .environment
        .debug ("Starting " ++ (w.environments.get r).name.shown ++ " environment") w
      have same : undisturbed.Same w w' := ⟨noted.extends_ _, by rw [noted.gurobi_eq]⟩
      have there := undisturbed.stays same here
      have made := returnsFrom_bind there (returnsFrom_make r there) fun env =>
        returns_then (returns_change r fun h => { h with environment := env }) fun _ => held
      rw [noted.environments_eq] at made
      exact returnsFrom_bind_of_run logged same (returnsFrom_congr (by simp) made)

theorem locate_makes {P : NativeCall → Prop} : Makes id P GurobiService.locate :=
  makes_bind (makes_gets _) fun _ => makes_bind (makes_check _) fun _ => makes_pure _

/-- Acquiring an environment may start Gurobi, and calls nothing else, whether that works or not. -/
theorem acquire_makes (r : Ref SharedEnvironment) :
    Makes id (·.startsGurobi = true) (acquire r) := by
  have changes : ∀ f, Makes id (·.startsGurobi = true) (change r f) :=
    fun f => makes_modify fun _ => .of_eq rfl rfl rfl
  have starts : Makes id (·.startsGurobi = true) startGurobi := by
    refine makes_bind locate_makes fun _ => makes_bind (makes_attempt ?_) fun started => ?_
    · refine makes_bind ?_ fun env => makes_bind (makes_call rfl) fun _ =>
        makes_bind (makes_call rfl) fun _ => makes_pure _
      exact makes_bind (makes_modify fun _ => .of_eq rfl rfl rfl) fun _ =>
        makes_bind (makes_gets _) fun _ => makes_bind (makes_call rfl) fun _ => makes_pure _
    · cases started with
      | ok env => exact makes_pure _
      | error e => exact makes_ite (makes_fail _) (makes_fail _)
  have makes : Makes id (·.startsGurobi = true) (make r) := by
    refine makes_bind (makes_gets _) fun h => ?_
    cases h.source with
    | gurobi => exact makes_bind starts fun _ => makes_pure _
    | script make dispose =>
        exact makes_bind (makes_record rfl) fun _ => makes_bind (changes _) fun _ =>
          makes_ofExcept _
  have held : Makes id (·.startsGurobi = true) (do
      change r fun h => { h with holders := h.holders + 1 }
      look r (·.environment)) :=
    makes_bind (changes _) fun _ => makes_gets _
  refine makes_bind (makes_gets _) fun h => makes_ite ?_ held
  refine makes_bind (makes_logShowing _ _ _ _) fun _ => makes_bind makes fun env => ?_
  exact makes_bind (changes _) fun _ => held

end SharedEnvironment

namespace GurobiAdapter

/-! ## The settings -/

/-- Setting parameters leaves the adapter as it is, and the model. -/
def settings : Frame (GurobiAdapter × Workspace) where
  Here s := Quiet .gurobi s.2
  Same s s' := s'.1 = s.1 ∧ SharedEnvironment.Prepared s.2 s'.2
  refl s := ⟨rfl, .refl s.2⟩
  trans h h' := ⟨h'.1.trans h.1, h.2.trans h'.2⟩
  stays h quiet := quiet.of_extends h.2.calls

theorem returns_setParameter (name : Key) (value : Value) :
    Returns settings True (setParameter name value) := by
  rintro ⟨a, w⟩ quiet
  have extends_ := @makes_call (·.prepares = true) (.gurobi (.setParameter name value)) rfl w
  rw [run_call] at extends_
  exact returnsFrom_of_run (quiet.run_call _ a) ⟨rfl, extends_, rfl⟩

theorem returns_apply (p : Parameters) : Returns settings True (apply p) := by
  have optional : ∀ name value, Returns settings True (setOptional name value) := by
    intro name value
    cases value with
    | none => exact returns_pure ()
    | some s => exact returns_setParameter _ _
  unfold apply
  refine returns_then (returns_setParameter _ _) fun _ => ?_
  refine returns_then (optional _ _) fun _ => returns_then (optional _ _) fun _ => ?_
  exact returns_then (returns_forEach (fun _ => returns_setParameter _ _) _) fun _ => returns_pure _

/-! ## The start -/

/-- An adapter with this handle can be started with these parameters. -/
def CanStart (environment : Given (Ref SharedEnvironment)) (w : Workspace)
    (p : Given Parameters) : Prop :=
  w.gurobi.present = true ∧
    (∃ r, environment = .proper r ∧
      ((w.environments.get r).isOpen = true ∨ (w.environments.get r).CanMake)) ∧
    ∃ q, p = .proper q

/-- An adapter that is started, from a workspace, knows the module and has a model without columns.
A model was created in the meantime, once; everything else was to prepare it. -/
structure Fresh (w : Workspace) (s : GurobiAdapter × Workspace) : Prop where
  library : s.1.library = some w.gurobi.library
  model : s.1.model = some ⟨0, w.gurobi.reading⟩
  columns : s.1.columns = []
  quiet : Quiet .gurobi s.2
  service : s.2.gurobi = { w.gurobi with created := s.2.gurobi.created }
  calls : ∃ opening env settings,
    s.2.calls = w.calls ++ (opening ++ .gurobi (.createModel env) :: settings) ∧
      (∀ c ∈ opening, c.prepares = true) ∧ ∀ c ∈ settings, c.prepares = true

theorem Fresh.version {w : Workspace} {s : GurobiAdapter × Workspace} (h : Fresh w s) :
    s.2.gurobi.version = w.gurobi.version :=
  congrArg (·.version) h.service

theorem Fresh.tells {w : Workspace} {s : GurobiAdapter × Workspace} (h : Fresh w s) :
    ∃ env, w.Tells [.gurobi (.createModel env)] 0 s.2 := by
  obtain ⟨opening, env, settings, calls, prepare, prepare'⟩ := h.calls
  obtain ⟨made, solved⟩ := NativeCall.filter_of_nothing (NativeCall.nothing_of_prepares prepare)
  obtain ⟨made', solved'⟩ := NativeCall.filter_of_nothing (NativeCall.nothing_of_prepares prepare')
  refine ⟨env, _, calls, ?_, ?_⟩
  · rw [List.filter_append, made, List.filter_cons_of_pos rfl, made']
    rfl
  · rw [List.countP_append, solved, List.countP_cons_of_neg Bool.false_ne_true, solved']

theorem createModel_run {w : Workspace} (quiet : Quiet .gurobi w) (env : Option Environment)
    (a : GurobiAdapter) :
    (createModel env).run (a, w) =
      (.ok (), { a with
        model := some ⟨0, w.gurobi.reading⟩, columns := [] },
        w.afterCall (.gurobi (.createModel env))) := by
  unfold createModel
  rw [run_bind, quiet.run_call]
  rfl

/-- Whatever was called before, a new model has no columns, and it is so after the settings. -/
theorem Fresh.of_settings {w w₁ : Workspace} {env : Option Environment}
    {environment : Given (Ref SharedEnvironment)} {s : GurobiAdapter × Workspace}
    (before : SharedEnvironment.Prepared w w₁) (quiet : Quiet .gurobi w₁)
    (set : settings.Same (⟨environment, true, some w.gurobi.library,
      some ⟨0, w₁.gurobi.reading⟩, []⟩,
      w₁.afterCall (.gurobi (.createModel env))) s) : Fresh w s := by
  obtain ⟨adapter, after⟩ := set
  obtain ⟨opening, made, prepare⟩ := before.calls.calls
  obtain ⟨more, called, prepare'⟩ := after.calls.calls
  have service : s.2.gurobi = { w₁.gurobi with created := s.2.gurobi.created } := after.service
  have model : s.1.model = some ⟨0, w₁.gurobi.reading⟩ := by
    rw [adapter]
  rw [before.service] at service model
  refine ⟨?_, model, ?_, quiet.of_faults after.calls.faults, service, opening, env, more, ?_,
    prepare, prepare'⟩
  · rw [adapter]
  · rw [adapter]
  · rw [called, Workspace.calls_afterCall, made, List.append_assoc, List.append_assoc]
    rfl

/-- Nothing is solved while an adapter is started, whether that works or not. -/
theorem start_makes (p : Given Parameters) :
    Makes Prod.snd (fun c => c.solves = false) (Adapter.start (A := GurobiAdapter) p) := by
  have sets : ∀ name value, Makes Prod.snd (fun c => c.solves = false) (setParameter name value) :=
    fun _ _ => makes_onSecond (makes_call rfl)
  have optional : ∀ name value,
      Makes Prod.snd (fun c => c.solves = false) (setOptional name value) := by
    intro name value
    cases value with
    | none => exact makes_pure ()
    | some s => exact sets _ _
  show Makes Prod.snd (fun c => c.solves = false) (start p)
  refine makes_bind (makes_onSecond SharedEnvironment.locate_makes) fun library => ?_
  refine makes_bind (makes_bind (makes_look _) fun _ => makes_ofExcept _) fun r => ?_
  refine makes_bind (makes_onSecond ((SharedEnvironment.acquire_makes r).mono fun c starts =>
    NativeCall.solves_of_prepares (NativeCall.prepares_of_startsGurobi starts))) fun env => ?_
  refine makes_bind (makes_remember _) fun _ => makes_bind ?_ fun _ => ?_
  · exact makes_bind (makes_onSecond (makes_call rfl)) fun _ => makes_bind (makes_gets _) fun _ =>
      makes_remember _
  refine makes_bind (makes_ofExcept _) fun p => makes_bind (sets _ _) fun _ => ?_
  refine makes_bind (optional _ _) fun _ => makes_bind (optional _ _) fun _ => ?_
  exact makes_bind (makes_forEach (fun _ => sets _ _) _) fun _ => makes_pure _

/-- With calls that do not fail, an adapter can be started or it fails; there is no other way.
Starting it again is no different from starting it for the first time. -/
theorem start_spec (a : GurobiAdapter) (p : Given Parameters) {w : Workspace}
    (quiet : Quiet .gurobi w) :
    (((Adapter.start p).run (a, w)).1.isOk = true ↔ CanStart a.environment w p) ∧
      ∀ s, (Adapter.start p).run (a, w) = (.ok (), s) → Fresh w s := by
  obtain ⟨environment, acquired, library, model, columns⟩ := a
  show (((start p).run (⟨environment, acquired, library, model, columns⟩, w)).1.isOk = true ↔ _) ∧
    ∀ s, (start p).run _ = _ → _
  unfold start CanStart
  rw [run_bind, run_liftM, locate_run]
  cases present : w.gurobi.present with
  | false => exact ⟨iff_of_false Bool.false_ne_true (by simp), fun s h => nomatch h⟩
  | true =>
      cases environment with
      | other f => exact ⟨iff_of_false Bool.false_ne_true (by simp), fun s h => nomatch h⟩
      | proper r =>
          obtain ⟨acquires, prepared⟩ :=
            SharedEnvironment.returnsFrom_acquire r ⟨quiet, present⟩
          rw [if_pos rfl]
          dsimp only
          rw [run_bind, show (shared "acquire").run
            ((⟨.proper r, acquired, library, model, columns⟩ : GurobiAdapter), w) =
              (.ok r, ⟨.proper r, acquired, library, model, columns⟩, w) from rfl]
          dsimp only
          rw [run_bind, run_liftM]
          cases taken : (SharedEnvironment.acquire r).run w with
          | mk result w₁ =>
              rw [taken] at acquires prepared
              cases result with
              | error e =>
                  have refused : ¬((w.environments.get r).isOpen = true ∨
                      (w.environments.get r).CanMake) := fun can => nomatch acquires.2 can
                  refine ⟨iff_of_false Bool.false_ne_true ?_, fun s h => nomatch h⟩
                  rintro ⟨-, ⟨r', same, can⟩, -⟩
                  cases same
                  exact refused can
              | ok env =>
                  have can := acquires.1 rfl
                  have quiet₁ : Quiet .gurobi w₁ := quiet.of_extends prepared.calls
                  dsimp only
                  rw [run_bind, show (Adapter.remember fun a : GurobiAdapter => { a with
                    acquired := true, library := some w.gurobi.library }).run
                      (⟨.proper r, acquired, library, model, columns⟩, w₁) =
                    (.ok (), ⟨.proper r, true, some w.gurobi.library, model, columns⟩, w₁)
                      from rfl]
                  dsimp only
                  rw [run_bind, createModel_run quiet₁]
                  cases p with
                  | other f =>
                      exact ⟨iff_of_false Bool.false_ne_true (by simp), fun s h => nomatch h⟩
                  | proper q =>
                      obtain ⟨returns, set⟩ := returns_apply q (⟨.proper r, true,
                        some w.gurobi.library,
                        some ⟨0, w₁.gurobi.reading⟩, []⟩,
                        w₁.afterCall (.gurobi (.createModel env))) quiet₁
                      refine ⟨iff_of_true (returns.2 trivial) ⟨rfl, ⟨r, rfl, can⟩, q, rfl⟩,
                        fun s ran => ?_⟩
                      rw [show (apply q).run (⟨.proper r, true, some w.gurobi.library,
                        some ⟨0, w₁.gurobi.reading⟩, []⟩,
                        w₁.afterCall (.gurobi (.createModel env))) = (.ok (), s) from ran] at set
                      exact .of_settings prepared quiet₁ set

/-- A new adapter can be started if the module is there, the handle has or makes an environment and
the parameters are parameters. -/
theorem start_run (environment : Given (Ref SharedEnvironment)) (p : Given Parameters)
    {w : Workspace} (quiet : Quiet .gurobi w) :
    (((Adapter.start p).run (make environment, w)).1.isOk = true ↔
        CanStart (environment.orElse (.proper gurobiEnvironment)) w p) ∧
      ∀ s, (Adapter.start p).run (make environment, w) = (.ok (), s) → Fresh w s :=
  start_spec (make environment) p quiet

end GurobiAdapter

end LinearDispatch
