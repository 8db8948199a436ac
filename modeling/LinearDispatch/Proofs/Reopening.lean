import LinearDispatch.Proofs.GurobiEnvironment
import LinearDispatch.Proofs.HistoryIndependence
import LinearDispatch.Proofs.OptionText

/-!
# Adapters that are started again

An adapter that was used and closed still has fields with something in them: closing clears some,
starting replaces others, and a field that neither of them touched would carry a column, an option
or an answer of an old model into the next one. Two adapters are `Twins` if nobody can tell them
apart: they are the same, or both are idle and have what they were made with in common. A closed
adapter is a twin of a new one, and each request keeps twins; when a start returns, nothing is left
of the difference.

What is left while a start fails is the text of old options, which an adapter without a solver does
not look at, and the module of Gurobi, which it does look at when it is handed a part. So that one
request is left out after a failed start of Gurobi, and it is the only one.
-/

namespace LinearDispatch

open LinearDispatch.Action Workspace

namespace Adapter

variable {A K : Type}

/-- Two adapters that were made with the same `key`, and that are the same or both idle. -/
inductive Twins (key : A → K) (Idle : A → Prop) : A → A → Prop
  | same (a : A) : Twins key Idle a a
  | idle {a a' : A} (made : key a = key a') (left : Idle a) (right : Idle a') :
      Twins key Idle a a'

variable [Adapter A]

/-- What there is to show of a kind of adapters. `late` are the requests that idle adapters answer
from what they were made with. -/
structure Resets (key : A → K) (Idle : A → Prop) (late : Request → Prop) : Prop where
  lasts : Lasts key
  idles : ∀ {a b : A} {w w' : Workspace}, Adapter.close.run (a, w) = (.ok (), b, w') → Idle b
  /-- a start either fails and changes neither of them, or makes them the same -/
  start : ∀ {a a' : A}, key a = key a' → Idle a → Idle a' →
    ∀ (p : Given Parameters) (w : Workspace),
    ∃ r t t' w', (Adapter.start p).run (a, w) = (r, t, w') ∧
      (Adapter.start p).run (a', w) = (r, t', w') ∧ (t = t' ∨ r ≠ .ok () ∧ t = a ∧ t' = a')
  rests : ∀ {a a' : A}, key a = key a' → Idle a → Idle a' → ∀ q, (∀ p, q ≠ .start p) → late q →
    ∀ w : Workspace, ∃ entry, q.ask.run (a, w) = (.ok entry, a, w) ∧
      q.ask.run (a', w) = (.ok entry, a', w)

end Adapter

namespace OrToolsAdapter

/-- There is no solver. The option text may be that of an old one. -/
structure Idle (a : OrToolsAdapter) : Prop where
  solver : a.solver = none
  columns : a.columns = []

theorem keeping_passOptions (id : String) (options : Mapping) :
    Within (Adapter.Keeping solverId) (passOptions id options) := by
  refine within_ite (within_bind (within_check _) fun _ =>
    within_bind (Adapter.keeping_remember fun _ => rfl) fun _ => ?_) (within_pure _)
  refine within_bind (Adapter.keeping_onSecond _) fun accepted => ?_
  exact within_ite (Adapter.keeping_onSecond _) (within_pure _)

theorem keeping_start (p : Given Parameters) :
    Within (Adapter.Keeping solverId) (start p) := by
  have still {α : Type} {x : Action (OrToolsAdapter × Workspace) α} (h : Within Still x) :
      Within (Adapter.Keeping solverId) x :=
    h.mono fun s t same => show t.1.solverId = s.1.solverId from congrArg solverId same.1
  refine within_bind (Adapter.keeping_look _) fun _ =>
    within_bind (Adapter.keeping_onSecond _) fun _ => within_bind (within_check _) fun _ => ?_
  refine within_bind (Adapter.keeping_remember fun _ => rfl) fun _ =>
    within_bind (within_ofExcept _) fun p => ?_
  refine within_bind (Adapter.keeping_look _) fun id => ?_
  exact within_bind (Adapter.keeping_onSecond _) fun _ =>
    within_bind (still (limitTime_still _)) fun _ =>
    within_bind (still (limitThreads_still _ _)) fun _ => keeping_passOptions _ _

theorem lasts_solverId : Adapter.Lasts solverId := by
  have keeps {α : Type} {x : Action (OrToolsAdapter × Workspace) α}
      (h : Within (Adapter.Keeping memory) x) : Within (Adapter.Keeping solverId) x :=
    h.mono fun s t same => show t.1.solverId = s.1.solverId from congrArg Prod.fst same
  exact
    { version := keeps keeps_memory.version
      give := fun part => keeps (keeps_memory.give part)
      solve := keeps keeps_memory.solve
      values := keeps keeps_memory.values
      objectiveValue := keeps keeps_memory.objectiveValue
      start := keeping_start
      close := Adapter.keeping_remember fun _ => rfl }

theorem start_twins {a a' : OrToolsAdapter} (made : a.solverId = a'.solverId)
    (p : Given Parameters) (w : Workspace) :
    ∃ r t t' w', (Adapter.start p).run (a, w) = (r, t, w') ∧
      (Adapter.start p).run (a', w) = (r, t', w') ∧ (t = t' ∨ r ≠ .ok () ∧ t = a ∧ t' = a') := by
  show ∃ r t t' w', (start p).run (a, w) = (r, t, w') ∧ (start p).run (a', w) = (r, t', w') ∧ _
  obtain ⟨id, solver, columns, text⟩ := a
  obtain ⟨_, solver', columns', text'⟩ := a'
  obtain rfl : id = _ := made
  have begun (solver : Option OrToolsSolver) (columns : List ℕ) (text : String) :
      (start p).run (⟨id, solver, columns, text⟩, w) =
        match (OrToolsService.createSolver id).run w with
        | (.ok true, w₁) =>
          (Action.ofExcept (p.require "verbose") >>= apply).run
            (⟨id, some ⟨0, none⟩, [], ""⟩, w₁)
        | (.ok false, w₁) => (.error (.noSolverInstance id), ⟨id, solver, columns, text⟩, w₁)
        | (.error e, w₁) => (.error e, ⟨id, solver, columns, text⟩, w₁) := by
    unfold start
    rw [run_bind, Adapter.look_run]
    dsimp only
    rw [run_bind, run_liftM]
    obtain ⟨_ | created, w₁⟩ := (OrToolsService.createSolver id).run w
    · rfl
    · cases created <;> rfl
  rw [begun, begun]
  obtain ⟨e | created, w₁⟩ := (OrToolsService.createSolver id).run w
  · exact ⟨_, _, _, _, rfl, rfl, .inr ⟨nofun, rfl, rfl⟩⟩
  · cases created with
    | false => exact ⟨_, _, _, _, rfl, rfl, .inr ⟨nofun, rfl, rfl⟩⟩
    | true => exact ⟨_, _, _, _, rfl, rfl, .inl rfl⟩

theorem resets : Adapter.Resets solverId Idle fun _ => True where
  lasts := lasts_solverId
  idles h := by
    cases h
    exact ⟨rfl, rfl⟩
  start made _ _ := start_twins made
  rests := by
    rintro ⟨id, _, _, text⟩ ⟨_, _, _, text'⟩ ⟨⟩ ⟨⟨⟩, ⟨⟩⟩ ⟨⟨⟩, ⟨⟩⟩ q other - w
    cases q with
    | start p => exact absurd rfl (other p)
    | give part => cases part <;> exact ⟨_, rfl, rfl⟩
    | create | version | solve | values | objectiveValue | close => exact ⟨_, rfl, rfl⟩

end OrToolsAdapter

namespace HighsAdapter

structure Idle (a : HighsAdapter) : Prop where
  started : a.started = false
  answer : a.answer = none

/-- A start forgets everything. -/
theorem start_forgets (a a' : HighsAdapter) (p : Given Parameters) (w : Workspace) :
    (Adapter.start p).run (a, w) = (Adapter.start p).run (a', w) :=
  rfl

/-- All adapters are made in the same way. -/
theorem resets : Adapter.Resets (fun _ : HighsAdapter => ()) Idle fun _ => True where
  lasts :=
    { version := fun _ => rfl
      give := fun _ _ => rfl
      solve := fun _ => rfl
      values := fun _ => rfl
      objectiveValue := fun _ => rfl
      start := fun _ _ => rfl
      close := fun _ => rfl }
  idles h := by
    cases h
    exact ⟨rfl, rfl⟩
  start {a a'} _ _ _ p w := ⟨_, _, _, _, rfl, (start_forgets a a' p w).symm, .inl rfl⟩
  rests := by
    rintro ⟨_, options, lower, upper, whole, entries, rowLower, rowUpper, cost, _⟩
      ⟨_, options', lower', upper', whole', entries', rowLower', rowUpper', cost', _⟩ - ⟨⟨⟩, ⟨⟩⟩
      ⟨⟨⟩, ⟨⟩⟩ q other - w
    cases q with
    | start p => exact absurd rfl (other p)
    | create | version | give | solve | values | objectiveValue | close => exact ⟨_, rfl, rfl⟩

end HighsAdapter

namespace GurobiAdapter

/-- There is no model and no environment. The module may be one that was found before. -/
structure Idle (a : GurobiAdapter) : Prop where
  acquired : a.acquired = false
  model : a.model = none
  columns : a.columns = []

theorem keeping_of_works {α : Type} {x : Action (GurobiAdapter × Workspace) α}
    (h : Within (Works gurobiEnvironment) x) : Within (Adapter.Keeping environment) x :=
  h.mono fun _ _ works => works.environment

theorem keeping_shared (part : String) : Within (Adapter.Keeping environment) (shared part) :=
  within_bind (Adapter.keeping_look _) fun _ => within_ofExcept _

theorem keeping_start (p : Given Parameters) : Within (Adapter.Keeping environment) (start p) := by
  refine within_bind (Adapter.keeping_onSecond _) fun library =>
    within_bind (keeping_shared _) fun r => within_bind (Adapter.keeping_onSecond _) fun env => ?_
  refine within_bind (Adapter.keeping_remember fun _ => rfl) fun _ => within_bind ?_ fun _ => ?_
  · exact within_bind (Adapter.keeping_onSecond _) fun _ => within_bind (within_gets _) fun g =>
      Adapter.keeping_remember fun _ => rfl
  · exact within_bind (within_ofExcept _) fun p => keeping_of_works (works_apply p)

/-- The end of a close: the environment is released if the adapter has it. -/
def letGo (acquired : Bool) : Action (GurobiAdapter × Workspace) Unit := do
  Adapter.remember fun a => { a with columns := [] }
  if acquired then
    Adapter.remember fun a => { a with acquired := false }
    let r ← shared "release"
    SharedEnvironment.release r

theorem close_eq : close = (do
    let a ← Adapter.look id
    if a.model.isSome then
      call (.gurobi .disposeModel)
      Adapter.remember fun a => { a with model := none }
      letGo a.acquired
    else
      letGo a.acquired : Action (GurobiAdapter × Workspace) Unit) :=
  rfl

theorem keeping_letGo (acquired : Bool) :
    Within (Adapter.Keeping environment) (letGo acquired) := by
  refine within_bind (Adapter.keeping_remember fun _ => rfl) fun _ =>
    within_ite ?_ (within_pure _)
  exact within_bind (Adapter.keeping_remember fun _ => rfl) fun _ =>
    within_bind (keeping_shared _) fun r => Adapter.keeping_onSecond _

theorem keeping_close : Within (Adapter.Keeping environment) close := by
  rw [close_eq]
  refine within_bind (Adapter.keeping_look _) fun a => within_ite ?_ (keeping_letGo _)
  exact within_bind (Adapter.keeping_onSecond _) fun _ =>
    within_bind (Adapter.keeping_remember fun _ => rfl) fun _ => keeping_letGo _

theorem lasts_environment : Adapter.Lasts environment where
  version := keeping_of_works works_version
  give part := keeping_of_works (works_give part)
  solve := within_bind (keeping_of_works works_solve) fun _ => within_pure _
  values := keeping_of_works works_values
  objectiveValue := keeping_of_works works_objectiveValue
  start := keeping_start
  close := keeping_close

theorem idle_of_letGo {a b : GurobiAdapter} {w w' : Workspace} (model : a.model = none)
    (ran : (letGo a.acquired).run (a, w) = (.ok (), b, w')) : Idle b := by
  obtain ⟨_, s₁, cleared, ran⟩ := run_bind_eq_ok.1 ran
  cases cleared
  cases acquired : a.acquired with
  | false =>
      rw [acquired] at ran
      cases ran
      exact ⟨acquired, model, rfl⟩
  | true =>
      rw [acquired, if_pos rfl] at ran
      obtain ⟨_, s₂, forgotten, ran⟩ := run_bind_eq_ok.1 ran
      cases forgotten
      obtain ⟨r, s₃, found, ran⟩ := run_bind_eq_ok.1 ran
      have same : s₃ = _ := (congrArg Prod.snd found).symm
      rw [run_liftM, Prod.mk.injEq, Prod.mk.injEq] at ran
      obtain ⟨-, rfl, -⟩ := ran
      rw [same]
      exact ⟨rfl, model, rfl⟩

theorem idles {a b : GurobiAdapter} {w w' : Workspace}
    (closed : Adapter.close.run (a, w) = (.ok (), b, w')) : Idle b := by
  have ran : close.run (a, w) = (.ok (), b, w') := closed
  rw [close_eq] at ran
  obtain ⟨_, _, looked, ran⟩ := run_bind_eq_ok.1 ran
  cases looked
  dsimp only [id] at ran
  by_cases model : a.model.isSome = true
  · rw [if_pos model] at ran
    obtain ⟨_, ⟨a₁, w₁⟩, disposed, ran⟩ := run_bind_eq_ok.1 ran
    obtain ⟨_, s₂, forgotten, ran⟩ := run_bind_eq_ok.1 ran
    obtain rfl : a = a₁ := congrArg (·.2.1) disposed
    cases forgotten
    exact idle_of_letGo (a := { a with model := none }) rfl ran
  · rw [if_neg model] at ran
    exact idle_of_letGo (Option.not_isSome_iff_eq_none.1 model) ran

theorem start_twins {a a' : GurobiAdapter} (made : a.environment = a'.environment) (idle : Idle a)
    (idle' : Idle a') (p : Given Parameters) (w : Workspace) :
    ∃ r t t' w', (Adapter.start p).run (a, w) = (r, t, w') ∧
      (Adapter.start p).run (a', w) = (r, t', w') ∧ (t = t' ∨ r ≠ .ok () ∧ t = a ∧ t' = a') := by
  obtain ⟨environment, _, library, _, _⟩ := a
  obtain ⟨_, _, library', _, _⟩ := a'
  obtain rfl : environment = _ := made
  obtain ⟨⟨⟩, ⟨⟩, ⟨⟩⟩ := idle
  obtain ⟨⟨⟩, ⟨⟩, ⟨⟩⟩ := idle'
  have begun (library : Option GurobiModule) :
      (start p).run (⟨environment, false, library, none, []⟩, w) =
        match (do
          let found ← GurobiService.locate
          let r ← Action.ofExcept (environment.require "acquire")
          let env ← SharedEnvironment.acquire r
          pure (found, env)).run w with
        | (.ok (found, env), w₁) => (do
            createModel env
            let p ← Action.ofExcept (p.require "verbose")
            apply p).run (⟨environment, true, some found, none, []⟩, w₁)
        | (.error e, w₁) => (.error e, ⟨environment, false, library, none, []⟩, w₁) := by
    unfold start shared
    simp only [run_bind, run_liftM, Adapter.look, run_gets, run_ofExcept, Adapter.remember,
      run_modify]
    obtain ⟨e | found, w₁⟩ := GurobiService.locate.run w
    · rfl
    · dsimp only
      cases environment.require "acquire" with
      | error e => rfl
      | ok r =>
          dsimp only
          obtain ⟨e | env, w₂⟩ := (SharedEnvironment.acquire r).run w₁ <;> rfl
  show ∃ r t t' w', (start p).run _ = (r, t, w') ∧ (start p).run _ = (r, t', w') ∧ _
  rw [begun, begun]
  split
  · exact ⟨_, _, _, _, rfl, rfl, .inl rfl⟩
  · exact ⟨_, _, _, _, rfl, rfl, .inr ⟨nofun, rfl, rfl⟩⟩

theorem resets :
    Adapter.Resets environment Idle fun q => ∀ part, q ≠ .give part where
  lasts := lasts_environment
  idles := idles
  start made idle idle' := start_twins made idle idle'
  rests := by
    rintro ⟨environment, _, library, _, _⟩ ⟨_, _, library', _, _⟩ ⟨⟩ ⟨⟨⟩, ⟨⟩, ⟨⟩⟩ ⟨⟨⟩, ⟨⟩, ⟨⟩⟩ q
      other late w
    cases q with
    | start p => exact absurd rfl (other p)
    | give part => exact absurd rfl (late part)
    | create | version | solve | values | objectiveValue | close => exact ⟨_, rfl, rfl⟩

end GurobiAdapter

/-! ## Any requests -/

namespace Adapter

variable {A K : Type}

/-- What can be seen of two runs is the same, one from each of the two workspaces: how they end,
which native calls they make, what else they write into the journal, and what environments and
libraries they leave. -/
structure Indistinct {α : Type} (w w' : Workspace) (x x' : Except Failure α × A × Workspace) :
    Prop where
  reply : x.1 = x'.1
  calls : w.callsSince x.2.2 = w'.callsSince x'.2.2
  left : Abreast w w' x.2.2 x'.2.2

/-- From workspaces that are alike, runs that respect the comparison cannot be told apart. -/
theorem indistinct_of_respects {α : Type} {w w' : Workspace} (alike : w.Alike w')
    {x : Action (A × Workspace) α} (hx : Respects (Both w w') x) {s s' : A × Workspace}
    (related : (Both w w').Related s s') :
    Indistinct w w' (x.run s) (x.run s') ∧ (Both w w').Related (x.run s).2 (x.run s').2 := by
  obtain ⟨reply, left⟩ := ((hx s).2 s' related).resolve_left alike.not_parted
  exact ⟨⟨reply, left.second.callsSince_eq.symm, left.second⟩, left⟩

variable [Adapter A] {key : A → K} {Idle : A → Prop} {late : Request → Prop} {a a' : A}

/-- A request is always answered, if only with a failure. -/
theorem exists_ask (q : Request) (s : A × Workspace) : ∃ entry t, q.ask.run s = (.ok entry, t) := by
  cases q <;> exact ⟨_, _, rfl⟩

theorem Resets.ask (h : Resets key Idle late) (twins : Twins key Idle a a') {q : Request}
    (may : late q) (w : Workspace) :
    ∃ entry t t' w', q.ask.run (a, w) = (.ok entry, t, w') ∧
      q.ask.run (a', w) = (.ok entry, t', w') ∧ Twins key Idle t t' := by
  cases twins with
  | same =>
      obtain ⟨entry, t, ran⟩ := exists_ask q (a, w)
      exact ⟨entry, t.1, t.1, t.2, ran, ran, .same t.1⟩
  | idle made left right =>
      by_cases starts : ∃ p, q = .start p
      · obtain ⟨p, rfl⟩ := starts
        obtain ⟨r, t, t', w', ran, ran', outcome⟩ := h.start made left right p w
        refine ⟨.start p r, t, t', w', ?_, ?_, ?_⟩
        · rw [Request.ask, run_bind, run_attempt, ran]
          rfl
        · rw [Request.ask, run_bind, run_attempt, ran']
          rfl
        · obtain rfl | ⟨-, rfl, rfl⟩ := outcome
          · exact .same t
          · exact .idle made left right
      · obtain ⟨entry, ran, ran'⟩ :=
          h.rests made left right q (fun p same => starts ⟨p, same⟩) may w
        exact ⟨entry, a, a', w, ran, ran', .idle made left right⟩

theorem Resets.converse (h : Resets key Idle late) (twins : Twins key Idle a a')
    (requests : List Request) (may : ∀ q ∈ requests, late q) (w : Workspace) :
    ∃ entries t t' w', (Request.converse requests).run (a, w) = (.ok entries, t, w') ∧
      (Request.converse requests).run (a', w) = (.ok entries, t', w') := by
  induction requests generalizing a a' w with
  | nil => exact ⟨[], a, a', w, rfl, rfl⟩
  | cons q rest ih =>
      obtain ⟨entry, t, t', w', ran, ran', twins⟩ := h.ask twins (may q List.mem_cons_self) w
      obtain ⟨entries, u, u', w'', later, later'⟩ :=
        ih twins (fun q mem => may q (List.mem_cons_of_mem _ mem)) w'
      refine ⟨entry :: entries, u, u', w'', ?_, ?_⟩
      · exact (run_forEach_cons_of_ok ran rest).trans (by rw [← Request.converse, later]; rfl)
      · exact (run_forEach_cons_of_ok ran' rest).trans (by rw [← Request.converse, later']; rfl)

theorem steady_converse {w w' : Workspace} (steady : Steady A w w') (requests : List Request) :
    Respects (Both w w') (Request.converse (A := A) requests) := by
  refine respects_forEach (fun q => ?_) requests
  cases q with
  | create => exact respects_pure _
  | start p => exact respects_bind (respects_attempt (steady.start p)) fun _ => respects_pure _
  | version => exact respects_bind (respects_attempt steady.version) fun _ => respects_pure _
  | give part => exact respects_bind (respects_attempt (steady.give part)) fun _ => respects_pure _
  | solve => exact respects_bind (respects_attempt steady.solve) fun _ => respects_pure _
  | values => exact respects_bind (respects_attempt steady.values) fun _ => respects_pure _
  | objectiveValue =>
      exact respects_bind (respects_attempt steady.objectiveValue) fun _ => respects_pure _
  | close => exact respects_bind (respects_attempt steady.close) fun _ => respects_pure _

theorem Resets.reopened (h : Resets key Idle late) {fresh a b : A} {u u' : Workspace}
    (idle : Idle fresh) (used : Used (fun _ => True) fresh a)
    (closed : Adapter.close.run (a, u) = (.ok (), b, u')) {w w' : Workspace} (alike : w.Alike w')
    (steady : Steady A w w') (p : Given Parameters) (later : List Request) :
    let opened := (Adapter.start p).run (b, w)
    let anew := (Adapter.start p).run (fresh, w')
    Indistinct w w' opened anew ∧
      (opened.1 = .ok () ∨ (∀ q ∈ later, late q) →
        Indistinct w w' ((Request.converse later).run opened.2)
          ((Request.converse later).run anew.2)) := by
  intro opened anew
  have made : key b = key fresh := by
    have kept := h.lasts.close (a, u)
    rw [closed] at kept
    exact kept.trans (used.keeping fun q _ => h.lasts.ask q)
  -- the used adapter against a new one from the same workspace, then this one from the other
  obtain ⟨r, t, t', v, ran, ran', outcome⟩ := h.start made (h.idles closed) idle p w
  have begun := indistinct_of_respects alike (steady.start p)
    (show (Both w w').Related (fresh, w) (fresh, w') from ⟨rfl, .refl alike.toMatches⟩)
  rw [ran'] at begun
  obtain ⟨same, related⟩ := begun
  rw [show opened = (r, t, v) from ran]
  refine ⟨⟨same.reply, same.calls, same.left⟩, fun may => ?_⟩
  obtain ⟨talked, -⟩ := indistinct_of_respects alike (steady_converse steady later) related
  have joined : ∃ said t₁ t₁' v₁, (Request.converse later).run (t, v) = (said, t₁, v₁) ∧
      (Request.converse later).run (t', v) = (said, t₁', v₁) := by
    obtain rfl | ⟨failed, rfl, rfl⟩ := outcome
    · exact ⟨_, _, _, _, rfl, rfl⟩
    · obtain ⟨entries, t₁, t₁', v₁, both⟩ := h.converse (.idle made (h.idles closed) idle) later
        (may.resolve_left failed) v
      exact ⟨.ok entries, t₁, t₁', v₁, both⟩
  obtain ⟨said, t₁, t₁', v₁, talks, talks'⟩ := joined
  rw [talks'] at talked
  rw [talks]
  exact ⟨talked.reply, talked.calls, talked.left⟩

/-- The adapters that come with the library, as they are made. `late` are the requests that do not
show whether an adapter that could not be started was used before. -/
inductive BuiltIn : {A : Type} → [Adapter A] → (fresh : A) → (late : Request → Prop) → Prop
  | orTools (solverId : String) : BuiltIn (OrToolsAdapter.make solverId) fun _ => True
  | highs : BuiltIn HighsAdapter.new fun _ => True
  | gurobi (environment : Given (Ref SharedEnvironment)) :
      BuiltIn (GurobiAdapter.make environment) fun q => ∀ part, q ≠ .give part

/-- An adapter that was used in any way and closed cannot be told apart from a new one that is
started on an equal footing. If the start fails, that is so for the requests in `late`. -/
theorem reopened_as_new {A : Type} [Adapter A] {fresh a b : A} {late : Request → Prop}
    (builtIn : BuiltIn fresh late) (used : Used (fun _ => True) fresh a) {u u' : Workspace}
    (closed : Adapter.close.run (a, u) = (.ok (), b, u')) {w w' : Workspace} (alike : w.Alike w')
    (p : Given Parameters) (later : List Request) :
    let opened := (Adapter.start p).run (b, w)
    let anew := (Adapter.start p).run (fresh, w')
    Indistinct w w' opened anew ∧
      (opened.1 = .ok () ∨ (∀ q ∈ later, late q) →
        Indistinct w w' ((Request.converse later).run opened.2)
          ((Request.converse later).run anew.2)) := by
  cases builtIn with
  | orTools solverId =>
      exact OrToolsAdapter.resets.reopened ⟨rfl, rfl⟩ used closed alike OrToolsAdapter.steady p
        later
  | highs =>
      exact HighsAdapter.resets.reopened ⟨rfl, rfl⟩ used closed alike HighsAdapter.steady p later
  | gurobi environment =>
      exact GurobiAdapter.resets.reopened ⟨rfl, rfl, rfl⟩ used closed alike GurobiAdapter.steady p
        later

/-- A closed adapter for GLOP has an old option text that a solve of the next model would hand over
if it were still there. -/
theorem reopened_after_options :
    ∃ a b u', Used (fun _ => True) (OrToolsAdapter.make "glop") a ∧
      Adapter.close.run (a, Sample.glop) = (.ok (), b, u') ∧
      b.optionText = "max_number_of_iterations: 100\nnote: a: b" ∧
      let opened := (Adapter.start (.proper .default)).run (b, Sample.glop)
      let anew := (Adapter.start (.proper .default)).run
        (OrToolsAdapter.make "glop", Sample.glop)
      opened.1 = .ok () ∧
        Indistinct Sample.glop Sample.glop
          ((Request.converse [.solve]).run opened.2) ((Request.converse [.solve]).run anew.2) := by
  have builtIn := BuiltIn.orTools "glop"
  rw [Sample.make_glop] at builtIn ⊢
  let p : Parameters := { Parameters.default with options := Sample.options }
  let fresh : OrToolsAdapter := ⟨"GLOP", none, [], ""⟩
  obtain ⟨a, ran⟩ : ∃ a, ((Request.start (.proper p)).ask.run (fresh, Sample.glop)).2.1 = a :=
    ⟨_, rfl⟩
  have used : Used (fun _ => True) fresh a := ran ▸ .ask .unused trivial Sample.glop
  have closed : Adapter.close.run (a, Sample.glop) =
    (.ok (), { a with solver := none, columns := [] }, Sample.glop) := rfl
  have alike : Sample.glop.Alike Sample.glop := ⟨.refl _, fun _ => rfl⟩
  obtain ⟨-, talks⟩ := reopened_as_new builtIn used closed alike (.proper .default) [.solve]
  have opens : ((Adapter.start (.proper .default)).run
      ({ a with solver := none, columns := [] }, Sample.glop)).1 = .ok () := by
    rw [← ran]
    decide +kernel
  have text : a.optionText = "max_number_of_iterations: 100\nnote: a: b" := by
    rw [← ran]
    decide +kernel
  exact ⟨a, _, _, used, closed, text, opens, talks (.inl opens)⟩

end Adapter

end LinearDispatch
