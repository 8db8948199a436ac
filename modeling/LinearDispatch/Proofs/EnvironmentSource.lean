import LinearDispatch.Proofs.NativeCalls
import LinearDispatch.Proofs.Returns
import LinearDispatch.Proofs.Within

/-!
# Where an environment comes from

A handle gets its environment from a source that may fail, or give nothing, or in principle give
the same environment again. This file says what of that can be seen afterwards. The journal shows
that a source was asked and which environments were to be disposed of, and `make_returns` says that
a source which gives something was asked for it. Environments of Gurobi are numbered and those of a
script are told apart by the script, so what a source gives has not come from it before.

`Along` is the relation that actions on a workspace are followed with: the journal has grown, by
events of a certain kind, and a certain handle has become what is said of it.
-/

namespace LinearDispatch

open LinearDispatch.Action Workspace

/-! ## The journal -/

def Event.asks : Event → Bool
  | .environmentCreated _ | .native (.gurobi (.createEnvironment _)) => true
  | _ => false

/-- What asking a source for an environment writes. -/
def Event.isAsking : Event → Bool
  | .log .. | .environmentCreated _ => true
  | .native (.gurobi (.createEnvironment _)) => true
  | .native (.gurobi (.setEnvironmentParameter ..)) => true
  | .native (.gurobi .startEnvironment) => true
  | _ => false

/-- What ending an environment writes. -/
def Event.isEnding : Event → Bool
  | .log .. | .environmentDisposed .. => true
  | .native (.gurobi (.disposeEnvironment _)) => true
  | _ => false

def Event.disposes? : Event → Option Environment
  | .environmentDisposed _ env | .native (.gurobi (.disposeEnvironment env)) => some env
  | _ => none

def Event.isLog : Event → Bool
  | .log .. => true
  | _ => false

theorem Event.disposes?_of_isLog {e : Event} (h : e.isLog = true) : e.disposes? = none := by
  cases e with
  | log => rfl
  | _ => cases h

theorem Event.native?_of_isLog {e : Event} (h : e.isLog = true) : e.native? = none := by
  cases e with
  | log => rfl
  | _ => cases h

theorem Event.asks_of_isLog {e : Event} (h : e.isLog = true) : e.asks = false := by
  cases e with
  | log => rfl
  | _ => cases h

theorem Event.disposes?_of_isAsking {e : Event} (h : e.isAsking = true) : e.disposes? = none := by
  unfold isAsking at h
  split at h
  all_goals first
    | rfl
    | cases h

namespace Workspace

/-- What the journal has in the second workspace and not yet in the first. -/
def written (w w' : Workspace) : List Event :=
  w'.journal.drop w.journal.length

/-- The environments that were to be disposed of in between. -/
def disposals (w w' : Workspace) : List Environment :=
  (w.written w').filterMap Event.disposes?

theorem written_of_append {w w' : Workspace} {more : List Event}
    (h : w'.journal = w.journal ++ more) : w.written w' = more := by
  rw [written, h, List.drop_left]

/-- The second workspace comes after the first. The journal has grown by events that satisfy `P`,
the native calls among them were counted, and no handle and no failure that was planned has gone. -/
structure Grows (P : Event → Prop) (w w' : Workspace) : Prop where
  journal : ∃ more, w'.journal = w.journal ++ more ∧
    w'.nativeCalls = w.nativeCalls + (more.filterMap Event.native?).length ∧ ∀ e ∈ more, P e
  faults : w'.faults = w.faults
  handles : w'.environments.items.size = w.environments.items.size
  created : w.gurobi.created ≤ w'.gurobi.created

namespace Grows

variable {P Q : Event → Prop} {w w' w'' : Workspace}

instance : Std.Refl (Grows P) where
  refl w := ⟨⟨[], by simp⟩, rfl, rfl, Nat.le_refl _⟩

theorem trans : w.Grows P w' → w'.Grows P w'' → w.Grows P w'' := by
  rintro ⟨⟨more, grown, counted, all⟩, faults, handles, created⟩
    ⟨⟨more', grown', counted', all'⟩, faults', handles', created'⟩
  refine ⟨⟨more ++ more', ?_, ?_, ?_⟩, faults'.trans faults, handles'.trans handles,
    Nat.le_trans created created'⟩
  · rw [grown', grown, List.append_assoc]
  · rw [counted', counted, List.filterMap_append, List.length_append, Nat.add_assoc]
  · intro e he
    rcases List.mem_append.1 he with he | he
    · exact all e he
    · exact all' e he

theorem mono (h : ∀ e, P e → Q e) (grows : w.Grows P w') : w.Grows Q w' := by
  obtain ⟨more, grown, counted, all⟩ := grows.journal
  exact ⟨⟨more, grown, counted, fun e he => h e (all e he)⟩, grows.faults, grows.handles,
    grows.created⟩

theorem forall_written (grows : w.Grows P w') : ∀ e ∈ w.written w', P e := by
  obtain ⟨more, grown, -, all⟩ := grows.journal
  rw [written_of_append grown]
  exact all

theorem filterMap_eq_nil {β : Type} {f : Event → Option β} (silent : ∀ e, P e → f e = none)
    (grows : w.Grows P w') : (w.written w').filterMap f = [] :=
  List.filterMap_eq_nil_iff.2 fun e he => silent e (grows.forall_written e he)

theorem disposals_eq_nil (silent : ∀ e, P e → e.disposes? = none) (grows : w.Grows P w') :
    w.disposals w' = [] :=
  grows.filterMap_eq_nil silent

theorem written_trans (grows : w.Grows P w') (grows' : w'.Grows Q w'') :
    w.written w'' = w.written w' ++ w'.written w'' := by
  obtain ⟨more, grown, -⟩ := grows.journal
  obtain ⟨more', grown', -⟩ := grows'.journal
  rw [written_of_append grown, written_of_append grown']
  refine written_of_append ?_
  rw [grown', grown, List.append_assoc]

theorem disposals_trans (grows : w.Grows P w') (grows' : w'.Grows Q w'') :
    w.disposals w'' = w.disposals w' ++ w'.disposals w'' := by
  rw [disposals, grows.written_trans grows', List.filterMap_append]
  rfl

end Grows

end Workspace

theorem Workspace.grows_afterCall {P : Event → Prop} {c : NativeCall} (he : P (.native c))
    (w : Workspace) : w.Grows P (w.afterCall c) := by
  refine ⟨⟨[.native c], rfl, rfl, ?_⟩, rfl, rfl, Nat.le_refl _⟩
  intro e he'
  rw [List.mem_singleton.1 he']
  exact he

namespace Action

variable {P : Event → Prop}

theorem grows_record {e : Event} (he : P e) (silent : e.native? = none) :
    Within (Grows P) (record e) := by
  intro w
  refine ⟨⟨[e], rfl, ?_, ?_⟩, rfl, rfl, Nat.le_refl _⟩
  · rw [List.filterMap_cons_none silent]
    rfl
  · intro e' he'
    rw [List.mem_singleton.1 he']
    exact he

end Action

/-! ## One handle -/

namespace Workspace

/-- Nothing has happened but that the log was written. -/
def Logged (w w' : Workspace) : Prop :=
  ∃ records : List Event, (∀ e ∈ records, e.isLog = true) ∧
    w' = { w with journal := w.journal ++ records }

theorem logged_log (channel : Channel) (level : Level) (message : String) (w : Workspace) :
    w.Logged ((log channel level message).run w).2 := by
  refine ⟨[.log channel level message], fun e he => ?_, rfl⟩
  rw [List.mem_singleton.1 he]
  rfl

theorem logged_logShowing (values : List Value) (channel : Channel) (level : Level)
    (message : String) (w : Workspace) :
    w.Logged ((logShowing values channel level message).run w).2 := by
  unfold logShowing
  split
  · exact logged_log channel level message w
  · exact ⟨[], nofun, by rw [List.append_nil]; rfl⟩

/-- What comes after a record that is logged, or lost, runs where nothing else has happened. -/
theorem run_logShowing_bind {α : Type} (values : List Value) (channel : Channel) (level : Level)
    (message : String) (rest : Action Workspace α) (w : Workspace) :
    ∃ w₁, w.Logged w₁ ∧ (do
      logShowing values channel level message
      rest).run w = rest.run w₁ :=
  ⟨_, logged_logShowing values channel level message w, run_bind_of_ok (run_logShowing _ _ _ _ w)⟩

/-- A property of records that the log has none of is not brought in by writing to it. -/
theorem filterMap_records {β : Type} {f : Event → Option β}
    (silent : ∀ e : Event, e.isLog = true → f e = none) {records : List Event}
    (logged : ∀ e ∈ records, e.isLog = true) : records.filterMap f = [] :=
  List.filterMap_eq_nil_iff.2 fun e he => silent e (logged e he)

def note (w : Workspace) (e : Event) : Workspace :=
  { w with journal := w.journal ++ [e] }

def alter (w : Workspace) (r : Ref SharedEnvironment)
    (f : SharedEnvironment → SharedEnvironment) : Workspace :=
  { w with environments := w.environments.set r (f (w.environments.get r)) }

/-- There is such a handle. -/
def Has (w : Workspace) (r : Ref SharedEnvironment) : Prop :=
  r.index < w.environments.items.size

theorem record_run (e : Event) (w : Workspace) : (record e).run w = (.ok (), w.note e) := rfl

@[simp] theorem journal_alter (w : Workspace) (r : Ref SharedEnvironment)
    (f : SharedEnvironment → SharedEnvironment) : (w.alter r f).journal = w.journal := rfl

theorem Has.note {w : Workspace} {r : Ref SharedEnvironment} (has : w.Has r) (e : Event) :
    (w.note e).Has r :=
  has

variable {w : Workspace} {r : Ref SharedEnvironment} {f : SharedEnvironment → SharedEnvironment}

theorem Logged.environments_eq {w' : Workspace} (logged : w.Logged w') :
    w'.environments = w.environments := by
  obtain ⟨records, -, rfl⟩ := logged
  rfl

theorem Logged.has {w' : Workspace} (logged : w.Logged w') (has : w.Has r) : w'.Has r := by
  obtain ⟨records, -, rfl⟩ := logged
  exact has

theorem Has.alter (has : w.Has r) (f : SharedEnvironment → SharedEnvironment) :
    (w.alter r f).Has r :=
  Nat.lt_of_lt_of_eq has Array.size_setIfInBounds.symm

theorem get_alter (has : w.Has r) :
    (w.alter r f).environments.get r = f (w.environments.get r) :=
  Cells.get_set_self _ _ _ has

theorem Grows.has {P : Event → Prop} {w' : Workspace} (grows : w.Grows P w') (has : w.Has r) :
    w'.Has r :=
  Nat.lt_of_lt_of_eq has grows.handles.symm

theorem grows_alter (P : Event → Prop) : w.Grows P (w.alter r f) :=
  ⟨⟨[], (List.append_nil _).symm, rfl, fun _ h => absurd h List.not_mem_nil⟩, rfl,
    Array.size_setIfInBounds, Nat.le_refl _⟩

end Workspace

namespace SharedEnvironment

/-- It is still the same handle. Its source may have been asked meanwhile. -/
structure Lasts (h h' : SharedEnvironment) : Prop where
  name : h'.name = h.name
  source : h'.source = h.source
  made : h.made ≤ h'.made

/-- A handle is as it was for those who use it. -/
structure Kept (h h' : SharedEnvironment) : Prop extends h.Lasts h' where
  environment : h'.environment = h.environment
  holders : h'.holders = h.holders

instance : Std.Refl Lasts where
  refl _ := ⟨rfl, rfl, Nat.le_refl _⟩

instance : Trans Lasts Lasts Lasts where
  trans l l' := ⟨l'.name.trans l.name, l'.source.trans l.source, Nat.le_trans l.made l'.made⟩

instance : Std.Refl Kept where
  refl _ := ⟨Std.Refl.refl _, rfl, rfl⟩

instance : Trans Kept Kept Kept where
  trans k k' := ⟨Trans.trans k.toLasts k'.toLasts, k'.environment.trans k.environment,
    k'.holders.trans k.holders⟩

/-- In between nothing was done to a handle. -/
structure Apart (r : Ref SharedEnvironment) (w w' : Workspace) : Prop where
  kept : (w.environments.get r).Kept (w'.environments.get r)
  has : w.Has r → w'.Has r
  created : w.gurobi.created ≤ w'.gurobi.created

instance (r : Ref SharedEnvironment) : Std.Refl (Apart r) where
  refl _ := ⟨Std.Refl.refl _, id, Nat.le_refl _⟩

/-- The workspace has grown by events that satisfy `P`, and the handle has become what `K` says. -/
structure Along (K : SharedEnvironment → SharedEnvironment → Prop) (r : Ref SharedEnvironment)
    (P : Event → Prop) (w w' : Workspace) : Prop extends w.Grows P w' where
  handle : K (w.environments.get r) (w'.environments.get r)

namespace Along

variable {K : SharedEnvironment → SharedEnvironment → Prop} {r : Ref SharedEnvironment}
  {P : Event → Prop} {w w' : Workspace}

instance [Std.Refl K] : Std.Refl (Along K r P) where
  refl _ := ⟨Std.Refl.refl _, Std.Refl.refl _⟩

theorem trans [Trans K K K] {w'' : Workspace} (a : Along K r P w w') (a' : Along K r P w' w'') :
    Along K r P w w'' :=
  ⟨a.toGrows.trans a'.toGrows, Trans.trans a.handle a'.handle⟩

instance [Trans K K K] : Trans (Along K r P) (Along K r P) (Along K r P) where
  trans := trans

theorem lasts (a : Along Kept r P w w') : Along Lasts r P w w' :=
  ⟨a.toGrows, a.handle.toLasts⟩

theorem mono {Q : Event → Prop} (h : ∀ e, P e → Q e) (a : Along K r P w w') : Along K r Q w w' :=
  ⟨a.toGrows.mono h, a.handle⟩

theorem of_environments [Std.Refl K] (grows : w.Grows P w')
    (same : w'.environments = w.environments) : Along K r P w w' := by
  refine ⟨grows, ?_⟩
  rw [same]
  exact Std.Refl.refl _

end Along

variable {K : SharedEnvironment → SharedEnvironment → Prop} [Std.Refl K]
  {r : Ref SharedEnvironment} {P : Event → Prop}

theorem look_run (r : Ref SharedEnvironment) (w : Workspace) :
    (look r id).run w = (.ok (w.environments.get r), w) := rfl

theorem change_run (r : Ref SharedEnvironment) (f : SharedEnvironment → SharedEnvironment)
    (w : Workspace) : (change r f).run w = (.ok (), w.alter r f) := rfl

theorem along_change {f : SharedEnvironment → SharedEnvironment} (hf : ∀ h, K h (f h)) :
    Within (Along K r P) (change r f) := by
  intro w
  rw [change_run]
  refine ⟨grows_alter P, ?_⟩
  by_cases has : w.Has r
  · rw [get_alter has]
    exact hf _
  · unfold Workspace.alter
    rw [Cells.set_of_size_le _ _ _ (Nat.le_of_not_lt has)]
    exact Std.Refl.refl _

theorem along_record {e : Event} (he : P e) (silent : e.native? = none) :
    Within (Along K r P) (record e) :=
  fun w => .of_environments (grows_record he silent w) rfl

theorem along_log (channel : Channel) (level : Level) (message : String)
    (he : P (.log channel level message)) : Within (Along K r P) (log channel level message) :=
  along_record he rfl

theorem along_logShowing (values : List Value) (channel : Channel) (level : Level)
    (message : String) (he : P (.log channel level message)) :
    Within (Along K r P) (logShowing values channel level message) :=
  within_ite (along_log channel level message he) (within_pure ())

theorem along_afterCall {c : NativeCall} (he : P (.native c)) (w : Workspace) :
    Along K r P w (w.afterCall c) :=
  .of_environments (grows_afterCall he w) rfl

theorem along_call {c : NativeCall} (he : P (.native c)) : Within (Along K r P) (call c) := by
  intro w
  rw [run_call]
  exact along_afterCall he w

theorem along_locate : Within (Along Kept r P) GurobiService.locate :=
  within_bind (within_gets _) fun _ => within_bind (within_check _) fun _ => within_pure _

/-! ## Asking the source -/

end SharedEnvironment

namespace EnvironmentSource

/-- Sometimes the source gives an environment that is none. -/
def GivesNone : EnvironmentSource → Prop
  | gurobi => False
  | script make _ => ∃ n, make n = .ok none

/-- The source gives no environment twice. -/
def NeverRepeats : EnvironmentSource → Prop
  | gurobi => True
  | script make _ => ∀ n m env, make n = .ok (some env) → make m = .ok (some env) → n = m

end EnvironmentSource

namespace SharedEnvironment

variable {r : Ref SharedEnvironment}

theorem along_startGurobi : Within (Along Kept r fun e => e.isAsking = true) startGurobi := by
  refine within_bind along_locate fun _ => within_bind (within_attempt ?_) fun started => ?_
  · refine within_bind ?_ fun env => within_bind (along_call rfl) fun _ =>
      within_bind (along_call rfl) fun _ => within_pure _
    refine within_bind (within_modify fun w => ?_) fun _ => ?_
    · exact .of_environments ⟨⟨[], by simp⟩, rfl, rfl, Nat.le_succ _⟩ rfl
    · exact within_bind (within_gets _) fun _ => within_bind (along_call rfl) fun _ => within_pure _
  · cases started with
    | ok env => exact within_pure _
    | error e => exact within_ite (within_fail _) (within_fail _)

theorem along_make : Within (Along Kept r fun e => e.isAsking = true) (make r) := by
  refine within_bind (within_gets _) fun h => ?_
  cases h.source with
  | gurobi => exact within_bind along_startGurobi fun _ => within_pure _
  | script make dispose =>
      refine within_bind (along_record rfl rfl) fun _ => ?_
      refine within_bind (along_change fun h => ?_) fun _ => within_ofExcept _
      exact ⟨⟨rfl, rfl, Nat.le_succ h.made⟩, rfl, rfl⟩

theorem call_returns {c : NativeCall} {w w' : Workspace} (ran : (call c).run w = (.ok (), w')) :
    w' = w.afterCall c := by
  rw [run_call] at ran
  exact (Prod.mk.inj ran).2.symm

theorem createEnvironment_returns {w w' : Workspace} {env : Environment}
    (ran : GurobiService.createEnvironment.run w = (.ok env, w')) :
    env = .native (w.gurobi.created + 1) ∧
      w' = Workspace.afterCall
        { w with gurobi := { w.gurobi with created := w.gurobi.created + 1 } }
        (.gurobi (.createEnvironment (w.gurobi.created + 1))) := by
  obtain ⟨⟨⟩, w₁, counted, rest⟩ := run_bind_eq_ok.1 ran
  obtain ⟨-, rfl⟩ := Prod.mk.inj counted
  obtain ⟨serial, w₂, numbered, rest'⟩ := run_bind_eq_ok.1 rest
  obtain ⟨same, rfl⟩ := Prod.mk.inj numbered
  obtain ⟨⟨⟩, w₃, called, ended⟩ := run_bind_eq_ok.1 rest'
  obtain ⟨same', rfl⟩ := Prod.mk.inj ended
  rw [← Except.ok.inj same', call_returns called, ← Except.ok.inj same]
  exact ⟨rfl, rfl⟩

/-- If starting Gurobi returns, three calls were made, and the environment has the next number. -/
theorem startGurobi_returns {w w' : Workspace} {env : Environment}
    (ran : startGurobi.run w = (.ok env, w')) :
    env = .native (w.gurobi.created + 1) ∧
      w' = Workspace.afterCalls
        { w with gurobi := { w.gurobi with created := w.gurobi.created + 1 } }
        [.gurobi (.createEnvironment (w.gurobi.created + 1)),
          .gurobi (.setEnvironmentParameter "OutputFlag" 0), .gurobi .startEnvironment] := by
  -- A run that returned is taken apart from its end: none of the calls has failed.
  obtain ⟨library, w₁, located, rest⟩ := run_bind_eq_ok.1 ran
  obtain ⟨started, w₂, attempted, ended⟩ := run_bind_eq_ok.1 rest
  rw [locate_run] at located
  obtain ⟨-, rfl⟩ := Prod.mk.inj located
  obtain ⟨same, left⟩ := Prod.mk.inj attempted
  cases started with
  | error e =>
      dsimp only at ended
      split at ended
      · cases ended
      · cases ended
  | ok env' =>
      obtain ⟨same', rfl⟩ := Prod.mk.inj ended
      obtain ⟨env₁, w₃, created, rest'⟩ := run_bind_eq_ok.1 (Prod.ext (Except.ok.inj same) left)
      obtain ⟨⟨⟩, w₄, set, rest''⟩ := run_bind_eq_ok.1 rest'
      obtain ⟨⟨⟩, w₅, started, ended'⟩ := run_bind_eq_ok.1 rest''
      obtain ⟨same'', rfl⟩ := Prod.mk.inj ended'
      obtain ⟨rfl, rfl⟩ := createEnvironment_returns created
      rw [← Except.ok.inj same', ← Except.ok.inj same'', call_returns started, call_returns set]
      exact ⟨rfl, rfl⟩

/-- The environment has come from the handle's source before. -/
def Gave (r : Ref SharedEnvironment) (w : Workspace) (env : Environment) : Prop :=
  match (w.environments.get r).source with
  | .gurobi => ∃ n ≤ w.gurobi.created, env = .native n
  | .script make _ => ∃ n < (w.environments.get r).made, make n = .ok (some env)

theorem Gave.of_lasts {w w' : Workspace} {env : Environment} (gave : Gave r w env)
    (lasts : (w.environments.get r).Lasts (w'.environments.get r))
    (created : w.gurobi.created ≤ w'.gurobi.created) : Gave r w' env := by
  unfold Gave at *
  rw [lasts.source]
  cases hs : (w.environments.get r).source with
  | gurobi =>
      rw [hs] at gave
      obtain ⟨n, le, same⟩ := gave
      exact ⟨n, Nat.le_trans le created, same⟩
  | script make dispose =>
      rw [hs] at gave
      obtain ⟨n, lt, same⟩ := gave
      exact ⟨n, Nat.lt_of_lt_of_le lt lasts.made, same⟩

theorem make_run_gurobi {w : Workspace} (hs : (w.environments.get r).source = .gurobi) :
    (make r).run w = ((startGurobi.run w).1.map some, (startGurobi.run w).2) := by
  unfold make
  rw [run_bind, look_run]
  dsimp only
  rw [hs]
  dsimp only
  rw [run_bind]
  cases startGurobi.run w with
  | mk started w' => cases started <;> rfl

theorem make_run_script {w : Workspace} {make' : Nat → Except Failure (Option Environment)}
    {dispose' : Nat → Option Failure}
    (hs : (w.environments.get r).source = .script make' dispose') :
    (make r).run w = (make' (w.environments.get r).made,
      (w.note (.environmentCreated (w.environments.get r).name)).alter r
        fun h => { h with made := h.made + 1 }) := by
  unfold make
  rw [run_bind, look_run]
  dsimp only
  rw [hs]
  rfl

/-- A source that gives something was asked for it, and what it gives is new. -/
theorem make_returns {w w' : Workspace} (has : w.Has r) {env : Option Environment}
    (ran : (make r).run w = (.ok env, w')) :
    (w.written w').any Event.asks = true ∧
      (env = none → (w.environments.get r).source.GivesNone) ∧
      ∀ e, env = some e → Gave r w' e ∧
        ((w.environments.get r).source.NeverRepeats → ¬Gave r w e) := by
  unfold Gave
  cases hs : (w.environments.get r).source with
  | gurobi =>
      rw [make_run_gurobi hs] at ran
      cases started : startGurobi.run w with
      | mk reply w₁ =>
          rw [started] at ran
          cases reply with
          | error e => cases ran
          | ok env' =>
              obtain ⟨same, rfl⟩ := Prod.mk.inj ran
              obtain ⟨rfl, rfl⟩ := startGurobi_returns started
              cases same
              refine ⟨?_, nofun, fun e he => ?_⟩
              · unfold Workspace.afterCalls afterCall
                simp only [List.foldl_cons, List.foldl_nil, List.append_assoc]
                rw [written_of_append rfl]
                rfl
              · cases he
                refine ⟨?_, ?_⟩
                · show match (w.environments.get r).source with | .gurobi => _ | .script _ _ => _
                  rw [hs]
                  exact ⟨_, Nat.le_refl _, rfl⟩
                · -- Those that were given before have lower numbers.
                  rintro - ⟨n, le, same⟩
                  cases same
                  exact Nat.not_succ_le_self _ le
  | script make' dispose' =>
      rw [make_run_script hs] at ran
      obtain ⟨same, rfl⟩ := Prod.mk.inj ran
      refine ⟨?_, ?_, fun e he => ?_⟩
      · rw [written_of_append rfl]
        rfl
      · rintro rfl
        exact ⟨_, same⟩
      · cases he
        refine ⟨?_, ?_⟩
        · rw [get_alter (has.note _)]
          dsimp only [note]
          rw [hs]
          exact ⟨_, Nat.lt_succ_self _, same⟩
        · -- The script was asked for it earlier, under another number.
          rintro never ⟨n, lt, given⟩
          exact Nat.ne_of_lt lt (never n _ e given same)

end SharedEnvironment

end LinearDispatch
