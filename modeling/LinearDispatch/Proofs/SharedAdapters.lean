import LinearDispatch.Proofs.EnvironmentHolders
import LinearDispatch.Proofs.GurobiEnvironment

/-!
# Adapters that share an environment

Several Gurobi adapters may take their environment from one handle. Each remembers in a flag that it
holds the environment, and the handle counts its holders. Nothing ties the two together but the
order in which `start` and `close` do their work, and each of them can fail at any point.

A `Table` is a number of adapters around one handle. `Reachable` lets them be started and closed in
any order, with anything failing, as long as no adapter is started twice without a close that
succeeded in between and nobody else uses the handle. In all reachable tables the handle counts the
flags, and the adapters with a model have it from the environment that is there.

What a start or a close can do is either nothing, or one holder more, or one holder less
(`Member.Effect`). The invariant is shown for these three.
-/

namespace LinearDispatch

open LinearDispatch.Action Workspace

open SharedEnvironment (Along Apart Holding holding after turn)

/-- One of several adapters that share a handle. -/
structure Member where
  adapter : GurobiAdapter
  /-- it was not started since it was made or closed with success -/
  rested : Bool
  /-- what its last model was created on -/
  origin : Option (Option Environment)

namespace Member

def start (x : Member) (p : Given Parameters) (w : Workspace) : Member × Workspace :=
  let t := ((GurobiAdapter.start p).run (x.adapter, w)).2
  (⟨t.1, false, ((w.written t.2).filterMap Event.modelOn?).getLast?.or x.origin⟩, t.2)

def close (x : Member) (w : Workspace) : Member × Workspace :=
  let result := GurobiAdapter.close.run (x.adapter, w)
  (⟨result.2.1, x.rested || result.1.isOk, x.origin⟩, result.2.2)

/-- What is true of a member when this is the environment of the handle. -/
structure Sound (r : Ref SharedEnvironment) (env : Option Environment) (x : Member) : Prop where
  handle : x.adapter.environment = .proper r
  rested : x.rested = true → x.adapter.acquired = false
  model : x.adapter.model.isSome = true → x.adapter.acquired = true ∧ x.origin = some env

/-- All that a start or a close can do to the handle. In the first case the member does not come to
hold or cease to hold anything; in the others it becomes a holder or stops being one. -/
inductive Effect (name : Value) (source : EnvironmentSource) :
    Holding → Member → Holding → Member → List Environment → Prop
  | keeps {h : Holding} {x x' : Member} (acquired : x'.adapter.acquired = x.adapter.acquired)
      (model : x'.adapter.model.isSome = true →
        x.adapter.model.isSome = true ∧ x'.origin = x.origin) :
      Effect name source h x h x' []
  | joins {h h' : Holding} {x x' : Member} {t : SharedEnvironment.Turn} {env : Option Environment}
      (before : x.adapter.acquired = false) (now : x'.adapter.acquired = true)
      (step : Holding.Step name source h t h') (acquire : t.call = .acquire)
      (answer : t.answer = .ok env) (origin : x'.origin = some env) :
      Effect name source h x h' x' t.disposed
  | leaves {h h' : Holding} {x x' : Member} {t : SharedEnvironment.Turn}
      (before : x.adapter.acquired = true) (now : x'.adapter.acquired = false)
      (model : x'.adapter.model = none) (step : Holding.Step name source h t h')
      (release : t.call = .release) : Effect name source h x h' x' t.disposed

end Member

namespace Member

variable {r : Ref SharedEnvironment} {x : Member} {w : Workspace}

/-! ## One member -/

theorem start_effect (has : w.Has r) (sound : x.Sound r (holding r w).environment)
    (rested : x.rested = true) (p : Given Parameters) :
    Effect (w.environments.get r).name (w.environments.get r).source (holding r w) x
      (holding r (x.start p w).2) (x.start p w).1 (w.disposals (x.start p w).2) := by
  have free := sound.rested rested
  have blank : ¬x.adapter.model.isSome = true := fun model => by
    rw [(sound.model model).1] at free
    cases free
  have step := SharedEnvironment.turn_step has .acquire
  unfold start
  have opened := GurobiAdapter.start_opened (w := w) sound.handle p
  generalize (GurobiAdapter.start p).run (x.adapter, w) = result at opened ⊢
  cases opened with
  | absent missing =>
      dsimp only
      rw [(Std.Refl.refl w : w.Grows (fun _ => False) w).disposals_eq_nil nofun]
      exact .keeps rfl fun model => absurd model blank
  | refused present answer =>
      have grown := SharedEnvironment.along_acquire (r := r) w
      dsimp only
      rw [show w.disposals (after r .acquire w) = [] from
        grown.disposals_eq_nil fun _ => Event.disposes?_of_isAsking, step.acquire_fails rfl answer]
      exact .keeps rfl fun model => absurd model blank
  | @holds env reply t present answer environment acquired along =>
      have quiet : (turn r .acquire w).disposed = [] := (step.acquire_adds rfl answer).2.2
      have same : holding r t.2 = holding r (after r .acquire w) :=
        GurobiAdapter.holding_of_kept along.handle
      dsimp only
      rw [GurobiAdapter.disposals_of_holds along, same, ← quiet]
      refine .joins free acquired step rfl answer ?_
      rw [GurobiAdapter.models_of_holds along]
      rfl

theorem close_effect (has : w.Has r) (sound : x.Sound r (holding r w).environment) :
    Effect (w.environments.get r).name (w.environments.get r).source (holding r w) x
      (holding r (x.close w).2) (x.close w).1 (w.disposals (x.close w).2) := by
  unfold close
  have closed := GurobiAdapter.close_closed (w := w) sound.handle
  have disposing : w.Grows (fun e => e.disposes? = none)
      (w.afterCall (.gurobi .disposeModel)) :=
    grows_afterCall (P := fun e => e.disposes? = none) rfl w
  have unloading := GurobiAdapter.along_unloaded (r := r) (P := fun e => e.disposes? = none) rfl
    x.adapter w
  have same : holding r (x.adapter.unloaded w) = holding r w :=
    GurobiAdapter.holding_of_kept unloading.handle
  generalize GurobiAdapter.close.run (x.adapter, w) = result at closed ⊢
  cases closed with
  | stuck model fault =>
      dsimp only
      rw [disposing.disposals_eq_nil fun _ => id]
      exact .keeps rfl fun model => ⟨model, rfl⟩
  | idle free acquired =>
      dsimp only
      rw [unloading.disposals_eq_nil fun _ => id, same]
      exact .keeps rfl nofun
  | releases free acquired answer =>
      have step := SharedEnvironment.turn_step (unloading.has has) .release
      rw [same, unloading.handle.name, unloading.handle.source] at step
      dsimp only
      have released : (x.adapter.unloaded w).Grows _ (after r .release (x.adapter.unloaded w)) :=
        (SharedEnvironment.perform_along (r := r) .release _).toGrows
      rw [unloading.disposals_trans released, unloading.disposals_eq_nil fun _ => id]
      exact .leaves acquired rfl rfl step rfl

/-- After a start the member is not rested. It is a holder if the module was found and the handle
gave an environment, whatever failed after that. -/
theorem start_flags (held : x.adapter.environment = .proper r) (free : x.adapter.acquired = false)
    (p : Given Parameters) :
    (x.start p w).1.adapter.environment = .proper r ∧ (x.start p w).1.rested = false ∧
      ((x.start p w).1.adapter.acquired = true ↔
        w.gurobi.present = true ∧ (turn r .acquire w).answer.isOk = true) := by
  unfold start
  have opened := GurobiAdapter.start_opened (w := w) held p
  generalize (GurobiAdapter.start p).run (x.adapter, w) = result at opened ⊢
  cases opened with
  | absent missing =>
      refine ⟨held, rfl, fun acquired => ?_, fun found => ?_⟩
      · rw [free] at acquired
        cases acquired
      · rw [missing] at found
        cases found.1
  | refused present answer =>
      refine ⟨held, rfl, fun acquired => ?_, fun found => ?_⟩
      · rw [free] at acquired
        cases acquired
      · rw [answer] at found
        cases found.2
  | holds present answer environment acquired along =>
      refine ⟨environment.trans held, rfl, fun _ => ⟨present, ?_⟩, fun _ => acquired⟩
      rw [answer]
      rfl

/-- A member that is rested after a close holds nothing. -/
theorem close_flags {env : Option Environment} (sound : x.Sound r env) :
    (x.close w).1.adapter.environment = .proper r ∧
      ((x.close w).1.rested = true → (x.close w).1.adapter.acquired = false) := by
  unfold close
  have closed := GurobiAdapter.close_closed (w := w) sound.handle
  generalize GurobiAdapter.close.run (x.adapter, w) = result at closed ⊢
  cases closed with
  | stuck model fault =>
      refine ⟨sound.handle, fun rested => sound.rested ?_⟩
      rw [← rested]
      exact (Bool.or_false _).symm
  | idle free acquired => exact ⟨sound.handle, fun _ => acquired⟩
  | releases free acquired answer => exact ⟨sound.handle, fun _ => rfl⟩

/-- Closing a member that holds nothing does nothing at all to the workspace. -/
theorem close_of_free {env : Option Environment} (sound : x.Sound r env)
    (free : x.adapter.acquired = false) : (x.close w).2 = w := by
  have blank : ¬x.adapter.model.isSome = true := fun model => by
    rw [(sound.model model).1] at free
    cases free
  unfold close
  have closed := GurobiAdapter.close_closed (w := w) sound.handle
  generalize GurobiAdapter.close.run (x.adapter, w) = result at closed ⊢
  cases closed with
  | stuck model fault => exact absurd model blank
  | idle unstuck acquired => exact if_neg blank
  | releases unstuck acquired answer =>
      rw [free] at acquired
      cases acquired

end Member

/-! ## Members around a handle -/

def flagged (members : List Member) : Nat :=
  members.countP fun x => x.adapter.acquired

theorem flagged_set {members : List Member} {i : Nat} {x : Member} (here : members[i]? = some x)
    (x' : Member) :
    flagged (members.set i x') + x.adapter.acquired.toNat =
      flagged members + x'.adapter.acquired.toNat := by
  obtain ⟨inside, same⟩ := List.getElem?_eq_some_iff.1 here
  have counted : x.adapter.acquired = true → 0 < members.countP fun x => x.adapter.acquired :=
    fun acquired => List.countP_pos_iff.2 ⟨x, List.mem_of_getElem? here, acquired⟩
  unfold flagged
  rw [List.countP_set inside, same]
  cases before : x.adapter.acquired with
  | false => cases x'.adapter.acquired <;> simp
  | true =>
      have positive := counted before
      cases x'.adapter.acquired <;> simp <;> omega

theorem flagged_pos {members : List Member} {x : Member} (member : x ∈ members)
    (acquired : x.adapter.acquired = true) : 0 < flagged members :=
  List.countP_pos_iff.2 ⟨x, member, acquired⟩

/-- The handle and the members around it agree: it counts their flags, and its environment is the
one that their models were created on. -/
structure Agree (r : Ref SharedEnvironment) (h : Holding) (members : List Member) : Prop where
  sound : h.Sound
  counted : h.holders = flagged members
  members : ∀ x ∈ members, x.Sound r h.environment

/-- They still agree after any of the things that a start or a close can do, and the environment is
disposed of just if the last flag has gone. -/
theorem Agree.of_effect {r : Ref SharedEnvironment} {h h' : Holding} {members : List Member}
    {name : Value} {source : EnvironmentSource} {i : Nat} {x x' : Member}
    {disposed : List Environment} (agree : Agree r h members) (given : ¬source.GivesNone)
    (here : members[i]? = some x) (handle : x'.adapter.environment = .proper r)
    (rested : x'.rested = true → x'.adapter.acquired = false)
    (effect : x.Effect name source h h' x' disposed) :
    Agree r h' (members.set i x') ∧
      disposed = if 0 < flagged members ∧ flagged (members.set i x') = 0
        then h.environment.toList else [] := by
  have member := List.mem_of_getElem? here
  have proper := agree.members x member
  have changed := flagged_set here x'
  have counted := agree.counted
  cases effect with
  | keeps acquired model =>
      rw [acquired] at changed
      refine ⟨⟨agree.sound, by omega, fun y hy => ?_⟩, (if_neg (by omega)).symm⟩
      rcases List.mem_or_eq_of_mem_set hy with old | rfl
      · exact agree.members y old
      · refine ⟨handle, rested, fun some => ?_⟩
        obtain ⟨before, origin⟩ := model some
        rw [acquired, origin]
        exact proper.model before
  | joins before now step acquire answer origin =>
      obtain ⟨one_more, -, quiet⟩ := step.acquire_adds acquire answer
      obtain ⟨-, given_out, same⟩ := step.acquired given acquire answer
      rw [before, now, Bool.toNat_false, Bool.toNat_true] at changed
      refine ⟨⟨step.sound given agree.sound, by omega, fun y hy => ?_⟩, ?_⟩
      · rcases List.mem_or_eq_of_mem_set hy with old | rfl
        · -- Others hold the environment already, and the new one was given the same.
          refine ⟨(agree.members y old).handle, (agree.members y old).rested, fun some => ?_⟩
          obtain ⟨acquired, made⟩ := (agree.members y old).model some
          have held := flagged_pos old acquired
          rw [made, given_out, same (agree.sound.2 (by omega))]
          exact ⟨acquired, rfl⟩
        · exact ⟨handle, rested, fun _ => ⟨now, by rw [origin, given_out]⟩⟩
      · rw [quiet, if_neg (by omega)]
  | leaves before now model step release =>
      have held := flagged_pos member before
      obtain ⟨one_less, same, -, ended⟩ := step.release_subtracts release (by omega)
      rw [before, now, Bool.toNat_false, Bool.toNat_true] at changed
      refine ⟨⟨step.sound given agree.sound, by omega, fun y hy => ?_⟩, ?_⟩
      · rcases List.mem_or_eq_of_mem_set hy with old | rfl
        · -- One with a model is flagged, so it was not the last one that has left.
          refine ⟨(agree.members y old).handle, (agree.members y old).rested, fun some => ?_⟩
          obtain ⟨acquired, made⟩ := (agree.members y old).model some
          have still := flagged_pos hy acquired
          rw [made, same (by omega)]
          exact ⟨acquired, rfl⟩
        · refine ⟨handle, rested, fun some => ?_⟩
          rw [model] at some
          cases some
      · rw [ended]
        refine if_congr ?_ rfl rfl
        omega

structure Table where
  members : List Member
  workspace : Workspace

/-- A member, by its place, is started or closed. -/
inductive Move where
  | start (i : Nat) (p : Given Parameters)
  | close (i : Nat)

namespace Move

def place : Move → Nat
  | start i _ | close i => i

def act : Move → Member → Workspace → Member × Workspace
  | start _ p, x, w => x.start p w
  | close _, x, w => x.close w

end Move

namespace Table

/-- Nobody sits in a place that is not there, and nothing happens. -/
def perform (t : Table) (m : Move) : Table :=
  match t.members[m.place]? with
  | none => t
  | some x => ⟨t.members.set m.place (m.act x t.workspace).1, (m.act x t.workspace).2⟩

/-- A member may be closed at any time, but started only if it is rested. -/
def Allows (t : Table) : Move → Prop
  | .start i _ => ∃ x, t.members[i]? = some x ∧ x.rested = true
  | .close i => ∃ x, t.members[i]? = some x

/-- The tables that come about when new adapters around a handle that nobody holds are started and
closed, and nobody else uses the handle. -/
inductive Reachable (r : Ref SharedEnvironment) : Table → Prop
  | new {w : Workspace} (n : Nat) (has : w.Has r) (closed : holding r w = ⟨none, 0⟩)
      (given : ¬(w.environments.get r).source.GivesNone) :
      Reachable r ⟨List.replicate n ⟨.make (.proper r), true, none⟩, w⟩
  | move {t : Table} (before : Reachable r t) {m : Move} (allowed : t.Allows m) :
      Reachable r (t.perform m)
  | meanwhile {t : Table} (before : Reachable r t) {w : Workspace} (apart : Apart r t.workspace w) :
      Reachable r ⟨t.members, w⟩

structure Sound (r : Ref SharedEnvironment) (t : Table) : Prop where
  has : t.workspace.Has r
  given : ¬(t.workspace.environments.get r).source.GivesNone
  agree : Agree r (holding r t.workspace) t.members

variable {r : Ref SharedEnvironment} {t : Table}

theorem perform_of_member {m : Move} {x : Member} (here : t.members[m.place]? = some x) :
    t.perform m =
      ⟨t.members.set m.place (m.act x t.workspace).1, (m.act x t.workspace).2⟩ := by
  unfold perform
  rw [here]

theorem Sound.effect (sound : t.Sound r) {m : Move} (allowed : t.Allows m) {x : Member}
    (here : t.members[m.place]? = some x) :
    Member.Effect (t.workspace.environments.get r).name (t.workspace.environments.get r).source
      (holding r t.workspace) x (holding r (m.act x t.workspace).2) (m.act x t.workspace).1
      (t.workspace.disposals (m.act x t.workspace).2) := by
  have proper := sound.agree.members x (List.mem_of_getElem? here)
  cases m with
  | start i p =>
      obtain ⟨x', here', rested⟩ := allowed
      rw [show t.members[i]? = some x from here] at here'
      cases here'
      exact Member.start_effect sound.has proper rested p
  | close i => exact Member.close_effect sound.has proper

theorem Sound.flags (sound : t.Sound r) {m : Move} (allowed : t.Allows m) {x : Member}
    (here : t.members[m.place]? = some x) :
    (m.act x t.workspace).1.adapter.environment = .proper r ∧
      ((m.act x t.workspace).1.rested = true →
        (m.act x t.workspace).1.adapter.acquired = false) := by
  have proper := sound.agree.members x (List.mem_of_getElem? here)
  cases m with
  | start i p =>
      obtain ⟨x', here', rested⟩ := allowed
      rw [show t.members[i]? = some x from here] at here'
      cases here'
      obtain ⟨handle, started, -⟩ := Member.start_flags (w := t.workspace) proper.handle
        (proper.rested rested) p
      refine ⟨handle, fun rested' => ?_⟩
      rw [show (Move.act (.start i p) x t.workspace).1.rested = false from started] at rested'
      cases rested'
  | close i => exact Member.close_flags proper

theorem Allows.member {m : Move} (allowed : t.Allows m) :
    ∃ x, t.members[m.place]? = some x := by
  cases m with
  | start i p =>
      obtain ⟨x, here, -⟩ := allowed
      exact ⟨x, here⟩
  | close i => exact allowed

theorem act_along {x : Member} {w : Workspace} (held : x.adapter.environment = .proper r)
    (m : Move) : Along SharedEnvironment.Lasts r (fun _ => True) w (m.act x w).2 := by
  cases m with
  | start i p => exact (GurobiAdapter.start_opened held p).along.mono fun _ _ => trivial
  | close i => exact (GurobiAdapter.close_closed held).along

theorem Sound.perform (sound : t.Sound r) {m : Move} (allowed : t.Allows m) :
    (t.perform m).Sound r ∧
      t.workspace.disposals (t.perform m).workspace =
        if 0 < flagged t.members ∧ flagged (t.perform m).members = 0
        then (t.workspace.environments.get r).environment.toList else [] := by
  obtain ⟨x, here⟩ := allowed.member
  obtain ⟨handle, rested⟩ := sound.flags allowed here
  obtain ⟨agree, disposed⟩ :=
    sound.agree.of_effect sound.given here handle rested (sound.effect allowed here)
  have along := act_along (r := r) (w := t.workspace)
    (sound.agree.members x (List.mem_of_getElem? here)).handle m
  rw [perform_of_member here]
  refine ⟨⟨along.has sound.has, ?_, agree⟩, disposed⟩
  show ¬((m.act x t.workspace).2.environments.get r).source.GivesNone
  rw [along.handle.source]
  exact sound.given

theorem Reachable.sound (reachable : Reachable r t) : t.Sound r := by
  induction reachable with
  | @new w n has closed given =>
      refine ⟨has, given, ⟨?_, ?_, fun x member => ?_⟩⟩
      · rw [closed]
        exact ⟨nofun, nofun⟩
      · rw [closed]
        exact (List.countP_eq_zero.2 fun x member => by
          rw [List.eq_of_mem_replicate member]
          exact Bool.false_ne_true).symm
      · rw [List.eq_of_mem_replicate member]
        exact ⟨rfl, fun _ => rfl, nofun⟩
  | move before allowed sound => exact (sound.perform allowed).1
  | @meanwhile t before w apart sound =>
      have same : holding r w = holding r t.workspace := GurobiAdapter.holding_of_kept apart.kept
      refine ⟨apart.has sound.has, ?_, ?_⟩
      · show ¬(w.environments.get r).source.GivesNone
        rw [apart.kept.source]
        exact sound.given
      · show Agree r (holding r w) t.members
        rw [same]
        exact sound.agree

/-- What is true of a handle and the adapters around it, and of the moves that they may make. -/
structure Shares (r : Ref SharedEnvironment) (t : Table) : Prop where
  counted : (t.workspace.environments.get r).holders = flagged t.members
  /-- An adapter with a model holds the environment, which is the one the model was created on. -/
  models : ∀ x ∈ t.members, x.adapter.model.isSome = true → x.adapter.acquired = true ∧
    ∃ env, (t.workspace.environments.get r).environment = some env ∧ x.origin = some (some env)
  /-- The environment is disposed of in the move that takes the last flag away, and in no other. -/
  disposed : ∀ m, t.Allows m → t.workspace.disposals (t.perform m).workspace =
    if 0 < flagged t.members ∧ flagged (t.perform m).members = 0
    then (t.workspace.environments.get r).environment.toList else []
  present : 0 < flagged t.members → (t.workspace.environments.get r).isOpen = true
  /-- A close of an adapter that holds nothing does nothing to the handle, or to anything else. -/
  untouched : ∀ i x, t.members[i]? = some x → x.adapter.acquired = false →
    (t.perform (.close i)).workspace = t.workspace
  rested : ∀ x ∈ t.members, x.rested = true → x.adapter.acquired = false
  /-- A start that fails before the environment is acquired leaves the adapter without it. -/
  started : ∀ i p x, t.members[i]? = some x → x.rested = true →
    ∃ x', (t.perform (.start i p)).members[i]? = some x' ∧ (x'.adapter.acquired = true ↔
      t.workspace.gurobi.present = true ∧ (turn r .acquire t.workspace).answer.isOk = true)

theorem Reachable.shares (reachable : Reachable r t) : t.Shares r := by
  have sound := reachable.sound
  have proper := fun i x (here : t.members[i]? = some x) =>
    sound.agree.members x (List.mem_of_getElem? here)
  refine ⟨sound.agree.counted, fun x member some => ?_, fun m allowed => (sound.perform allowed).2,
    fun held => ?_, fun i x here free => ?_, fun x member => (sound.agree.members x member).rested,
    fun i p x here rested => ?_⟩
  · obtain ⟨acquired, origin⟩ := (sound.agree.members x member).model some
    have held := flagged_pos member acquired
    rw [← sound.agree.counted] at held
    obtain ⟨env, live⟩ := Option.isSome_iff_exists.1 (sound.agree.sound.2 held)
    exact ⟨acquired, env, live, origin.trans (congrArg Option.some live)⟩
  · rw [← sound.agree.counted] at held
    exact sound.agree.sound.2 held
  · rw [perform_of_member (m := .close i) here]
    exact Member.close_of_free (proper i x here) free
  · obtain ⟨-, -, acquired⟩ := Member.start_flags (w := t.workspace) (proper i x here).handle
      ((proper i x here).rested rested) p
    obtain ⟨inside, -⟩ := List.getElem?_eq_some_iff.1 here
    refine ⟨_, ?_, acquired⟩
    rw [perform_of_member (m := .start i p) here]
    exact List.getElem?_set_self inside

/-- Two adapters are started, and the first is closed. -/
def sample : Table :=
  (((⟨List.replicate 2 ⟨.make (.proper ⟨0⟩), true, none⟩,
    SharedEnvironment.Sample.pool SharedEnvironment.Sample.steady⟩ : Table).perform
      (.start 0 (.proper .default))).perform (.start 1 (.proper .default))).perform (.close 0)

theorem Reachable.shares_sample :
    flagged sample.members = 1 ∧ Shares ⟨0⟩ sample := by
  have new : Reachable ⟨0⟩ ⟨List.replicate 2 ⟨.make (.proper ⟨0⟩), true, none⟩,
      SharedEnvironment.Sample.pool SharedEnvironment.Sample.steady⟩ :=
    .new 2 Nat.zero_lt_one rfl SharedEnvironment.Sample.steady_givesSome
  have first := new.move (m := .start 0 (.proper .default)) ⟨_, rfl, rfl⟩
  have second := first.move (m := .start 1 (.proper .default)) ⟨_, rfl, rfl⟩
  exact ⟨by decide +kernel, (second.move (m := .close 0) ⟨_, rfl⟩).shares⟩

end Table

end LinearDispatch
