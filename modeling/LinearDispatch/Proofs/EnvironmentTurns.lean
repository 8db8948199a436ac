import LinearDispatch.Proofs.EnvironmentSource

/-!
# What a call on a shared environment does

A handle has three calls, and both of what it calls itself may fail: its source when it is asked for
an environment, and the disposal of one. A `Turn` is one call as it can be seen from outside: how it
ended, and from the journal which environment the source gave and which were to be disposed of.

`Holding.Step` lists all that a turn can do to the environment and the number of holders, and
`turn_step` says that the calls do nothing else. What is proved about the life of an environment
follows from this list.
-/

namespace LinearDispatch

open LinearDispatch.Action Workspace

namespace SharedEnvironment

inductive Call where
  | acquire
  | release
  | close
deriving DecidableEq

/-- Makes a call; only acquiring answers with something. -/
def Call.perform (r : Ref SharedEnvironment) : Call → Action Workspace (Option Environment)
  | acquire => SharedEnvironment.acquire r
  | release => do
    SharedEnvironment.release r
    pure none
  | close => do
    SharedEnvironment.close r
    pure none

/-- One call of a handle, as it is seen from outside. -/
structure Turn where
  call : Call
  answer : Except Failure (Option Environment)
  /-- what the source gave when it was asked in this call -/
  started : Option Environment
  disposed : List Environment

/-- What the source gave: the answer of a call in which it was asked. -/
def startedIn (events : List Event) : Except Failure (Option Environment) → Option Environment
  | .ok env => if events.any Event.asks then env else none
  | .error _ => none

def after (r : Ref SharedEnvironment) (c : Call) (w : Workspace) : Workspace :=
  ((c.perform r).run w).2

def turn (r : Ref SharedEnvironment) (c : Call) (w : Workspace) : Turn where
  call := c
  answer := ((c.perform r).run w).1
  started := startedIn (w.written (after r c w)) ((c.perform r).run w).1
  disposed := w.disposals (after r c w)

/-- What the users of a handle have: the environment, and how many of them there are. -/
structure Holding where
  environment : Option Environment
  holders : Nat

def holding (r : Ref SharedEnvironment) (w : Workspace) : Holding :=
  ⟨(w.environments.get r).environment, (w.environments.get r).holders⟩

/-- All that a call can do to the environment and the number of holders. -/
inductive Holding.Step (name : Value) (source : EnvironmentSource) :
    Holding → Turn → Holding → Prop
  /-- the environment that is there is handed out -/
  | joins {env : Environment} {n : Nat} :
      Step name source ⟨some env, n⟩ ⟨.acquire, .ok (some env), none, []⟩ ⟨some env, n + 1⟩
  | starts {env : Environment} {n : Nat} :
      Step name source ⟨none, n⟩ ⟨.acquire, .ok (some env), some env, []⟩ ⟨some env, n + 1⟩
  /-- the source gives an environment that is none -/
  | startsNothing {n : Nat} (may : source.GivesNone) :
      Step name source ⟨none, n⟩ ⟨.acquire, .ok none, none, []⟩ ⟨none, n + 1⟩
  /-- the source fails -/
  | failsToStart {n : Nat} {e : Failure} :
      Step name source ⟨none, n⟩ ⟨.acquire, .error e, none, []⟩ ⟨none, n⟩
  | overReleases {env : Option Environment} :
      Step name source ⟨env, 0⟩
        ⟨.release, .error (.naming name (.overReleased name.shown)), none, []⟩ ⟨env, 0⟩
  | leaves {env : Option Environment} {n : Nat} :
      Step name source ⟨env, n + 2⟩ ⟨.release, .ok none, none, []⟩ ⟨env, n + 1⟩
  /-- the last holder leaves, and the disposal may fail -/
  | ends {env : Environment} {reply : Except Failure (Option Environment)} :
      Step name source ⟨some env, 1⟩ ⟨.release, reply, none, [env]⟩ ⟨none, 0⟩
  | endsNothing : Step name source ⟨none, 1⟩ ⟨.release, .ok none, none, []⟩ ⟨none, 0⟩
  /-- whoever holds the environment, it is disposed of, which may fail -/
  | closes {env : Environment} {n : Nat} {reply : Except Failure (Option Environment)} :
      Step name source ⟨some env, n⟩ ⟨.close, reply, none, [env]⟩ ⟨none, 0⟩
  | closesNothing {n : Nat} :
      Step name source ⟨none, n⟩ ⟨.close, .ok none, none, []⟩ ⟨none, 0⟩

variable {r : Ref SharedEnvironment} {w : Workspace}

/-! ## The end of an environment -/

/-- In between these environments were to be disposed of, and no source was asked for one. -/
structure Ends (w w' : Workspace) (envs : List Environment) : Prop where
  journal : ∃ more, w'.journal = w.journal ++ more ∧ more.filterMap Event.disposes? = envs ∧
    more.any Event.asks = false

namespace Ends

variable {w w' w'' : Workspace} {envs envs' : List Environment}

theorem of_journal_eq (same : w'.journal = w.journal) : Ends w w' [] :=
  ⟨⟨[], by rw [same, List.append_nil], rfl, rfl⟩⟩

theorem of_logged (logged : w.Logged w') : Ends w w' [] := by
  obtain ⟨records, quiet, rfl⟩ := logged
  refine ⟨⟨records, rfl, ?_, ?_⟩⟩
  · exact filterMap_records (fun _ => Event.disposes?_of_isLog) quiet
  · exact List.any_eq_false.2 fun e he => by simp [Event.asks_of_isLog (quiet e he)]

theorem trans (h : Ends w w' envs) (h' : Ends w' w'' envs') : Ends w w'' (envs ++ envs') := by
  obtain ⟨more, grown, disposed, quiet⟩ := h.journal
  obtain ⟨more', grown', disposed', quiet'⟩ := h'.journal
  refine ⟨⟨more ++ more', ?_, ?_, ?_⟩⟩
  · rw [grown', grown, List.append_assoc]
  · rw [List.filterMap_append, disposed, disposed']
  · rw [List.any_append, quiet, quiet']
    rfl

theorem disposals (h : Ends w w' envs) : w.disposals w' = envs := by
  obtain ⟨more, grown, disposed, -⟩ := h.journal
  rw [Workspace.disposals, written_of_append grown, disposed]

theorem startedIn (h : Ends w w' envs) (answer : Except Failure (Option Environment)) :
    startedIn (w.written w') answer = none := by
  obtain ⟨more, grown, -, quiet⟩ := h.journal
  rw [written_of_append grown]
  cases answer with
  | error e => rfl
  | ok env =>
      rw [SharedEnvironment.startedIn, quiet]
      rfl

end Ends

theorem along_dispose (env : Environment) :
    Within (Along Kept r fun e => e.isEnding = true) (dispose r env) := by
  refine within_bind (within_gets _) fun h => ?_
  cases h.source with
  | gurobi => exact along_call rfl
  | script make dispose =>
      refine within_bind (along_record rfl rfl) fun _ => ?_
      exact within_bind (along_change fun h => ⟨⟨rfl, rfl, Nat.le_refl h.made⟩, rfl, rfl⟩) fun _ =>
        within_check _

theorem dispose_ends (env : Environment) : Ends w ((dispose r env).run w).2 [env] := by
  unfold dispose
  rw [run_bind, look_run]
  dsimp only
  cases (w.environments.get r).source with
  | gurobi =>
      dsimp only
      rw [run_call]
      exact ⟨⟨_, rfl, rfl, rfl⟩⟩
  | script make' dispose' =>
      dsimp only
      rw [run_bind, record_run]
      dsimp only
      rw [run_bind, change_run]
      cases dispose' (w.environments.get r).disposed with
      | none => exact ⟨⟨_, rfl, rfl, rfl⟩⟩
      | some e => exact ⟨⟨_, rfl, rfl, rfl⟩⟩

theorem along_teardown : Within (Along Lasts r fun e => e.isEnding = true) (teardown r) := by
  refine within_bind (within_gets _) fun h => ?_
  cases h.environment with
  | none => exact within_pure ()
  | some env =>
      refine within_bind (along_change fun h => ⟨rfl, rfl, Nat.le_refl h.made⟩) fun _ => ?_
      exact within_bind (along_logShowing _ _ _ _ rfl) fun _ =>
        (along_dispose env).mono fun _ _ => Along.lasts

theorem teardown_run_none (absent : (w.environments.get r).environment = none) :
    (teardown r).run w = (.ok (), w) := by
  unfold teardown
  rw [run_bind, look_run]
  dsimp only
  rw [absent]
  rfl

/-- The handle lets go of the environment, and the log says so, before it is disposed of. -/
theorem teardown_run_some {env : Environment}
    (present : (w.environments.get r).environment = some env) :
    ∃ w₁, (w.alter r fun h => { h with environment := none }).Logged w₁ ∧
      (teardown r).run w = (dispose r env).run w₁ := by
  unfold teardown
  rw [run_bind, look_run]
  dsimp only
  rw [present]
  exact run_logShowing_bind _ _ _ _ (dispose r env) _

theorem teardown_ends :
    Ends w ((teardown r).run w).2 (w.environments.get r).environment.toList := by
  cases present : (w.environments.get r).environment with
  | none =>
      rw [teardown_run_none present]
      exact .of_journal_eq rfl
  | some env =>
      obtain ⟨w₁, logged, ran⟩ := teardown_run_some present
      rw [ran]
      have letGo : Ends w (w.alter r fun h => { h with environment := none }) [] :=
        .of_journal_eq rfl
      exact (letGo.trans (.of_logged logged)).trans (dispose_ends env)

theorem teardown_holding (has : w.Has r) :
    holding r ((teardown r).run w).2 = ⟨none, (w.environments.get r).holders⟩ := by
  cases present : (w.environments.get r).environment with
  | none => rw [teardown_run_none present, holding, present]
  | some env =>
      obtain ⟨w₁, ⟨records, -, rfl⟩, ran⟩ := teardown_run_some present
      rw [ran]
      have kept := (along_dispose (r := r) env
        { w.alter r (fun h => { h with environment := none }) with
          journal :=
            (w.alter r fun h => { h with environment := none }).journal ++ records }).handle
      rw [holding, kept.environment, kept.holders, get_alter has]

/-- Once nobody holds the environment any more, it is ended. -/
theorem teardown_emptied (has : w.Has r) {w₁ : Workspace} (told : Ends w w₁ [])
    (cells : w₁.environments = w.environments) {f : SharedEnvironment → SharedEnvironment}
    (same : (f (w.environments.get r)).environment = (w.environments.get r).environment)
    (nobody : (f (w.environments.get r)).holders = 0) :
    holding r ((teardown r).run (w₁.alter r f)).2 = ⟨none, 0⟩ ∧
      Ends w ((teardown r).run (w₁.alter r f)).2 (w.environments.get r).environment.toList ∧
      ((w.environments.get r).environment = none →
        ((teardown r).run (w₁.alter r f)).1 = .ok ()) := by
  have has₁ : w₁.Has r := by
    unfold Has
    rw [cells]
    exact has
  have put : (w₁.alter r f).environments.get r = f (w.environments.get r) := by
    rw [get_alter has₁, cells]
  have ended := teardown_ends (r := r) (w := w₁.alter r f)
  have emptied := teardown_holding (has₁.alter f)
  rw [put] at ended emptied
  rw [same] at ended
  rw [nobody] at emptied
  have unheard : Ends w₁ (w₁.alter r f) [] := .of_journal_eq rfl
  refine ⟨emptied, (told.trans unheard).trans ended, fun absent => ?_⟩
  rw [teardown_run_none]
  rw [put, same, absent]

/-! ## Releasing and closing -/

theorem release_run_zero (none : (w.environments.get r).holders = 0) :
    (release r).run w = (.error (.naming (w.environments.get r).name
      (.overReleased (w.environments.get r).name.shown)), w) := by
  unfold release
  rw [run_bind, look_run]
  dsimp only
  rw [if_pos none]
  rfl

theorem release_run_one (one : (w.environments.get r).holders = 1) :
    (release r).run w =
      (teardown r).run (w.alter r fun h => { h with holders := h.holders - 1 }) := by
  unfold release
  rw [run_bind, look_run]
  dsimp only
  rw [if_neg (by omega), run_bind, change_run]
  dsimp only
  rw [if_pos one]

theorem release_run_more (more : 1 < (w.environments.get r).holders) :
    (release r).run w = (.ok (), w.alter r fun h => { h with holders := h.holders - 1 }) := by
  unfold release
  rw [run_bind, look_run]
  dsimp only
  rw [if_neg (by omega), run_bind, change_run]
  dsimp only
  rw [if_neg (by omega)]
  rfl

/-- Closing forgets the holders, after a warning if there are some. -/
theorem close_run : ∃ w₁, (close r).run w = (teardown r).run
      (w₁.alter r fun h => { h with holders := 0 }) ∧
    w₁.environments = w.environments ∧ Ends w w₁ [] := by
  unfold close
  rw [run_bind, look_run]
  dsimp only
  split
  · obtain ⟨w₁, logged, ran⟩ := run_logShowing_bind _ _ _ _ (do
      change r fun h => { h with holders := 0 }
      teardown r) w
    exact ⟨w₁, ran, logged.environments_eq, .of_logged logged⟩
  · exact ⟨w, rfl, rfl, .of_journal_eq rfl⟩

/-! ## Acquiring -/

theorem acquire_run_some (has : w.Has r) {env : Environment}
    (present : (w.environments.get r).environment = some env) :
    (acquire r).run w =
      (.ok (some env), w.alter r fun h => { h with holders := h.holders + 1 }) := by
  have joined : ((w.alter r fun h => { h with holders := h.holders + 1 }).environments.get
      r).environment = some env := by
    rw [get_alter has]
    exact present
  unfold acquire
  rw [run_bind, look_run]
  dsimp only
  rw [present]
  refine Prod.ext ?_ rfl
  exact congrArg Except.ok joined

/-- The workspace where the handle has got what its source gave, and one holder more. -/
def settled (w : Workspace) (r : Ref SharedEnvironment) (env : Option Environment) : Workspace :=
  (w.alter r fun h => { h with environment := env }).alter r
    fun h => { h with holders := h.holders + 1 }

theorem get_settled (has : w.Has r) (env : Option Environment) :
    (settled w r env).environments.get r = { w.environments.get r with
      environment := env, holders := (w.environments.get r).holders + 1 } := by
  unfold settled
  rw [get_alter (has.alter _), get_alter has]

/-- The environment is stored and the holder counted after the source has given it. -/
theorem acquire_run_none (has : w.Has r)
    (absent : (w.environments.get r).environment = none) :
    ∃ w₁, w.Logged w₁ ∧ (acquire r).run w =
      match (make r).run w₁ with
      | (.ok env, w') => (.ok env, settled w' r env)
      | (.error e, w') => (.error e, w') := by
  obtain ⟨w₁, logged, begun⟩ := run_logShowing_bind [(w.environments.get r).name] .environment
    .debug ("Starting " ++ (w.environments.get r).name.shown ++ " environment") (do
      let env ← make r
      change r fun h => { h with environment := env }
      change r fun h => { h with holders := h.holders + 1 }
      look r (·.environment)) w
  refine ⟨w₁, logged, ?_⟩
  have made := along_make (r := r) w₁
  unfold acquire
  rw [run_bind, look_run]
  dsimp only
  rw [absent, Option.isNone_none, if_pos rfl, begun, run_bind]
  cases asked : (make r).run w₁ with
  | mk reply w' =>
      rw [asked] at made
      cases reply with
      | error e => rfl
      | ok env =>
          refine Prod.ext ?_ rfl
          exact congrArg (fun h => Except.ok h.environment)
            (get_settled (made.has (logged.has has)) env)

theorem along_acquire :
    Within (Along Lasts r fun e => e.isAsking = true) (acquire r) := by
  have joins : Within (Along Lasts r fun e => e.isAsking = true) (do
      change r fun h => { h with holders := h.holders + 1 }
      look r (·.environment)) :=
    within_bind (along_change fun h => ⟨rfl, rfl, Nat.le_refl h.made⟩) fun _ => within_gets _
  refine within_bind (within_gets _) fun h => within_ite ?_ joins
  refine within_bind (along_logShowing _ _ _ _ rfl) fun _ => ?_
  refine within_bind (along_make.mono fun _ _ => Along.lasts) fun env => ?_
  exact within_bind (along_change fun h => ⟨rfl, rfl, Nat.le_refl h.made⟩) fun _ => joins

theorem along_release :
    Within (Along Lasts r fun e => e.isEnding = true) (release r) := by
  refine within_bind (within_gets _) fun h => within_ite (within_fail _) ?_
  refine within_bind (along_change fun h => ⟨rfl, rfl, Nat.le_refl h.made⟩) fun _ => ?_
  exact within_ite along_teardown (within_pure _)

theorem along_close :
    Within (Along Lasts r fun e => e.isEnding = true) (close r) := by
  have ends : Within (Along Lasts r fun e => e.isEnding = true) (do
      change r fun h => { h with holders := 0 }
      teardown r) :=
    within_bind (along_change fun h => ⟨rfl, rfl, Nat.le_refl h.made⟩) fun _ => along_teardown
  refine within_bind (within_gets _) fun h => within_ite ?_ ends
  exact within_bind (along_logShowing _ _ _ _ rfl) fun _ => ends

/-- A call leaves a handle the same handle. -/
theorem perform_along (c : Call) :
    Within (Along Lasts r fun e => e.isAsking || e.isEnding) (c.perform r) := by
  cases c with
  | acquire => exact along_acquire.mono fun w w' a => a.mono fun e he => by simp [he]
  | release =>
      refine within_bind (along_release.mono fun w w' a => a.mono fun e he => ?_) fun _ =>
        within_pure _
      simp [he]
  | close =>
      refine within_bind (along_close.mono fun w w' a => a.mono fun e he => ?_) fun _ =>
        within_pure _
      simp [he]

/-! ## Turns -/

theorem turn_of_ends {c : Call} {envs : List Environment} (ends : Ends w (after r c w) envs) :
    turn r c w = ⟨c, ((c.perform r).run w).1, none, envs⟩ := by
  rw [turn, ends.disposals, ends.startedIn]

theorem run_then_none (x : Action Workspace Unit) :
    (do x; pure none : Action Workspace (Option Environment)).run w =
      ((x.run w).1.map fun _ => none, (x.run w).2) := by
  rw [run_bind]
  cases x.run w with
  | mk reply w' => cases reply <;> rfl

theorem step_acquire (has : w.Has r) :
    Holding.Step (w.environments.get r).name (w.environments.get r).source (holding r w)
      (turn r .acquire w) (holding r (after r .acquire w)) := by
  cases present : (w.environments.get r).environment with
  | some env =>
      have ran : (Call.acquire.perform r).run w = _ := acquire_run_some has present
      have left : after r .acquire w = w.alter r fun h => { h with holders := h.holders + 1 } :=
        congrArg Prod.snd ran
      have ends : Ends w (after r .acquire w) [] := by
        rw [left]
        exact .of_journal_eq rfl
      rw [turn_of_ends ends, ran, left, holding, holding, get_alter has, present]
      exact .joins
  | none =>
      obtain ⟨w₁, logged, ran⟩ := acquire_run_none has present
      have made := along_make (r := r) w₁
      have disposed : w.disposals (after r .acquire w) = [] :=
        (along_acquire w).disposals_eq_nil fun _ => Event.disposes?_of_isAsking
      have has₁ := logged.has has
      obtain ⟨records, quiet, rfl⟩ := logged
      cases asked : (make r).run { w with journal := w.journal ++ records } with
      | mk reply w' =>
          rw [asked] at ran made
          have kept := made.handle
          cases reply with
          | error e =>
              have ran' : (Call.acquire.perform r).run w = (.error e, w') := ran
              have left : after r .acquire w = w' := congrArg Prod.snd ran'
              rw [turn, disposed, ran', left, holding, holding, kept.environment, kept.holders,
                present]
              exact .failsToStart
          | ok env =>
              obtain ⟨asks, may, -⟩ := make_returns has₁ asked
              obtain ⟨more, grown, -⟩ := made.journal
              rw [written_of_append grown] at asks
              have ran' : (Call.acquire.perform r).run w = (.ok env, settled w' r env) := ran
              have left : after r .acquire w = settled w' r env := congrArg Prod.snd ran'
              have written : w.written (after r .acquire w) = records ++ more := by
                refine written_of_append ?_
                rw [left, settled, journal_alter, journal_alter, grown, List.append_assoc]
              have started : startedIn (records ++ more) (.ok env) = env := by
                refine if_pos ?_
                rw [List.any_append, asks, Bool.or_true]
              rw [turn, disposed, written, ran', started, left, holding, holding,
                get_settled (made.has has₁), kept.holders, present]
              cases env with
              | none => exact .startsNothing (may rfl)
              | some env => exact .starts

theorem step_release (has : w.Has r) :
    Holding.Step (w.environments.get r).name (w.environments.get r).source (holding r w)
      (turn r .release w) (holding r (after r .release w)) := by
  have ran : (Call.release.perform r).run w =
      (((release r).run w).1.map fun _ => none, ((release r).run w).2) := run_then_none _
  have left : after r .release w = ((release r).run w).2 := congrArg Prod.snd ran
  rcases Nat.lt_trichotomy (w.environments.get r).holders 1 with zero | one | more
  · have nobody : (w.environments.get r).holders = 0 := by omega
    have released := release_run_zero nobody
    rw [released] at left
    have ends : Ends w (after r .release w) [] := by
      rw [left]
      exact .of_journal_eq rfl
    rw [turn_of_ends ends, ran, released, left, holding, nobody]
    exact .overReleases
  · have released := release_run_one one
    obtain ⟨emptied, ends, idle⟩ := teardown_emptied has (.of_journal_eq rfl) rfl
      (f := fun h => { h with holders := h.holders - 1 }) rfl (by simp [one])
    rw [released] at left
    rw [← left] at emptied ends
    rw [turn_of_ends ends, ran, released, emptied, holding, one]
    cases present : (w.environments.get r).environment with
    | none =>
        rw [idle present]
        exact .endsNothing
    | some env => exact .ends
  · have released := release_run_more more
    rw [released] at left
    have ends : Ends w (after r .release w) [] := by
      rw [left]
      exact .of_journal_eq rfl
    obtain ⟨n, hn⟩ : ∃ n, (w.environments.get r).holders = n + 2 :=
      ⟨(w.environments.get r).holders - 2, by omega⟩
    rw [turn_of_ends ends, ran, released, left, holding, holding, get_alter has, hn]
    exact .leaves

theorem step_close (has : w.Has r) :
    Holding.Step (w.environments.get r).name (w.environments.get r).source (holding r w)
      (turn r .close w) (holding r (after r .close w)) := by
  have ran : (Call.close.perform r).run w =
      (((close r).run w).1.map fun _ => none, ((close r).run w).2) := run_then_none _
  have left : after r .close w = ((close r).run w).2 := congrArg Prod.snd ran
  obtain ⟨w₁, closed, cells, told⟩ := close_run (r := r) (w := w)
  obtain ⟨emptied, ends, idle⟩ := teardown_emptied has told cells
    (f := fun h => { h with holders := 0 }) rfl rfl
  rw [closed] at left
  rw [← left] at emptied ends
  rw [turn_of_ends ends, ran, closed, emptied, holding]
  cases present : (w.environments.get r).environment with
  | none =>
      rw [idle present]
      exact .closesNothing
  | some env => exact .closes

theorem turn_step (has : w.Has r) (c : Call) :
    Holding.Step (w.environments.get r).name (w.environments.get r).source (holding r w)
      (turn r c w) (holding r (after r c w)) := by
  cases c with
  | acquire => exact step_acquire has
  | release => exact step_release has
  | close => exact step_close has

/-- What a call starts comes from the source in this call, not before. -/
theorem turn_started (has : w.Has r) {c : Call} {env : Environment}
    (started : (turn r c w).started = some env) :
    Gave r (after r c w) env ∧
      ((w.environments.get r).source.NeverRepeats → ¬Gave r w env) := by
  -- Of all the steps only one starts something.
  have seen : c = .acquire ∧ (holding r w).environment = none ∧
      (turn r c w).answer = .ok (some env) := by
    have step := turn_step has c
    have same : (turn r c w).call = c := rfl
    generalize turn r c w = t, holding r w = h, holding r (after r c w) = h' at step started same ⊢
    cases step <;> cases started
    exact ⟨same.symm, rfl, rfl⟩
  obtain ⟨rfl, absent, answer⟩ := seen
  obtain ⟨w₁, logged, ran⟩ := acquire_run_none has absent
  have has₁ := logged.has has
  obtain ⟨records, -, rfl⟩ := logged
  have made := along_make (r := r) { w with journal := w.journal ++ records }
  cases asked : (make r).run { w with journal := w.journal ++ records } with
  | mk reply w' =>
      rw [asked] at ran made
      have answer' : ((acquire r).run w).1 = .ok (some env) := answer
      rw [ran] at answer'
      cases reply with
      | error e => cases answer'
      | ok env' =>
          have left : after r .acquire w = settled w' r env' := congrArg Prod.snd ran
          obtain ⟨-, -, new⟩ := make_returns has₁ asked
          obtain ⟨gave, never⟩ := new env (Except.ok.inj answer')
          rw [left]
          refine ⟨gave.of_lasts ?_ (Nat.le_refl _), never⟩
          rw [get_settled (made.has has₁)]
          exact ⟨rfl, rfl, Nat.le_refl _⟩

end SharedEnvironment

end LinearDispatch
