import LinearDispatch.Proofs.EnvironmentTurns
import LinearDispatch.Proofs.FirstFailure
import Mathlib.Data.List.Nodup

/-!
# The life of an environment

A `Run` of a handle is a sequence of calls made of it, by whomever, while anything else may happen
in between. If the source never gives nothing and never gives the same environment twice, the run
consists of lives: an environment is started, handed out for a while, disposed of once, and only
then is the next one started. The number of holders is the number of those who have come and not
gone since the handle was last closed, and a call that fails leaves no half of its work behind.
`Run.lifecycle` says all this of every state that a run comes to.
-/

namespace LinearDispatch

open LinearDispatch.Action Workspace

namespace SharedEnvironment

namespace Turn

/-- The call has made one holder more. -/
def joins (t : Turn) : Bool :=
  t.call = .acquire && t.answer.isOk

/-- A release that the handle refused, as nobody held the environment. The complaint names the
handle, so it is another one where that name cannot be written. -/
def overReleased (t : Turn) : Bool :=
  t.call = .release && t.disposed.isEmpty &&
    match t.answer with
    | .error (.overReleased _) | .error .notWritable => true
    | _ => false

/-- The call was a release that was not refused, so there is one holder less. -/
def leaves (t : Turn) : Bool :=
  t.call = .release && !t.overReleased

/-- The turn of a release where nobody holds the environment. -/
def refused (name : Value) : Turn :=
  ⟨.release, .error (.naming name (.overReleased name.shown)), none, []⟩

theorem overReleased_refused (name : Value) : (refused name).overReleased = true := by
  unfold refused Failure.naming
  split <;> rfl

end Turn

/-- What becomes of environments: the source gives one, and it is to be disposed of. -/
inductive Milestone where
  | started (env : Environment)
  | disposed (env : Environment)

def Milestone.life (env : Environment) : List Milestone :=
  [.started env, .disposed env]

def Turn.milestones (t : Turn) : List Milestone :=
  t.disposed.map .disposed ++ t.started.toList.map .started

/-! ## Steps -/

/-- There is an environment just when somebody holds it. -/
def Holding.Sound (h : Holding) : Prop :=
  h.environment.isSome = true ↔ 0 < h.holders

namespace Holding.Step

variable {name : Value} {source : EnvironmentSource} {h h' : Holding} {t : Turn}

theorem sound (given : ¬source.GivesNone) (step : Step name source h t h') (hs : h.Sound) :
    h'.Sound := by
  unfold Sound at *
  cases step with
  | startsNothing may => exact absurd may given
  | failsToStart => exact hs
  | overReleases => exact hs
  | leaves =>
      have held := hs.2 (Nat.succ_pos _)
      exact ⟨fun _ => Nat.succ_pos _, fun _ => held⟩
  | _ => simp

/-- Unless the handle is closed, the holders change as the answers say. -/
theorem count (step : Step name source h t h') (stays : t.call ≠ .close) :
    h'.holders + t.leaves.toNat = h.holders + t.joins.toNat := by
  cases step with
  | closes | closesNothing => exact absurd rfl stays
  | overReleases =>
      have refused : (Turn.refused name).leaves = false := by
        rw [Turn.leaves, Turn.overReleased_refused, Bool.not_true, Bool.and_false]
      exact congrArg (0 + Bool.toNat ·) refused
  | _ => rfl

theorem closed (step : Step name source h t h') (close : t.call = .close) : h' = ⟨none, 0⟩ := by
  cases step with
  | closes | closesNothing => rfl
  | _ => cases close

/-- The milestones of a call end the life that had begun before it, or begin one. -/
theorem milestones (step : Step name source h t h') :
    h.environment.toList.map .started ++ t.milestones =
      t.disposed.flatMap Milestone.life ++ h'.environment.toList.map .started := by
  cases step with
  | overReleases | leaves => exact List.append_nil _
  | _ => rfl

theorem environments (step : Step name source h t h') :
    h.environment.toList ++ t.started.toList = t.disposed ++ h'.environment.toList := by
  cases step with
  | overReleases | leaves => exact List.append_nil _
  | _ => rfl

/-- An environment stays until it is disposed of. -/
theorem stays (step : Step name source h t h') {env : Environment}
    (live : h.environment = some env) :
    h'.environment = some env ∨ t.disposed = [env] ∧ h'.environment = none := by
  cases step with
  | joins | overReleases | leaves => exact .inl live
  | ends | closes =>
      cases live
      exact .inr ⟨rfl, rfl⟩
  | _ => cases live

/-- What is acquired is the environment that the handle has afterwards, and had before if it had
one. -/
theorem acquired (given : ¬source.GivesNone) (step : Step name source h t h')
    (acquire : t.call = .acquire) {env : Option Environment} (answer : t.answer = .ok env) :
    env.isSome = true ∧ h'.environment = env ∧ (h.environment.isSome = true → h.environment = env)
    := by
  cases step with
  | joins =>
      cases answer
      exact ⟨rfl, rfl, fun _ => rfl⟩
  | starts =>
      cases answer
      exact ⟨rfl, rfl, nofun⟩
  | startsNothing may => exact absurd may given
  | failsToStart => cases answer
  | _ => cases acquire

theorem acquire_adds (step : Step name source h t h') (acquire : t.call = .acquire)
    {env : Option Environment} (answer : t.answer = .ok env) :
    h'.holders = h.holders + 1 ∧ h'.environment = env ∧ t.disposed = [] := by
  cases step with
  | joins | starts | startsNothing =>
      cases answer
      exact ⟨rfl, rfl, rfl⟩
  | failsToStart => cases answer
  | _ => cases acquire

theorem acquire_fails (step : Step name source h t h') (acquire : t.call = .acquire) {e : Failure}
    (answer : t.answer = .error e) : h' = h := by
  cases step with
  | failsToStart => rfl
  | joins | starts | startsNothing => cases answer
  | _ => cases acquire

theorem release_refused (step : Step name source h t h') (release : t.call = .release)
    (nobody : h.holders = 0) :
    t.answer = .error (.naming name (.overReleased name.shown)) ∧ t.overReleased = true ∧
      h' = h := by
  cases step with
  | overReleases => exact ⟨rfl, Turn.overReleased_refused name, rfl⟩
  | leaves | ends | endsNothing => cases nobody
  | _ => cases release

/-- A release by one of the holders. The environment is disposed of if it was the last of them. -/
theorem release_subtracts (step : Step name source h t h') (release : t.call = .release)
    (held : 0 < h.holders) :
    h'.holders + 1 = h.holders ∧ (0 < h'.holders → h'.environment = h.environment) ∧
      (h'.holders = 0 → h'.environment = none) ∧
      t.disposed = if h'.holders = 0 then h.environment.toList else [] := by
  cases step with
  | overReleases => cases held
  | leaves => exact ⟨rfl, fun _ => rfl, nofun, rfl⟩
  | ends | endsNothing => exact ⟨rfl, nofun, fun _ => rfl, rfl⟩
  | _ => cases release

/-- A release or a close that fails, other than by being refused, fails in the disposal. -/
theorem ending_fails (step : Step name source h t h') (ending : t.call ≠ .acquire) {e : Failure}
    (answer : t.answer = .error e) (taken : t.overReleased = false) :
    h.environment.isSome = true ∧ t.disposed = h.environment.toList ∧ h' = ⟨none, 0⟩ := by
  cases step with
  | overReleases =>
      have refused := Turn.overReleased_refused name
      rw [show Turn.overReleased (Turn.refused name) = false from taken] at refused
      cases refused
  | ends | closes => exact ⟨rfl, rfl, rfl⟩
  | leaves | endsNothing | closesNothing => cases answer
  | _ => exact absurd rfl ending

end Holding.Step

/-! ## Runs -/

/-- The calls that are made of a handle, in order, and the workspace before each of them. What
else is done between two calls does not concern the handle. -/
structure Run (r : Ref SharedEnvironment) where
  calls : Nat → Call
  states : Nat → Workspace
  exists_handle : (states 0).Has r
  apart : ∀ n, Apart r (after r (calls n) (states n)) (states (n + 1))

namespace Run

variable {r : Ref SharedEnvironment}

/-- The run where nothing else is done. -/
def alone (calls : Nat → Call) (w : Workspace) (has : w.Has r) : Run r where
  calls := calls
  states := Nat.rec w fun n w => after r (calls n) w
  exists_handle := has
  apart _ := Std.Refl.refl _

variable (run : Run r)

def holding (n : Nat) : Holding :=
  SharedEnvironment.holding r (run.states n)

def turn (n : Nat) : Turn :=
  SharedEnvironment.turn r (run.calls n) (run.states n)

def turns (n : Nat) : List Turn :=
  (List.range n).map run.turn

def source : EnvironmentSource :=
  ((run.states 0).environments.get r).source

theorem lasts (n : Nat) : ((run.states n).environments.get r).Lasts
    ((run.states (n + 1)).environments.get r) :=
  Trans.trans (perform_along (run.calls n) (run.states n)).handle (run.apart n).kept.toLasts

theorem created_le (n : Nat) :
    (run.states n).gurobi.created ≤ (run.states (n + 1)).gurobi.created :=
  Nat.le_trans (perform_along (r := r) (run.calls n) (run.states n)).created (run.apart n).created

theorem has (n : Nat) : (run.states n).Has r := by
  induction n with
  | zero => exact run.exists_handle
  | succ n ih => exact (run.apart n).has ((perform_along (run.calls n) (run.states n)).has ih)

theorem source_eq (n : Nat) : ((run.states n).environments.get r).source = run.source := by
  induction n with
  | zero => rfl
  | succ n ih => rw [(run.lasts n).source, ih]

theorem step (n : Nat) : Holding.Step ((run.states n).environments.get r).name run.source
    (run.holding n) (run.turn n) (run.holding (n + 1)) := by
  have taken := turn_step (run.has n) (run.calls n)
  have kept := (run.apart n).kept
  have same : SharedEnvironment.holding r (after r (run.calls n) (run.states n)) =
      run.holding (n + 1) := by
    rw [holding, SharedEnvironment.holding, SharedEnvironment.holding, kept.environment,
      kept.holders]
  rw [run.source_eq, same] at taken
  exact taken

theorem turns_succ (n : Nat) : run.turns (n + 1) = run.turns n ++ [run.turn n] := by
  rw [turns, List.range_succ, List.map_append]
  rfl

theorem gave_mono {n m : Nat} (le : n ≤ m) {env : Environment} (gave : Gave r (run.states n) env) :
    Gave r (run.states m) env := by
  induction le with
  | refl => exact gave
  | step _ ih => exact ih.of_lasts (run.lasts _) (run.created_le _)

theorem started_new (fresh : run.source.NeverRepeats) {n : Nat} {env : Environment}
    (started : (run.turn n).started = some env) :
    Gave r (run.states (n + 1)) env ∧ ¬Gave r (run.states n) env := by
  obtain ⟨gave, never⟩ := turn_started (run.has n) started
  rw [run.source_eq] at never
  exact ⟨gave.of_lasts (run.apart n).kept.toLasts (run.apart n).created, never fresh⟩

end Run

/-! ## Lives -/

/-- The calls since the handle was last closed, the latest first. -/
def sinceClose (turns : List Turn) : List Turn :=
  turns.reverse.takeWhile fun t => t.call ≠ .close

theorem sinceClose_concat (turns : List Turn) (t : Turn) :
    sinceClose (turns ++ [t]) = if t.call = .close then [] else t :: sinceClose turns := by
  unfold sinceClose
  rw [List.reverse_append, List.reverse_singleton, List.singleton_append, List.takeWhile_cons]
  by_cases close : t.call = .close
  · simp [close]
  · simp [close]

/-- What stands after the first calls of a handle, and what any further call would do. -/
structure Lifecycle (r : Ref SharedEnvironment) (turns : List Turn) (w : Workspace) : Prop where
  isOpen_iff : (w.environments.get r).isOpen = true ↔ 0 < (w.environments.get r).holders
  counted : (w.environments.get r).holders + (sinceClose turns).countP Turn.leaves =
    (sinceClose turns).countP Turn.joins
  /-- One life after the other, and the last one may not have ended. -/
  alternates : turns.flatMap Turn.milestones =
    (turns.flatMap Turn.disposed).flatMap Milestone.life ++
      (w.environments.get r).environment.toList.map .started
  once : (turns.flatMap Turn.disposed ++ (w.environments.get r).environment.toList).Nodup
  acquires : ∀ env, (turn r .acquire w).answer = .ok env → env.isSome = true ∧
    (holding r (after r .acquire w)).environment = env ∧
    ((w.environments.get r).isOpen = true → (w.environments.get r).environment = env)
  acquire_fails : ∀ e, (turn r .acquire w).answer = .error e →
    holding r (after r .acquire w) = holding r w
  release_refused : (w.environments.get r).holders = 0 →
    (turn r .release w).answer = .error (.naming (w.environments.get r).name
        (.overReleased (w.environments.get r).name.shown)) ∧
      (turn r .release w).overReleased = true ∧ holding r (after r .release w) = holding r w
  /-- A disposal that fails is not made good, and nobody holds the handle any more. -/
  ending_fails : ∀ c e, c ≠ .acquire → (turn r c w).answer = .error e →
    (turn r c w).overReleased = false → (w.environments.get r).isOpen = true ∧
      (turn r c w).disposed = (w.environments.get r).environment.toList ∧
      holding r (after r c w) = ⟨none, 0⟩

namespace Run

variable {r : Ref SharedEnvironment} (run : Run r)

theorem sound (closed : run.holding 0 = ⟨none, 0⟩) (given : ¬run.source.GivesNone) (n : Nat) :
    (run.holding n).Sound := by
  induction n with
  | zero =>
      rw [closed]
      exact ⟨nofun, nofun⟩
  | succ n ih => exact (run.step n).sound given ih

theorem counted (closed : run.holding 0 = ⟨none, 0⟩) (n : Nat) :
    (run.holding n).holders + (sinceClose (run.turns n)).countP Turn.leaves =
      (sinceClose (run.turns n)).countP Turn.joins := by
  induction n with
  | zero =>
      rw [closed]
      rfl
  | succ n ih =>
      rw [turns_succ, sinceClose_concat]
      by_cases close : (run.turn n).call = .close
      · rw [if_pos close, (run.step n).closed close]
        rfl
      · have changed := (run.step n).count close
        have one (b : Bool) : b.toNat = if b = true then 1 else 0 := by cases b <;> rfl
        rw [if_neg close, List.countP_cons, List.countP_cons]
        rw [one, one] at changed
        omega

theorem alternates (closed : run.holding 0 = ⟨none, 0⟩) (n : Nat) :
    (run.turns n).flatMap Turn.milestones =
      ((run.turns n).flatMap Turn.disposed).flatMap Milestone.life ++
        (run.holding n).environment.toList.map .started := by
  induction n with
  | zero =>
      rw [closed]
      rfl
  | succ n ih =>
      rw [turns_succ, List.flatMap_append, List.flatMap_append, List.flatMap_append, ih,
        List.append_assoc, List.append_assoc, List.flatMap_singleton, List.flatMap_singleton,
        (run.step n).milestones]

/-- Every environment was given before and none is there twice, as each was new when it was
started. -/
theorem once (closed : run.holding 0 = ⟨none, 0⟩) (fresh : run.source.NeverRepeats) (n : Nat) :
    ((run.turns n).flatMap Turn.disposed ++ (run.holding n).environment.toList).Nodup ∧
      ∀ env ∈ (run.turns n).flatMap Turn.disposed ++ (run.holding n).environment.toList,
        Gave r (run.states n) env := by
  induction n with
  | zero =>
      rw [closed]
      exact ⟨List.nodup_nil, nofun⟩
  | succ n ih =>
      obtain ⟨distinct, gave⟩ := ih
      -- All that have been started so far, the one that is there last.
      have lives : (run.turns (n + 1)).flatMap Turn.disposed ++
            (run.holding (n + 1)).environment.toList =
          (run.turns n).flatMap Turn.disposed ++ (run.holding n).environment.toList ++
            (run.turn n).started.toList := by
        rw [turns_succ, List.flatMap_append, List.flatMap_singleton, List.append_assoc,
          List.append_assoc, (run.step n).environments]
      rw [lives]
      cases started : (run.turn n).started with
      | none =>
          rw [Option.toList_none, List.append_nil]
          exact ⟨distinct, fun env he => run.gave_mono (Nat.le_succ n) (gave env he)⟩
      | some new =>
          -- The others were given before this call, and this one was not.
          obtain ⟨now, before⟩ := run.started_new fresh started
          refine ⟨List.nodup_append.2 ⟨distinct, List.nodup_singleton new, ?_⟩, fun env he => ?_⟩
          · rintro env he env' he' rfl
            rw [Option.toList_some, List.mem_singleton] at he'
            rw [he'] at he
            exact before (gave new he)
          · rcases List.mem_append.1 he with he | he
            · exact run.gave_mono (Nat.le_succ n) (gave env he)
            · rw [Option.toList_some, List.mem_singleton] at he
              rw [he]
              exact now

theorem lifecycle (closed : run.holding 0 = ⟨none, 0⟩) (given : ¬run.source.GivesNone)
    (fresh : run.source.NeverRepeats) (n : Nat) :
    Lifecycle r (run.turns n) (run.states n) := by
  have given' : ¬((run.states n).environments.get r).source.GivesNone := by
    rw [run.source_eq]
    exact given
  have next := turn_step (run.has n)
  exact {
    isOpen_iff := run.sound closed given n
    counted := run.counted closed n
    alternates := run.alternates closed n
    once := (run.once closed fresh n).1
    acquires := fun env answer => (next .acquire).acquired given' rfl answer
    acquire_fails := fun e answer => (next .acquire).acquire_fails rfl answer
    release_refused := fun nobody => (next .release).release_refused rfl nobody
    ending_fails := fun c e ending answer taken => (next c).ending_fails ending answer taken }

end Run

/-! ## A short run -/

namespace Sample

/-- A workspace with one handle. -/
def pool (source : EnvironmentSource) : Workspace :=
  { LinearDispatch.Sample.workspace .binary with
    environments := ⟨#[.new (.text "pool") source]⟩ }

/-- Fails when it is first asked, and at the first disposal. -/
def shaky : EnvironmentSource :=
  .script
    (fun n => if n = 0 then .error (.foreign .runtime "no seat") else .ok (some (.native n)))
    (fun n => if n = 0 then some (.foreign .runtime "no end") else none)

theorem shaky_neverRepeats : shaky.NeverRepeats := by
  intro n m env hn hm
  dsimp only at hn hm
  split at hn
  · cases hn
  · split at hm
    · cases hm
    · cases hn
      cases hm
      rfl

theorem shaky_givesSome : ¬shaky.GivesNone := by
  rintro ⟨n, hn⟩
  dsimp only at hn
  split at hn
  · cases hn
  · cases hn

/-- The source fails, two holders come and go, the disposal fails, and somebody comes again. -/
def visits : Run ⟨0⟩ :=
  .alone (fun n => [.acquire, .acquire, .acquire, .release, .release, .acquire].getD n .close)
    (pool shaky) Nat.zero_lt_one

end Sample

theorem Run.lifecycle_visits :
    Sample.visits.holding 0 = ⟨none, 0⟩ ∧ Sample.visits.holding 6 = ⟨some (.native 2), 1⟩ ∧
      Lifecycle ⟨0⟩ (Sample.visits.turns 6) (Sample.visits.states 6) :=
  ⟨rfl, rfl, Sample.visits.lifecycle rfl Sample.shaky_givesSome Sample.shaky_neverRepeats 6⟩

end SharedEnvironment

end LinearDispatch
