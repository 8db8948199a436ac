import LinearDispatch.Proofs.EnvironmentLives

/-!
# Environments that are stranded

An environment of Gurobi exists as soon as it was created, and it is silenced and started before the
handle gets it. If one of these two calls fails, the environment is there, but nobody has it: the
handle stays closed and can dispose of nothing. Such an environment is stranded.

This file keeps the books of a run, by the numbers of the environments. Each that came to exist was
disposed of, is the one that the handle has, or was stranded, and only such a start strands one.
`Starting` says how a start ends, `Accounts` what a call adds to the books and `Run.balance` that
they balance after any number of calls.
-/

namespace LinearDispatch

open LinearDispatch.Action Workspace

def Environment.serial? : Environment → Option Nat
  | .native serial => some serial
  | .custom _ => none

/-- The number of the environment that a call creates. -/
def NativeCall.creates? : NativeCall → Option Nat
  | .gurobi (.createEnvironment serial) => some serial
  | _ => none

theorem Event.creates?_of_isEnding {e : Event} (h : e.isEnding = true) :
    e.native?.bind NativeCall.creates? = none := by
  unfold isEnding at h
  split at h
  all_goals first
    | rfl
    | cases h

namespace Workspace

/-- The environments that calls have created, where the first of them is call number `k`. A call
that fails has created none. -/
def createdBy (faults : Nat → NativeCall → Option Failure) : Nat → List NativeCall → List Nat
  | _, [] => []
  | k, c :: rest =>
    (c.creates?.filter fun _ => (faults k c).isNone).toList ++ createdBy faults (k + 1) rest

/-- The environments that came to exist in between. -/
def createdIn (w w' : Workspace) : List Nat :=
  createdBy w.faults w.nativeCalls ((w.written w').filterMap Event.native?)

theorem createdIn_of_journal {w w' : Workspace} {more : List Event}
    (h : w'.journal = w.journal ++ more) :
    w.createdIn w' = createdBy w.faults w.nativeCalls (more.filterMap Event.native?) := by
  rw [createdIn, written_of_append h]

theorem createdBy_eq_nil {faults : Nat → NativeCall → Option Failure} {calls : List NativeCall}
    (none : ∀ c ∈ calls, c.creates? = none) (k : Nat) : createdBy faults k calls = [] := by
  induction calls generalizing k with
  | nil => rfl
  | cons c rest ih =>
      rw [createdBy, none c List.mem_cons_self,
        ih (fun c' mem => none c' (List.mem_cons_of_mem c mem))]
      rfl

end Workspace

namespace SharedEnvironment

variable {r : Ref SharedEnvironment} {w : Workspace}

/-! ## Starting Gurobi -/

/-- The three calls that start an environment. -/
def creating (w : Workspace) : NativeCall :=
  .gurobi (.createEnvironment (w.gurobi.created + 1))

def silencing : NativeCall :=
  .gurobi (.setEnvironmentParameter "OutputFlag" 0)

def starting : NativeCall :=
  .gurobi .startEnvironment

@[simp] theorem creates?_creating (w : Workspace) :
    (creating w).creates? = some (w.gurobi.created + 1) := rfl

@[simp] theorem creates?_silencing : silencing.creates? = none := rfl

@[simp] theorem creates?_starting : starting.creates? = none := rfl

/-- One environment more was counted. -/
def counted (w : Workspace) : Workspace :=
  { w with gurobi := { w.gurobi with created := w.gurobi.created + 1 } }

def afterCreating (w : Workspace) : Workspace :=
  (counted w).afterCall (creating w)

def afterSilencing (w : Workspace) : Workspace :=
  (afterCreating w).afterCall silencing

def afterStarting (w : Workspace) : Workspace :=
  (afterSilencing w).afterCall starting

/-- How starting Gurobi ends. When it is not silenced or not started, an environment exists that
nobody is given. -/
inductive Starting (w : Workspace) : Except Failure Environment × Workspace → Prop
  | missing {e' : Failure} (absent : w.gurobi.present = false) : Starting w (.error e', w)
  | refused {e e' : Failure} (fault : w.faults w.nativeCalls (creating w) = some e) :
      Starting w (.error e', afterCreating w)
  | unsilenced {e e' : Failure} (present : w.gurobi.present = true)
      (created : w.faults w.nativeCalls (creating w) = none)
      (fault : w.faults (w.nativeCalls + 1) silencing = some e) :
      Starting w (.error e', afterSilencing w)
  | unstarted {e e' : Failure} (present : w.gurobi.present = true)
      (created : w.faults w.nativeCalls (creating w) = none)
      (fault : w.faults (w.nativeCalls + 2) starting = some e) :
      Starting w (.error e', afterStarting w)
  | started (created : w.faults w.nativeCalls (creating w) = none)
      (silenced : w.faults (w.nativeCalls + 1) silencing = none)
      (fine : w.faults (w.nativeCalls + 2) starting = none) :
      Starting w (.ok (.native (w.gurobi.created + 1)), afterStarting w)

theorem call_made {c : NativeCall} (fine : w.faults w.nativeCalls c = none) :
    (call c).run w = (.ok (), w.afterCall c) := by
  rw [run_call, fine]

theorem call_fails {c : NativeCall} {e : Failure} (fault : w.faults w.nativeCalls c = some e) :
    (call c).run w = (.error e, w.afterCall c) := by
  rw [run_call, fault]

theorem createEnvironment_run (w : Workspace) :
    GurobiService.createEnvironment.run w = (do
      call (creating w)
      pure (.native (w.gurobi.created + 1)) : Action Workspace Environment).run (counted w) :=
  rfl

/-- What a failed start says does not matter to how it ended. -/
theorem Starting.fails {e e' : Failure} {w' : Workspace} (h : Starting w (.error e, w')) :
    Starting w (.error e', w') := by
  cases h with
  | missing absent => exact .missing absent
  | refused fault => exact .refused fault
  | unsilenced present created fault => exact .unsilenced present created fault
  | unstarted present created fault => exact .unstarted present created fault

/-- The three calls, before a failure among them is reported. -/
theorem calls_starting (present : w.gurobi.present = true) :
    Starting w ((do
      let env ← GurobiService.createEnvironment
      call silencing
      call starting
      pure env : Action Workspace Environment).run w) := by
  rw [run_bind, createEnvironment_run, run_bind]
  cases created : w.faults w.nativeCalls (creating w) with
  | some e =>
      rw [call_fails (w := counted w) created]
      exact .refused created
  | none =>
      rw [call_made (w := counted w) created, ← afterCreating]
      dsimp only [run_pure]
      rw [run_bind]
      cases silenced : w.faults (w.nativeCalls + 1) silencing with
      | some e =>
          rw [call_fails (w := afterCreating w) silenced]
          exact .unsilenced present created silenced
      | none =>
          rw [call_made (w := afterCreating w) silenced, ← afterSilencing]
          dsimp only
          rw [run_bind]
          cases started : w.faults (w.nativeCalls + 2) starting with
          | some e =>
              rw [call_fails (w := afterSilencing w) started]
              exact .unstarted present created started
          | none =>
              rw [call_made (w := afterSilencing w) started]
              exact .started created silenced started

theorem startGurobi_starting (w : Workspace) : Starting w (startGurobi.run w) := by
  unfold startGurobi
  rw [run_bind, locate_run]
  cases present : w.gurobi.present with
  | false => exact .missing present
  | true =>
      have called := calls_starting present
      rw [if_pos rfl]
      dsimp only
      rw [run_bind, run_attempt]
      dsimp only
      unfold silencing starting at called
      generalize Action.run _ w = outcome at called ⊢
      obtain ⟨reply, w'⟩ := outcome
      cases reply with
      | ok env => exact called
      | error e =>
          dsimp only
          split
          · exact called.fails
          · exact called.fails

/-- The start breaks off after the environment was created. -/
def breaksOff (w : Workspace) : Bool :=
  w.gurobi.present && (w.faults w.nativeCalls (creating w)).isNone &&
    ((w.faults (w.nativeCalls + 1) silencing).isSome ||
      (w.faults (w.nativeCalls + 2) starting).isSome)

/-- The environment that a start leaves to nobody. -/
def abandoned (w : Workspace) : List Nat :=
  if breaksOff w then [w.gurobi.created + 1] else []

/-- What came to exist in a start was given to the handle, or it is abandoned. -/
theorem Starting.account {reply : Except Failure Environment} {w' : Workspace}
    (h : Starting w (reply, w')) :
    ∃ calls, w'.journal = w.journal ++ calls.map .native ∧
      createdBy w.faults w.nativeCalls calls =
        reply.toOption.toList.filterMap Environment.serial? ++ abandoned w ∧
      (createdBy w.faults w.nativeCalls calls = [] ∨
        createdBy w.faults w.nativeCalls calls = [w.gurobi.created + 1] ∧
          w'.gurobi.created = w.gurobi.created + 1) := by
  cases h with
  | missing absent =>
      refine ⟨[], (List.append_nil _).symm, ?_, .inl rfl⟩
      simp [abandoned, breaksOff, absent, createdBy, Except.toOption]
  | refused fault =>
      refine ⟨[creating w], rfl, ?_, .inl ?_⟩
      · simp [abandoned, breaksOff, fault, createdBy, Except.toOption]
      · simp [fault, createdBy]
  | unsilenced present created fault =>
      refine ⟨[creating w, silencing], List.append_assoc .., ?_, .inr ⟨?_, rfl⟩⟩
      · simp [abandoned, breaksOff, present, created, fault, createdBy, Except.toOption]
      · simp [created, createdBy]
  | unstarted present created fault =>
      refine ⟨[creating w, silencing, starting], ?_, ?_, .inr ⟨?_, rfl⟩⟩
      · exact (List.append_assoc ..).trans (List.append_assoc ..)
      · simp [abandoned, breaksOff, present, created, fault, createdBy, Except.toOption]
      · simp [created, createdBy]
  | started created silenced fine =>
      refine ⟨[creating w, silencing, starting], ?_, ?_, .inr ⟨?_, rfl⟩⟩
      · exact (List.append_assoc ..).trans (List.append_assoc ..)
      · simp [abandoned, breaksOff, created, silenced, fine, createdBy, Except.toOption,
          Environment.serial?]
      · simp [created, createdBy]

/-! ## One call -/

/-- The call has to start Gurobi. -/
def Starts (r : Ref SharedEnvironment) (c : Call) (w : Workspace) : Prop :=
  c = .acquire ∧ (w.environments.get r).isOpen = false

instance (c : Call) : Decidable (Starts r c w) :=
  inferInstanceAs (Decidable (_ ∧ _))

/-- The environment that a call strands. -/
def strandedIn (r : Ref SharedEnvironment) (c : Call) (w : Workspace) : List Nat :=
  if Starts r c w then abandoned w else []

/-- The account of a call: what it brought into existence was started for the handle or is stranded.
It is one environment at most, the next in number. -/
structure Accounts (r : Ref SharedEnvironment) (c : Call) (w : Workspace) : Prop where
  balanced : w.createdIn (after r c w) =
    (turn r c w).started.toList.filterMap Environment.serial? ++ strandedIn r c w
  numbered : w.createdIn (after r c w) = [] ∨
    w.createdIn (after r c w) = [w.gurobi.created + 1] ∧
      (after r c w).gurobi.created = w.gurobi.created + 1

theorem Holding.Step.started_none {name : Value} {source : EnvironmentSource} {h h' : Holding}
    {t : Turn} (step : Holding.Step name source h t h')
    (idle : ¬(t.call = .acquire ∧ h.environment.isSome = false)) : t.started = none := by
  cases step with
  | starts => exact absurd ⟨rfl, rfl⟩ idle
  | _ => rfl

theorem Holding.Step.started_answer {name : Value} {source : EnvironmentSource} {h h' : Holding}
    {t : Turn} (given : ¬source.GivesNone) (step : Holding.Step name source h t h')
    (acquire : t.call = .acquire) (absent : h.environment = none) :
    t.started = t.answer.toOption.join := by
  cases step with
  | startsNothing may => exact absurd may given
  | starts | failsToStart => rfl
  | joins => cases absent
  | _ => cases acquire

theorem accounts_of_idle {c : Call} (has : w.Has r) (idle : ¬Starts r c w)
    (nothing : w.createdIn (after r c w) = []) : Accounts r c w := by
  have started := (turn_step has c).started_none idle
  refine ⟨?_, .inl nothing⟩
  rw [nothing, started, strandedIn, if_neg idle]
  rfl

/-- Ending an environment creates none. -/
theorem createdIn_of_ending {w' : Workspace} (grows : w.Grows (fun e => e.isEnding = true) w') :
    w.createdIn w' = [] := by
  refine createdBy_eq_nil (fun c called => ?_) _
  obtain ⟨e, written, native⟩ := List.mem_filterMap.1 called
  have silent := Event.creates?_of_isEnding (grows.forall_written e written)
  rw [native] at silent
  exact silent

/-- Acquiring a closed handle is starting Gurobi, and the handle keeps what that returns. -/
theorem acquire_starting (has : w.Has r) (gurobi : (w.environments.get r).source = .gurobi)
    (absent : (w.environments.get r).environment = none) :
    ∃ w₁ reply w', w.Logged w₁ ∧ Starting w₁ (reply, w') ∧
      (turn r .acquire w).answer = reply.map some ∧
      (after r .acquire w).journal = w'.journal ∧ (after r .acquire w).gurobi = w'.gurobi := by
  obtain ⟨w₁, logged, ran⟩ := acquire_run_none has absent
  have began := startGurobi_starting w₁
  rw [← logged.environments_eq] at gurobi
  rw [make_run_gurobi gurobi] at ran
  generalize startGurobi.run w₁ = outcome at began ran
  obtain ⟨reply, w'⟩ := outcome
  refine ⟨w₁, reply, w', logged, began, ?_⟩
  unfold turn after Call.perform
  rw [ran]
  cases reply with
  | ok env => exact ⟨rfl, rfl, rfl⟩
  | error e => exact ⟨rfl, rfl, rfl⟩

theorem acquire_accounts (has : w.Has r) (gurobi : (w.environments.get r).source = .gurobi) :
    Accounts r .acquire w := by
  cases present : (w.environments.get r).environment with
  | some env =>
      have left : after r .acquire w = w.alter r fun h => { h with holders := h.holders + 1 } :=
        congrArg Prod.snd (acquire_run_some has present)
      have same : (after r .acquire w).journal = w.journal := by
        rw [left]
        rfl
      refine accounts_of_idle has (fun starts => ?_) ?_
      · rw [Starts, SharedEnvironment.isOpen, present] at starts
        cases starts.2
      · rw [createdIn_of_journal (same.trans (List.append_nil _).symm)]
        rfl
  | none =>
      obtain ⟨w₁, reply, w', ⟨records, quiet, rfl⟩, began, answer, journal, numbered⟩ :=
        acquire_starting has gurobi present
      obtain ⟨calls, grown, balanced, numbers⟩ := began.account
      have given : ¬(w.environments.get r).source.GivesNone := by
        rw [gurobi]
        exact id
      have started := (turn_step has .acquire).started_answer given rfl present
      have starts : Starts r .acquire w := by
        rw [Starts, SharedEnvironment.isOpen, present]
        exact ⟨rfl, rfl⟩
      have told : (after r .acquire w).journal =
          w.journal ++ (records ++ calls.map .native) := by
        rw [journal, grown, List.append_assoc]
      have created : w.createdIn (after r .acquire w) = createdBy w.faults w.nativeCalls calls := by
        rw [createdIn_of_journal told, List.filterMap_append,
          filterMap_records (fun _ => Event.native?_of_isLog) quiet, List.nil_append,
          List.filterMap_map]
        exact congrArg _ List.filterMap_some
      refine ⟨?_, ?_⟩
      · rw [created, started, answer, strandedIn, if_pos starts]
        cases reply with
        | ok env => exact balanced
        | error e => exact balanced
      · rw [created, numbered]
        exact numbers

theorem accounts (has : w.Has r) (gurobi : (w.environments.get r).source = .gurobi) (c : Call) :
    Accounts r c w := by
  have ending {x : Action Workspace Unit}
      (along : Within (Along Lasts r fun e => e.isEnding = true) x) :
      Within (Along Lasts r fun e => e.isEnding = true) (do
        x
        pure (none : Option Environment)) :=
    within_bind along fun _ => within_pure none
  cases c with
  | acquire => exact acquire_accounts has gurobi
  | release =>
      refine accounts_of_idle has (fun starts => nomatch starts.1) ?_
      exact createdIn_of_ending (ending along_release w).toGrows
  | close =>
      refine accounts_of_idle has (fun starts => nomatch starts.1) ?_
      exact createdIn_of_ending (ending along_close w).toGrows

/-! ## Runs -/

namespace Run

variable (run : Run r)

/-- The environments that came to exist in the first calls. -/
def created (n : Nat) : List Nat :=
  (List.range n).flatMap fun k => (run.states k).createdIn (after r (run.calls k) (run.states k))

def stranded (n : Nat) : List Nat :=
  (List.range n).flatMap fun k => strandedIn r (run.calls k) (run.states k)

/-- Those that were to be disposed of, whether that failed or not. -/
def gone (n : Nat) : List Nat :=
  ((run.turns n).flatMap Turn.disposed).filterMap Environment.serial?

def left (n : Nat) : List Nat :=
  (run.created n).filter fun s => s ∉ run.gone n

/-- The environment that the handle has. -/
def inUse (n : Nat) : List Nat :=
  (run.holding n).environment.toList.filterMap Environment.serial?

theorem accounts (gurobi : run.source = .gurobi) (n : Nat) :
    Accounts r (run.calls n) (run.states n) :=
  SharedEnvironment.accounts (run.has n) ((run.source_eq n).trans gurobi) (run.calls n)

theorem created_succ (n : Nat) : run.created (n + 1) =
    run.created n ++ (run.states n).createdIn (after r (run.calls n) (run.states n)) := by
  rw [created, List.range_succ, List.flatMap_append, List.flatMap_singleton]
  rfl

theorem stranded_succ (n : Nat) :
    run.stranded (n + 1) = run.stranded n ++ strandedIn r (run.calls n) (run.states n) := by
  rw [stranded, List.range_succ, List.flatMap_append, List.flatMap_singleton]
  rfl

theorem gone_succ (n : Nat) : run.gone (n + 1) =
    run.gone n ++ (run.turn n).disposed.filterMap Environment.serial? := by
  rw [gone, turns_succ, List.flatMap_append, List.flatMap_singleton, List.filterMap_append]
  rfl

/-- The books balance, over any number of calls. -/
theorem balance (gurobi : run.source = .gurobi) (closed : run.holding 0 = ⟨none, 0⟩) (n : Nat) :
    (run.created n).Perm (run.gone n ++ (run.inUse n ++ run.stranded n)) := by
  induction n with
  | zero =>
      rw [inUse, closed]
      exact .nil
  | succ n ih =>
      -- What was in use or was started is now disposed of or in use.
      have moved := congrArg (List.filterMap Environment.serial?) (run.step n).environments
      rw [List.filterMap_append, List.filterMap_append] at moved
      rw [created_succ, gone_succ, stranded_succ, (run.accounts gurobi n).balanced]
      refine List.perm_iff_count.2 fun s => ?_
      have before := List.perm_iff_count.1 ih s
      have between := congrArg (List.count s) moved
      simp only [List.count_append] at before between ⊢
      unfold inUse at *
      unfold turn at *
      omega

/-- No environment comes to exist twice, as they are numbered in turn. -/
theorem created_nodup (gurobi : run.source = .gurobi) (n : Nat) :
    (run.created n).Nodup ∧ ∀ s ∈ run.created n, s ≤ (run.states n).gurobi.created := by
  induction n with
  | zero => exact ⟨List.nodup_nil, nofun⟩
  | succ n ih =>
      obtain ⟨distinct, numbered⟩ := ih
      rw [created_succ]
      rcases (run.accounts gurobi n).numbered with nothing | ⟨new, counted⟩
      · rw [nothing, List.append_nil]
        exact ⟨distinct, fun s hs => Nat.le_trans (numbered s hs) (run.created_le n)⟩
      · have later := (run.apart n).created
        rw [new]
        refine ⟨List.nodup_append.2 ⟨distinct, List.nodup_singleton _, ?_⟩, fun s hs => ?_⟩
        · intro s hs s' hs'
          have before := numbered s hs
          have latest := List.mem_singleton.1 hs'
          omega
        · rcases List.mem_append.1 hs with hs | hs
          · exact Nat.le_trans (numbered s hs) (run.created_le n)
          · have latest := List.mem_singleton.1 hs
            omega

/-- The handle has a numbered environment or none. -/
theorem inUse_length (gurobi : run.source = .gurobi) (closed : run.holding 0 = ⟨none, 0⟩)
    (n : Nat) : (run.inUse n).length =
      if ((run.states n).environments.get r).isOpen then 1 else 0 := by
  have fresh : run.source.NeverRepeats := by
    rw [gurobi]
    exact trivial
  have gave := (run.once closed fresh n).2
  unfold inUse SharedEnvironment.isOpen
  have same : (run.holding n).environment = ((run.states n).environments.get r).environment := rfl
  rw [same] at gave ⊢
  cases present : ((run.states n).environments.get r).environment with
  | none => rfl
  | some env =>
      have mine := gave env (by simp [present])
      rw [Gave, (run.source_eq n).trans gurobi] at mine
      obtain ⟨serial, -, rfl⟩ := mine
      rfl

/-- No call makes good for an environment that was stranded. -/
theorem stranded_mono {n m : Nat} (le : n ≤ m) : ∀ s ∈ run.stranded n, s ∈ run.stranded m := by
  induction le with
  | refl => exact fun s hs => hs
  | step _ ih =>
      intro s hs
      rw [stranded_succ]
      exact List.mem_append_left _ (ih s hs)

/-- What has become of the environments that came to exist. -/
structure Inventory (n : Nat) : Prop where
  distinct : (run.created n).Nodup
  disposed : (run.gone n).Nodup ∧ ∀ s ∈ run.gone n, s ∈ run.created n
  left_iff : ∀ s, s ∈ run.left n ↔ s ∈ run.inUse n ∨ s ∈ run.stranded n
  left_count : (run.left n).length =
    (if ((run.states n).environments.get r).isOpen then 1 else 0) + (run.stranded n).length
  /-- Nothing is lost just when no start broke off after its environment was created. -/
  exact_iff : (run.left n).length =
      (if ((run.states n).environments.get r).isOpen then 1 else 0) ↔
    ∀ k < n, ¬(Starts r (run.calls k) (run.states k) ∧ breaksOff (run.states k) = true)
  /-- A stranded environment stays, whatever calls follow. -/
  lost : ∀ m ≥ n, ∀ s ∈ run.stranded n, s ∈ run.left m

theorem left_perm (gurobi : run.source = .gurobi) (closed : run.holding 0 = ⟨none, 0⟩) (n : Nat) :
    (run.left n).Perm (run.inUse n ++ run.stranded n) := by
  have balance := run.balance gurobi closed n
  have distinct := balance.nodup_iff.1 (run.created_nodup gurobi n).1
  have apart := (List.nodup_append.1 distinct).2.2
  refine (balance.filter _).trans (.of_eq ?_)
  rw [List.filter_append, List.filter_eq_nil_iff.2, List.filter_eq_self.2, List.nil_append]
  · intro s hs
    simpa using fun gone => apart s gone s hs rfl
  · intro s hs
    simpa using hs

theorem stranded_eq_nil (n : Nat) : run.stranded n = [] ↔
    ∀ k < n, ¬(Starts r (run.calls k) (run.states k) ∧ breaksOff (run.states k) = true) := by
  rw [stranded, List.flatMap_eq_nil_iff]
  refine forall_congr' fun k => ?_
  rw [List.mem_range, strandedIn, abandoned]
  by_cases starts : Starts r (run.calls k) (run.states k)
  · by_cases breaks : breaksOff (run.states k) = true
    · simp [starts, breaks]
    · simp [starts, breaks]
  · simp [starts]

/-- Only a start that breaks off leaves an environment that nobody has. -/
theorem environments_left (gurobi : run.source = .gurobi) (closed : run.holding 0 = ⟨none, 0⟩)
    (n : Nat) : run.Inventory n := by
  have distinct := (run.created_nodup gurobi n).1
  have balance := run.balance gurobi closed n
  have left (m : Nat) := run.left_perm gurobi closed m
  have count := (left n).length_eq
  rw [List.length_append, run.inUse_length gurobi closed] at count
  exact {
    distinct
    disposed := ⟨(List.nodup_append.1 (balance.nodup_iff.1 distinct)).1,
      fun s hs => balance.mem_iff.2 (List.mem_append_left _ hs)⟩
    left_iff := fun s => (left n).mem_iff.trans List.mem_append
    left_count := count
    exact_iff := by
      rw [count, ← run.stranded_eq_nil, ← List.length_eq_zero_iff]
      omega
    lost := fun m le s hs =>
      (left m).mem_iff.2 (List.mem_append_right _ (run.stranded_mono le s hs)) }

end Run

namespace Sample

/-- Gurobi has no licence when it is started for the first time. -/
def unlicensed : Workspace :=
  { pool .gurobi with
    faults := fun k _ => if k = 2 then some (.foreign .gurobi "no licence") else none }

/-- The first start fails, and the second one does not. -/
def secondTry : Run ⟨0⟩ :=
  .alone (fun n => [.acquire, .acquire, .release].getD n .close) unlicensed Nat.zero_lt_one

end Sample

theorem Run.environments_left_secondTry :
    Sample.secondTry.source = .gurobi ∧ Sample.secondTry.holding 0 = ⟨none, 0⟩ ∧
      Sample.secondTry.left 2 = [1, 2] ∧ Sample.secondTry.left 3 = [1] ∧
      Sample.secondTry.Inventory 3 :=
  ⟨rfl, rfl, rfl, rfl, Sample.secondTry.environments_left rfl rfl 3⟩

/-- After the first start the handle is closed, but there is an environment. -/
theorem Run.start_strands_environment :
    ¬∀ (run : Run ⟨0⟩) (n : Nat), run.source = .gurobi → run.holding 0 = ⟨none, 0⟩ →
      (run.left n).length =
        if ((run.states n).environments.get ⟨0⟩).isOpen then 1 else 0 := by
  intro every
  have one : (Sample.secondTry.left 1).length = 1 := rfl
  have shut : ((Sample.secondTry.states 1).environments.get ⟨0⟩).isOpen = false := rfl
  have none := every Sample.secondTry 1 rfl rfl
  rw [one, shut] at none
  cases none

end SharedEnvironment

end LinearDispatch
