import LinearDispatch.Proofs.EnvironmentHolders

/-!
# Sessions

A session holds the environment of a handle while its body runs, and lets go of it whether the body
returned or failed. In the body there may be further sessions of the same handle, and failures may
leave any number of them at once. As long as nobody closes the handle or releases what somebody else
has acquired, all of them have the same environment, and it is there until the outermost one is
over. `Nested` are the actions that are built in this way. Instead of a session there may be an
acquire and a release, if the release comes on every way out, and whatever fails may be caught
anywhere.

While somebody holds the environment, an acquire cannot fail and a release cannot end anything. So a
nested action leaves the handle as it found it, and only the outermost session has anything to do
with the source and the disposal.
-/

namespace LinearDispatch

open LinearDispatch.Action Workspace

namespace SharedEnvironment

variable {α β : Type} {r : Ref SharedEnvironment} {env : Environment}

/-! ## Nested actions -/

/-- An action that keeps a list of all that was yielded by sessions and acquires so far. -/
abbrev Noting (α : Type) : Type :=
  Action (List (Option Environment) × Workspace) α

def noteYield (env : Option Environment) : Noting Unit :=
  Action.modify fun s => (s.1 ++ [env], s.2)

def session (r : Ref SharedEnvironment) (body : Option Environment → Noting α) : Noting α :=
  withHeld r fun env => do
    noteYield env
    body env

/-- An acquire and a release, which comes whether the body returned or failed. -/
def pair (r : Ref SharedEnvironment) (body : Option Environment → Noting α) : Noting α := do
  let env ← acquire r
  noteYield env
  let outcome ← Action.attempt (body env)
  release r
  Action.ofExcept outcome

theorem pair_eq_session (r : Ref SharedEnvironment) (body : Option Environment → Noting α) :
    pair r body = session r body :=
  rfl

/-- In between the environment was not to be disposed of. -/
structure Spares (env : Environment) (w w' : Workspace) : Prop where
  grows : w.journal <+: w'.journal
  lives : env ∉ w.disposals w'

/-- Something was done that is no business of the handle's. -/
structure Aside (r : Ref SharedEnvironment) (w w' : Workspace) : Prop where
  kept : (w.environments.get r).Kept (w'.environments.get r)
  has : w.Has r → w'.Has r
  spares : ∀ env, (w.environments.get r).environment = some env → Spares env w w'

/-- Sessions of a handle, in one another and one after the other, with steps between them that leave
the handle alone and may fail. -/
inductive Nested (r : Ref SharedEnvironment) : {α : Type} → Noting α → Prop
  | pure {α : Type} (a : α) : Nested r (pure a)
  | step {α : Type} {x : Action Workspace α} (aside : Within (Aside r) x) :
      Nested r (liftM x : Noting α)
  | bind {α β : Type} {x : Noting α} {f : α → Noting β} (first : Nested r x)
      (rest : ∀ a, Nested r (f a)) : Nested r (x >>= f)
  /-- a failure is caught -/
  | attempt {α : Type} {x : Noting α} (part : Nested r x) : Nested r x.attempt
  | session {α : Type} {body : Option Environment → Noting α}
      (inner : ∀ env, Nested r (body env)) : Nested r (session r body)
  | pair {α : Type} {body : Option Environment → Noting α}
      (inner : ∀ env, Nested r (body env)) : Nested r (pair r body)

/-! ## While the environment is held -/

theorem Spares.of_disposals {w w' : Workspace} (grows : w.journal <+: w'.journal)
    (none : w.disposals w' = []) : Spares env w w' := by
  refine ⟨grows, ?_⟩
  rw [none]
  exact List.not_mem_nil

theorem Spares.of_journal_eq {w w' : Workspace} (same : w'.journal = w.journal) :
    Spares env w w' := by
  refine .of_disposals ⟨[], by rw [same, List.append_nil]⟩ ?_
  rw [Workspace.disposals, Workspace.written, same, List.drop_length]
  rfl

theorem Spares.trans {w w' w'' : Workspace} (h : Spares env w w') (h' : Spares env w' w'') :
    Spares env w w'' := by
  obtain ⟨⟨more, grown⟩, lives⟩ := h
  obtain ⟨⟨more', grown'⟩, lives'⟩ := h'
  have all : w''.journal = w.journal ++ (more ++ more') := by
    rw [← grown', ← grown, List.append_assoc]
  rw [Workspace.disposals, written_of_append grown.symm] at lives
  rw [Workspace.disposals, written_of_append grown'.symm] at lives'
  refine ⟨⟨more ++ more', all.symm⟩, ?_⟩
  rw [Workspace.disposals, written_of_append all, List.filterMap_append, List.mem_append, not_or]
  exact ⟨lives, lives'⟩

instance : Std.Refl (Aside r) where
  refl _ := ⟨Std.Refl.refl _, id, fun _ _ => .of_journal_eq rfl⟩

/-- Somebody holds this environment. -/
structure Held (r : Ref SharedEnvironment) (env : Environment) (w : Workspace) : Prop where
  has : w.Has r
  environment : (w.environments.get r).environment = some env
  holders : 0 < (w.environments.get r).holders

/-- The handle is as it was, and nothing else was yielded than its environment. -/
structure Resumes (r : Ref SharedEnvironment) (env : Environment)
    (s t : List (Option Environment) × Workspace) : Prop where
  held : Held r env t.2
  holding : holding r t.2 = holding r s.2
  yields : ∃ more, t.1 = s.1 ++ more ∧ ∀ y ∈ more, y = some env
  spares : Spares env s.2 t.2

/-- If the environment is held, the handle comes to be as it was. -/
def While (r : Ref SharedEnvironment) (env : Environment)
    (s t : List (Option Environment) × Workspace) : Prop :=
  Held r env s.2 → Resumes r env s t

theorem Resumes.trans {s t u : List (Option Environment) × Workspace} (h : Resumes r env s t)
    (h' : Resumes r env t u) : Resumes r env s u := by
  obtain ⟨more, noted, same⟩ := h.yields
  obtain ⟨more', noted', same'⟩ := h'.yields
  refine ⟨h'.held, h'.holding.trans h.holding, ⟨more ++ more', ?_, ?_⟩, h.spares.trans h'.spares⟩
  · rw [noted', noted, List.append_assoc]
  · exact fun y mem => (List.mem_append.1 mem).elim (same y) (same' y)

instance : Std.Refl (While r env) where
  refl _ held := ⟨held, rfl, ⟨[], (List.append_nil _).symm, nofun⟩, .of_journal_eq rfl⟩

instance : Trans (While r env) (While r env) (While r env) where
  trans h h' held := (h held).trans (h' (h held).held)

theorem while_step {x : Action Workspace α} (aside : Within (Aside r) x) :
    Within (While r env) (liftM x : Noting α) := by
  intro s held
  obtain ⟨kept, has, spares⟩ := aside s.2
  refine ⟨⟨has held.has, kept.environment.trans held.environment, ?_⟩, ?_,
    ⟨[], (List.append_nil _).symm, nofun⟩, spares env held.environment⟩
  · rw [run_liftM, kept.holders]
    exact held.holders
  · rw [run_liftM, holding, kept.environment, kept.holders]
    rfl

/-! ## A session from its beginning to its end -/

/-- The inside of a session, from its beginning in `w` until its body is over in `mid`, where the
handle has not been released yet. -/
structure Inside (r : Ref SharedEnvironment) (body : Option Environment → Noting α)
    (notes : List (Option Environment)) (w : Workspace) (env : Environment)
    (outcome : Except Failure α) (notes' : List (Option Environment)) (mid : Workspace) : Prop where
  runs : ∃ w₁, (acquire r).run w = (.ok (some env), w₁) ∧
    (body (some env)).run (notes ++ [some env], w₁) = (outcome, notes', mid)
  /-- this session and all in it have yielded one environment -/
  yields : ∃ more, notes' = notes ++ some env :: more ∧ ∀ y ∈ more, y = some env
  spares : Spares env w mid
  holding : holding r mid = ⟨some env, (w.environments.get r).holders + 1⟩

variable {body : Option Environment → Noting α} {notes : List (Option Environment)}
  {w w₁ : Workspace}

theorem session_run_of_error {e : Failure} (entering : (acquire r).run w = (.error e, w₁)) :
    (session r body).run (notes, w) = (.error e, notes, w₁) := by
  unfold session withHeld
  rw [run_bind, run_liftM, entering]

/-- After a session was entered, its body runs, and then the handle is released. -/
theorem session_run_of_ok (entering : (acquire r).run w = (.ok (some env), w₁)) (has : w₁.Has r)
    (held : holding r w₁ = ⟨some env, (w.environments.get r).holders + 1⟩)
    (spares : Spares env w w₁) (inner : Within (While r env) (body (some env)))
    (notes : List (Option Environment)) :
    ∃ outcome notes' mid, Inside r body notes w env outcome notes' mid ∧ mid.Has r ∧
      (session r body).run (notes, w) =
        (match ((release r).run mid).1 with
          | .ok () => outcome
          | .error e => .error e, notes', ((release r).run mid).2) := by
  have held₁ : Held r env w₁ := by
    refine ⟨has, congrArg Holding.environment held, ?_⟩
    rw [show (w₁.environments.get r).holders = _ from congrArg Holding.holders held]
    exact Nat.succ_pos _
  have resumes := inner (notes ++ [some env], w₁) held₁
  cases ran : (body (some env)).run (notes ++ [some env], w₁) with
  | mk outcome t =>
      obtain ⟨notes', mid⟩ := t
      rw [ran] at resumes
      obtain ⟨held', same, ⟨more, noted, alone⟩, spares'⟩ := resumes
      refine ⟨outcome, notes', mid, ⟨⟨w₁, entering, ran⟩, ⟨more, ?_, alone⟩,
        spares.trans spares', same.trans held⟩, held'.has, ?_⟩
      · exact noted.trans (List.append_assoc _ _ _)
      · have noting : (do
            noteYield (some env)
            body (some env) : Noting α).run (notes, w₁) = (outcome, notes', mid) := ran
        unfold session withHeld
        rw [run_bind, run_liftM, entering]
        dsimp only
        rw [run_bind, run_attempt, noting]
        dsimp only
        rw [run_bind, run_liftM]
        obtain ⟨_ | _, _⟩ := (release r).run mid <;> rfl

theorem holding_alter (has : w.Has r) (f : Nat → Nat) :
    holding r (w.alter r fun h => { h with holders := f h.holders }) =
      ⟨(holding r w).environment, f (holding r w).holders⟩ := by
  rw [holding, get_alter has]
  rfl

/-- A release is no more than that as long as others hold the environment. -/
theorem release_among_others (has : w.Has r) {n : Nat} (held : holding r w = ⟨some env, n + 1⟩)
    (others : 0 < n) :
    ∃ w', (release r).run w = (.ok (), w') ∧ w'.Has r ∧ holding r w' = ⟨some env, n⟩ ∧
      w'.journal = w.journal := by
  have holders : (w.environments.get r).holders = n + 1 := congrArg Holding.holders held
  refine ⟨_, release_run_more (by omega), has.alter _, ?_, rfl⟩
  rw [holding_alter has (· - 1), held]
  rfl

/-- A session in which the environment is already held. -/
theorem while_session (inner : ∀ y, Within (While r env) (body y)) :
    Within (While r env) (session r body) := by
  rintro ⟨notes, w⟩ held
  have before : holding r w = ⟨some env, (w.environments.get r).holders⟩ :=
    congrArg (Holding.mk · _) held.environment
  have entered : holding r (w.alter r fun h => { h with holders := h.holders + 1 }) =
      ⟨some env, (w.environments.get r).holders + 1⟩ := by
    rw [holding_alter held.has (· + 1), before]
  obtain ⟨outcome, notes', mid, inside, has, ran⟩ :=
    session_run_of_ok (acquire_run_some held.has held.environment) (held.has.alter _) entered
      (.of_journal_eq rfl) (inner (some env)) notes
  obtain ⟨w', released, has', left, quiet⟩ := release_among_others has inside.holding held.holders
  obtain ⟨more, noted, alone⟩ := inside.yields
  rw [ran, released]
  refine ⟨⟨has', congrArg Holding.environment left, ?_⟩, left.trans before.symm,
    ⟨some env :: more, noted, List.forall_mem_cons.2 ⟨rfl, alone⟩⟩,
    inside.spares.trans (.of_journal_eq quiet)⟩
  exact Nat.lt_of_lt_of_eq held.holders (congrArg Holding.holders left).symm

theorem Nested.while {x : Noting α} (nested : Nested r x) (env : Environment) :
    Within (While r env) x := by
  induction nested with
  | pure a => exact within_pure a
  | step aside => exact while_step aside
  | bind first rest ih ih' => exact within_bind ih ih'
  | attempt part ih => exact within_attempt ih
  | session inner ih => exact while_session ih
  | pair inner ih => exact while_session ih

/-! ## The outermost session -/

/-- How the next disposal of an environment fails, if it does. -/
def disposalFault (r : Ref SharedEnvironment) (env : Environment) (w : Workspace) :
    Option Failure :=
  match (w.environments.get r).source with
  | .gurobi => w.faults w.nativeCalls (.gurobi (.disposeEnvironment env))
  | .script _ dispose => dispose (w.environments.get r).disposed

theorem dispose_answer (env : Environment) (w : Workspace) :
    ((dispose r env).run w).1 =
      match disposalFault r env w with
      | none => .ok ()
      | some e => .error e := by
  unfold dispose disposalFault
  rw [run_bind, look_run]
  dsimp only
  cases (w.environments.get r).source with
  | gurobi => exact congrArg Prod.fst (run_call _ w)
  | script make dispose =>
      dsimp only
      rw [run_bind, record_run]
      dsimp only
      rw [run_bind, change_run]
      cases dispose (w.environments.get r).disposed <;> rfl

/-- The last release ends the environment, and fails if its disposal does. -/
theorem release_last (has : w.Has r) (held : holding r w = ⟨some env, 1⟩) :
    ((release r).run w).1 = (match disposalFault r env w with
      | none => .ok ()
      | some e => .error e) ∧
    holding r ((release r).run w).2 = ⟨none, 0⟩ ∧ w.disposals ((release r).run w).2 = [env] := by
  have one : (w.environments.get r).holders = 1 := congrArg Holding.holders held
  have present : (w.environments.get r).environment = some env :=
    congrArg Holding.environment held
  obtain ⟨emptied, ends, -⟩ := teardown_emptied has (.of_journal_eq rfl) rfl
    (f := fun h => { h with holders := h.holders - 1 }) rfl (by simp [one])
  rw [present] at ends
  rw [release_run_one one]
  refine ⟨?_, emptied, ends.disposals⟩
  let w₁ := w.alter r fun h => { h with holders := h.holders - 1 }
  have present₁ : (w₁.environments.get r).environment = some env := by
    rw [get_alter has]
    exact present
  obtain ⟨w₂, ⟨records, -, rfl⟩, ran⟩ := teardown_run_some present₁
  have same : disposalFault r env { w₁.alter r (fun h => { h with environment := none }) with
      journal := (w₁.alter r fun h => { h with environment := none }).journal ++ records } =
      disposalFault r env w := by
    unfold disposalFault
    dsimp only
    rw [get_alter (has.alter _), get_alter has]
    rfl
  rw [ran, dispose_answer, same]

/-- How a session ends. -/
inductive SessionEnds (r : Ref SharedEnvironment) (body : Option Environment → Noting α)
    (notes : List (Option Environment)) (w : Workspace) :
    Except Failure α × List (Option Environment) × Workspace → Prop
  /-- the source fails: the body does not run, and nothing is released or disposed of -/
  | refused {e : Failure} {w₁ : Workspace} (entering : (acquire r).run w = (.error e, w₁))
      (same : SharedEnvironment.holding r w₁ = SharedEnvironment.holding r w)
      (spared : w.disposals w₁ = []) : SessionEnds r body notes w (.error e, notes, w₁)
  /-- others hold the environment too, and keep it -/
  | leaves {env : Environment} {outcome : Except Failure α} {notes' : List (Option Environment)}
      {mid w' : Workspace} (inside : Inside r body notes w env outcome notes' mid)
      (others : 0 < (w.environments.get r).holders)
      (left : SharedEnvironment.holding r w' = ⟨some env, (w.environments.get r).holders⟩)
      (spared : mid.disposals w' = []) : SessionEnds r body notes w (outcome, notes', w')
  /-- nobody else holds it, so it is disposed of, and only a failure of that takes the place of the
  outcome -/
  | ends {env : Environment} {outcome : Except Failure α} {notes' : List (Option Environment)}
      {mid w' : Workspace} (inside : Inside r body notes w env outcome notes' mid)
      (alone : (w.environments.get r).holders = 0)
      (left : SharedEnvironment.holding r w' = ⟨none, 0⟩) (disposed : mid.disposals w' = [env]) :
      SessionEnds r body notes w
        (match disposalFault r env mid with
          | none => outcome
          | some e => .error e, notes', w')

/-- A session cannot be entered, or the handle has as many holders after it as before. -/
theorem session_balanced (has : w.Has r) (given : ¬(w.environments.get r).source.GivesNone)
    (nested : ∀ y, Nested r (body y)) (notes : List (Option Environment)) :
    SessionEnds r body notes w ((session r body).run (notes, w)) := by
  have step := turn_step has .acquire
  have along := along_acquire (r := r) w
  cases entering : (acquire r).run w with
  | mk reply w₁ =>
      have answer : (turn r .acquire w).answer = reply := congrArg Prod.fst entering
      have left : after r .acquire w = w₁ := congrArg Prod.snd entering
      rw [entering] at along
      rw [left] at step
      have spared : w.disposals w₁ = [] :=
        along.disposals_eq_nil fun _ => Event.disposes?_of_isAsking
      cases reply with
      | error e =>
          rw [session_run_of_error entering]
          exact .refused entering (step.acquire_fails rfl answer) spared
      | ok y =>
          obtain ⟨given', -, -⟩ := step.acquired given rfl answer
          obtain ⟨env, rfl⟩ := Option.isSome_iff_exists.1 given'
          obtain ⟨holders, present, -⟩ := step.acquire_adds rfl answer
          obtain ⟨more, grown, -⟩ := along.journal
          have held : holding r w₁ = ⟨some env, (w.environments.get r).holders + 1⟩ := by
            rw [← present]
            exact congrArg (Holding.mk _) holders
          obtain ⟨outcome, notes', mid, inside, has', ran⟩ := session_run_of_ok entering
            (along.has has) held (.of_disposals ⟨more, grown.symm⟩ spared)
            ((nested (some env)).while env) notes
          rw [ran]
          rcases Nat.eq_zero_or_pos (w.environments.get r).holders with alone | others
          · have last : holding r mid = ⟨some env, 1⟩ := by rw [inside.holding, alone]
            obtain ⟨reply, emptied, disposed⟩ := release_last has' last
            rw [reply]
            have ended := SessionEnds.ends inside alone emptied disposed
            cases fault : disposalFault r env mid with
            | none =>
                rw [fault] at ended
                exact ended
            | some e =>
                rw [fault] at ended
                exact ended
          · obtain ⟨w', released, -, left, quiet⟩ :=
              release_among_others has' inside.holding others
            rw [released]
            exact .leaves inside others left (Ends.of_journal_eq quiet).disposals

namespace Sample

def lost : Failure := .foreign .runtime "lost"

def fails : Noting Unit :=
  liftM (fail lost : Action Workspace Unit)

/-- One failure is caught, and another one leaves a session in a session. -/
def troubled (_ : Option Environment) : Noting Unit := do
  let _ ← Action.attempt (pair ⟨0⟩ fun _ => fails)
  session ⟨0⟩ fun _ => fails

theorem nested_troubled (y : Option Environment) : Nested ⟨0⟩ (troubled y) :=
  .bind (.attempt (.pair fun _ => .step (within_fail lost))) fun _ =>
    .session fun _ => .step (within_fail lost)

end Sample

theorem session_balanced_troubled :
    let w := Sample.pool Sample.steady
    let ended := (session ⟨0⟩ Sample.troubled).run ([], w)
    (∀ y, Nested ⟨0⟩ (Sample.troubled y)) ∧ SessionEnds ⟨0⟩ Sample.troubled [] w ended ∧
      ended.1 = .error Sample.lost ∧ ended.2.1 = List.replicate 3 (some (.native 0)) ∧
      holding ⟨0⟩ ended.2.2 = ⟨none, 0⟩ :=
  ⟨Sample.nested_troubled, session_balanced (w := Sample.pool Sample.steady) Nat.zero_lt_one
    Sample.steady_givesSome Sample.nested_troubled [], rfl, rfl, rfl⟩

end SharedEnvironment

end LinearDispatch
