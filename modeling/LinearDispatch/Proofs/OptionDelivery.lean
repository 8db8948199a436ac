import LinearDispatch.Proofs.OptionMerging
import LinearDispatch.Proofs.ReadBack
import LinearDispatch.Proofs.Requests

/-!
# Options on their way to a backend

Merged options are merged once more when an adapter is started, and each adapter does it in its own
way. The Gurobi adapter sets its own parameters first and then the options, one call for each, so
that an option with the name of one of its own comes later and counts. The HiGHS adapter has one
mapping: the options are written over its own entries there, and what comes of it goes along with
every model.

Calls can fail, and the first that does ends the setting of parameters. What was called up to there
is a part of the whole list, from its beginning: `Issues` says so of an action, and an action issues
what its parts issue. HiGHS is called much later than its adapter is started, and in between the
adapter may be used in any way that does not start it again or close it. Its options are as they
were, `keeps_options`. What each adapter makes of the options is its `Receives`, and
`merged_options_delivered` follows them from the caller to either.
-/

namespace LinearDispatch

open LinearDispatch.Action Workspace

/-! ## Gurobi -/

namespace Action

variable {σ α β : Type} {π : σ → Workspace}

/-- The native calls of an action are these, in their order; if it fails, it may be that the last
ones are missing. -/
def Issues (π : σ → Workspace) (cs : List NativeCall) (x : Action σ α) : Prop :=
  ∀ s, ∃ made, made <+: cs ∧ (π (x.run s).2).calls = (π s).calls ++ made ∧
    ((x.run s).1.isOk = true → made = cs)

theorem issues_pure (a : α) : Issues π [] (pure a : Action σ α) :=
  fun _ => ⟨[], List.prefix_rfl, (List.append_nil _).symm, fun _ => rfl⟩

theorem issues_bind {x : Action σ α} {f : α → Action σ β} {cs later : List NativeCall}
    (hx : Issues π cs x) (hf : ∀ a, Issues π later (f a)) : Issues π (cs ++ later) (x >>= f) := by
  intro s
  obtain ⟨made, part, calls, whole⟩ := hx s
  rw [run_bind]
  cases ran : x.run s with
  | mk r t =>
      rw [ran] at calls whole
      cases r with
      | error e => exact ⟨made, part.trans (List.prefix_append _ _), calls, nofun⟩
      | ok a =>
          obtain ⟨made', part', calls', whole'⟩ := hf a t
          obtain rfl := whole rfl
          refine ⟨made ++ made', (List.prefix_append_right_inj made).2 part', ?_, fun ok => ?_⟩
          · exact calls'.trans (by rw [calls, List.append_assoc])
          · rw [whole' ok]

theorem issues_call {A : Type} (c : NativeCall) :
    Issues Prod.snd [c] (liftM (call c) : Action (A × Workspace) Unit) := by
  intro s
  refine ⟨[c], List.prefix_rfl, ?_, fun _ => rfl⟩
  rw [run_liftM, run_call]
  exact s.2.calls_afterCall c

theorem issues_forEach {f : α → Action σ β} {g : α → NativeCall}
    (each : ∀ a, Issues π [g a] (f a)) (items : List α) :
    Issues π (items.map g) (forEach f items) := by
  induction items with
  | nil => exact issues_pure []
  | cons a rest ih =>
      have later (b : β) :
          Issues π (rest.map g ++ []) (forEach f rest >>= fun bs => pure (b :: bs)) :=
        issues_bind ih fun bs => issues_pure (b :: bs)
      rw [List.append_nil] at later
      exact issues_bind (each a) later

end Action

namespace GurobiAdapter

/-- A parameter that is set, by its name. -/
def setting (e : Key × Value) : NativeCall :=
  .gurobi (.setParameter e.1 e.2)

def optionalSetting (name : String) (value : Option Scalar) : List (Key × Value) :=
  value.toList.map fun s => (.text name, .scalar s)

/-- What the adapter sets of its own. -/
def ownSettings (p : Parameters) : List (Key × Value) :=
  (.text "OutputFlag", .ofInt (if p.verbose.isTrue then 1 else 0)) ::
    (optionalSetting "TimeLimit" p.timeLimit ++ optionalSetting "Threads" p.threads)

theorem issues_apply (p : Parameters) :
    Issues Prod.snd ((ownSettings p ++ p.options.entries).map setting) (apply p) := by
  have set (name : Key) (value : Value) :
      Issues Prod.snd [setting (name, value)] (setParameter name value) :=
    issues_call _
  have optional (name : String) (value : Option Scalar) :
      Issues Prod.snd ((optionalSetting name value).map setting) (setOptional name value) := by
    cases value with
    | none => exact issues_pure ()
    | some s => exact set _ _
  rw [ownSettings, List.cons_append, List.append_assoc, List.map_cons, List.map_append,
    List.map_append, ← List.append_nil (p.options.entries.map setting)]
  refine issues_bind (set _ _) fun _ => issues_bind (optional _ _) fun _ => ?_
  refine issues_bind (optional _ _) fun _ => issues_bind ?_ fun _ => issues_pure ()
  exact issues_forEach (fun e => set e.1 e.2) p.options.entries

/-- The call sets no parameter of a model. -/
def SetsNothing (c : NativeCall) : Prop :=
  ∀ name value, c ≠ .gurobi (.setParameter name value)

theorem setsNothing_of_startsGurobi {c : NativeCall} (h : c.startsGurobi = true) :
    SetsNothing c := by
  rintro name value rfl
  cases h

/-- What comes before the parameters when an adapter is started. -/
def opening : Action (GurobiAdapter × Workspace) Unit := do
  let library ← GurobiService.locate
  let r ← shared "acquire"
  let env ← SharedEnvironment.acquire r
  Adapter.remember fun a => { a with acquired := true, library := some library }
  createModel env

theorem start_eq (p : Parameters) :
    Adapter.start (A := GurobiAdapter) (.proper p) = opening >>= fun _ => apply p := by
  show start (.proper p) = _
  unfold start opening
  simp only [bind_assoc]
  rfl

theorem opening_makes : Makes Prod.snd SetsNothing opening := by
  have creates (env : Option Environment) : Makes Prod.snd SetsNothing (createModel env) :=
    makes_bind (makes_onSecond (makes_call fun _ _ => nofun)) fun _ =>
      makes_bind (makes_gets _) fun _ => makes_remember _
  refine makes_bind (makes_onSecond SharedEnvironment.locate_makes) fun _ => ?_
  refine makes_bind (makes_bind (makes_look _) fun _ => makes_ofExcept _) fun r => ?_
  refine makes_bind (makes_onSecond ((SharedEnvironment.acquire_makes r).mono fun _ =>
    setsNothing_of_startsGurobi)) fun env => ?_
  exact makes_bind (makes_remember _) fun _ => creates env

/-- How the parameters of a model are set when an adapter is started, where `result` is how the
start ends. -/
structure Receives (p : Parameters) (a : GurobiAdapter) (w : Workspace)
    (result : Except Failure Unit × GurobiAdapter × Workspace) : Prop where
  /-- The adapter's own parameters are set, and then each option by its name, in their order. A
  start that fails leaves out what would have come later. -/
  set : ∃ before made, (∀ c ∈ before, SetsNothing c) ∧
    made <+: (ownSettings p ++ p.options.entries).map setting ∧
    w.callsSince result.2.2 = before ++ made ∧
    (result.1 = .ok () → made = (ownSettings p ++ p.options.entries).map setting)
  /-- Where no call of Gurobi fails, the options cannot keep an adapter from being started. -/
  returns : Quiet .gurobi w → (result.1 = .ok () ↔ CanStart a.environment w (.proper p))

theorem start_receives (p : Parameters) (a : GurobiAdapter) (w : Workspace) :
    Receives p a w ((Adapter.start (.proper p)).run (a, w)) := by
  constructor
  case returns =>
    intro quiet
    rw [← (start_spec a (.proper p) quiet).1]
    cases ((Adapter.start (.proper p)).run (a, w)).1 with
    | error e => exact ⟨nofun, nofun⟩
    | ok => exact ⟨fun _ => rfl, fun _ => rfl⟩
  case set =>
    rw [start_eq, run_bind]
    obtain ⟨before, calls, nothing⟩ := (opening_makes (a, w)).calls
    cases ran : opening.run (a, w) with
    | mk r s =>
        rw [ran] at calls
        cases r with
        | error e =>
            refine ⟨before, [], nothing, List.nil_prefix, ?_, nofun⟩
            exact (callsSince_of_calls calls).trans (List.append_nil _).symm
        | ok =>
            obtain ⟨made, part, calls', whole⟩ := issues_apply p s
            refine ⟨before, made, nothing, part, callsSince_of_calls ?_, fun ok => whole ?_⟩
            · exact calls'.trans (by rw [calls, List.append_assoc])
            · exact congrArg Except.isOk ok

end GurobiAdapter

/-! ## HiGHS -/

namespace HighsAdapter

/-- The adapter's own options. -/
def ownEntries (p : Parameters) (seconds : Option Float) : List (Key × Value) :=
  (.text "disp", .scalar (.bool p.verbose.isTrue)) ::
    seconds.toList.map fun x => (.text "time_limit", .ofFloat x)

/-- The options that go along with a model: those of a caller over the adapter's own. -/
def mergedOptions (p : Parameters) (seconds : Option Float) : Mapping :=
  Mapping.overlay ⟨ownEntries p seconds⟩ p.options

theorem ownOptions_eq (p : Parameters) :
    ownOptions p = (p.timeLimit.mapM Scalar.toFloat).map fun seconds => ⟨ownEntries p seconds⟩ := by
  unfold ownOptions
  cases p.timeLimit with
  | none => rfl
  | some s =>
      show (do let x ← s.toFloat; pure _) = Except.map _ (do let x ← s.toFloat; pure (some x))
      cases s.toFloat <;> rfl

theorem distinct_ownEntries (p : Parameters) (seconds : Option Float) :
    Mapping.Distinct ⟨ownEntries p seconds⟩ := by
  cases seconds with
  | none => exact List.pairwise_singleton _ _
  | some x => exact List.pairwise_pair.2 rfl

/-- What makes a difference for the options of a later model. -/
def memory (a : HighsAdapter) : Mapping × Bool :=
  (a.options, a.started)

theorem start_answer (a : HighsAdapter) (p : Parameters) (w : Workspace) :
    ((Adapter.start (.proper p)).run (a, w)).1 =
      (p.timeLimit.mapM Scalar.toFloat).map fun _ => () := by
  show ((start (.proper p)).run (a, w)).1 = _
  unfold start
  simp only [run_bind, Adapter.remember, run_modify, Given.require, run_ofExcept, ownOptions_eq]
  cases p.timeLimit.mapM Scalar.toFloat with
  | error e => rfl
  | ok seconds => cases p.threads.isSome <;> rfl

theorem start_memory {a : HighsAdapter} {p : Parameters} {w : Workspace} {seconds : Option Float}
    (distinct : p.options.Distinct) (limited : p.timeLimit.mapM Scalar.toFloat = .ok seconds) :
    memory ((Adapter.start (.proper p)).run (a, w)).2.1 = (mergedOptions p seconds, true) := by
  rw [mergedOptions, ← Mapping.putAll_entries (distinct_ownEntries p seconds) distinct]
  show memory ((start (.proper p)).run (a, w)).2.1 = _
  unfold start
  simp only [run_bind, Adapter.remember, run_modify, Given.require, run_ofExcept, ownOptions_eq,
    limited]
  cases p.threads.isSome <;> rfl

theorem memory_take {a a' : HighsAdapter} {part : Part} (took : a.take part = .ok a') :
    memory a' = memory a := by
  cases part with
  | column kind lower upper name =>
      cases took
      rfl
  | row coefficients lower upper name =>
      obtain ⟨entries, -, ⟨⟩⟩ := exists_of_bind_eq_ok took
      rfl
  | objective coefficients =>
      obtain ⟨cost, -, ⟨⟩⟩ := exists_of_bind_eq_ok took
      rfl

/-- A model takes the options along. -/
theorem options_buildModel {a : HighsAdapter} {arrays : ArrayLibrary} {m : HighsModel}
    (built : a.buildModel arrays = .ok m) : m.options = a.options := by
  obtain ⟨cost, -, built⟩ := exists_of_bind_eq_ok built
  obtain ⟨rows, -, built⟩ := exists_of_bind_eq_ok built
  obtain ⟨sides, -, ⟨⟩⟩ := exists_of_bind_eq_ok built
  rfl

/-- Where the parts make up no model, a solve fails before it has called anything. -/
theorem solve_run_of_unbuilt {a : HighsAdapter} {e : Failure} (started : a.started = true)
    {w : Workspace} (unbuilt : a.buildModel w.highs.arrays = .error e) :
    Adapter.solve.run (a, w) = (.error e, a, w) := by
  show (solve >>= fun status => pure (.proper status) :
    Action (HighsAdapter × Workspace) (Given Status)).run (a, w) = _
  unfold solve
  rw [bind_assoc, run_bind, requireStarted_run started]
  dsimp only
  rw [bind_assoc, run_bind, Adapter.look_run]
  dsimp only [id]
  rw [bind_assoc, run_bind, run_gets]
  dsimp only
  rw [bind_assoc, run_bind, run_ofExcept, unbuilt]

theorem keeping_requireStarted : Within (Adapter.Keeping memory) requireStarted :=
  within_bind (Adapter.keeping_look _) fun _ => within_check _

theorem keeping_lastAnswer (part : String) : Within (Adapter.Keeping memory) (lastAnswer part) := by
  refine within_bind (Adapter.keeping_look _) fun answer => ?_
  cases answer with
  | some answer => exact within_pure _
  | none => exact within_fail _

theorem keeping_give (part : Part) :
    Within (Adapter.Keeping memory) (Adapter.give (A := HighsAdapter) part) := by
  refine within_bind keeping_requireStarted fun _ s => ?_
  refine related_bind rfl fun a t found => ?_
  cases found
  refine related_ofExcept_bind fun a' took => ?_
  exact memory_take took

theorem keeping_solve : Within (Adapter.Keeping memory) (Adapter.solve (A := HighsAdapter)) := by
  refine within_bind (within_bind keeping_requireStarted fun _ => ?_) fun _ => within_pure _
  refine within_bind (Adapter.keeping_look _) fun a => within_bind (within_gets _) fun arrays => ?_
  refine within_bind (within_ofExcept _) fun m => ?_
  have judged (last : HighsAnswer) : Within (Adapter.Keeping memory) (do
      Adapter.remember fun a : HighsAdapter => { a with answer := some last }
      classify last : Action (HighsAdapter × Workspace) Status) :=
    within_bind (Adapter.keeping_remember fun _ => rfl) fun _ => Adapter.keeping_onSecond _
  refine within_bind (Adapter.keeping_onSecond _) fun first =>
    within_bind (within_check _) fun _ => within_ite ?_ ?_
  · exact within_bind (Adapter.keeping_onSecond _) fun _ =>
      within_bind (Adapter.keeping_onSecond _) judged
  · exact within_bind (within_pure _) judged

/-- An adapter forgets its options only when it is started again or closed. -/
theorem keeps_options : Adapter.Keeps memory where
  version := within_gets _
  give := keeping_give
  solve := keeping_solve
  values := within_bind (keeping_lastAnswer _) fun _ => within_ofExcept _
  objectiveValue := within_bind (keeping_lastAnswer _) fun _ =>
    within_bind (within_ofExcept _) fun _ => within_pure _

/-- What becomes of the options that an adapter is started with, where `result` is how the start
ends. -/
structure Receives (p : Parameters) (result : Except Failure Unit × HighsAdapter × Workspace) :
    Prop where
  /-- Only a time limit that is no binary64 number of seconds keeps an adapter from starting. -/
  returns : result.1 = (p.timeLimit.mapM Scalar.toFloat).map fun _ => ()
  /-- However the adapter is used until it is started again or closed, the merged options go along
  with the model; a second attempt turns presolve off over them. -/
  delivered : ∀ seconds, p.timeLimit.mapM Scalar.toFloat = .ok seconds →
    ∀ b, Adapter.Used (·.continues = true) result.2.1 b → ∀ (m : HighsModel) (v : Workspace),
      b.buildModel v.highs.arrays = .ok m → m.options = mergedOptions p seconds ∧
        (v.callsSince (Adapter.solve.run (b, v)).2.2 = [.highs m] ∨
          v.callsSince (Adapter.solve.run (b, v)).2.2 = [.highs m, .highs (withoutPresolve m)])
  /-- Without a model nothing is called. -/
  silent : ∀ seconds, p.timeLimit.mapM Scalar.toFloat = .ok seconds →
    ∀ b, Adapter.Used (·.continues = true) result.2.1 b → ∀ (e : Failure) (v : Workspace),
      b.buildModel v.highs.arrays = .error e → v.callsSince (Adapter.solve.run (b, v)).2.2 = []

theorem start_receives {p : Parameters} (distinct : p.options.Distinct) (a : HighsAdapter)
    (w : Workspace) : Receives p ((Adapter.start (.proper p)).run (a, w)) := by
  have remembers : ∀ seconds, p.timeLimit.mapM Scalar.toFloat = .ok seconds →
      ∀ b, Adapter.Used (·.continues = true) ((Adapter.start (.proper p)).run (a, w)).2.1 b →
        memory b = (mergedOptions p seconds, true) := fun seconds limited b used =>
    (used.keeping fun q may => keeps_options.ask may).trans (start_memory distinct limited)
  refine ⟨start_answer a p w, fun seconds limited b used m v built => ?_,
    fun seconds limited b used e v built => ?_⟩
  · have remembered := remembers seconds limited b used
    have started : b.started = true := congrArg Prod.snd remembered
    refine ⟨(options_buildModel built).trans (congrArg Prod.fst remembered), ?_⟩
    exact (solve_calls started built).imp callsSince_of_calls callsSince_of_calls
  · have started : b.started = true := congrArg Prod.snd (remembers seconds limited b used)
    rw [solve_run_of_unbuilt started built]
    exact callsSince_of_calls (List.append_nil _).symm

end HighsAdapter

/-! ## From the caller to the backend -/

namespace Parameters

/-- Options that are added to parameters, in two steps or in one, come to the same parameters: the
names keep the order in which they first came, each has the last value that was given, and nothing
else changes. Started with these, a Gurobi adapter sets its own parameters and then every option, in
this order and with this value, and a HiGHS adapter has them written over its own options for
every model. -/
theorem merged_options_delivered {timeLimit threads verbose : Value}
    {options : Option (List (Key × Value))} {p : Parameters}
    (made : make timeLimit threads verbose options = .ok p) (a b : List (String × Value))
    (free : ∀ e ∈ a ++ b, e.1 ≠ reservedName) :
    ∃ q, Merged p a b q ∧
      (∀ (adapter : GurobiAdapter) (w : Workspace),
        GurobiAdapter.Receives q adapter w ((Adapter.start (.proper q)).run (adapter, w))) ∧
      ∀ (adapter : HighsAdapter) (w : Workspace),
        HighsAdapter.Receives q ((Adapter.start (.proper q)).run (adapter, w)) := by
  obtain ⟨q, merged⟩ := exists_merged made free
  exact ⟨q, merged, GurobiAdapter.start_receives q, HighsAdapter.start_receives merged.distinct⟩

end Parameters

namespace Sample

/-- Parameters with two options, one of which the HiGHS adapter has of its own. -/
def twoOptions : Parameters :=
  { Parameters.default with
    options := .ofList [(.text "MIPGap", .ofInt 1), (.text "disp", .ofInt 0)] }

end Sample

namespace Parameters

/-- Two lists that have names in common with each other and with the parameters. -/
theorem merged_options_delivered_sample :
    let a : List (String × Value) := [("Cuts", .ofInt 2), ("MIPGap", .ofInt 3)]
    let b : List (String × Value) := [("disp", .ofInt 1), ("Cuts", .ofInt 4)]
    let w := Sample.workspace .continuous
    ∃ q, Merged Sample.twoOptions a b q ∧
      q.options.entries =
        [(.text "MIPGap", .ofInt 3), (.text "disp", .ofInt 1), (.text "Cuts", .ofInt 4)] ∧
      (∃ before, (∀ c ∈ before, GurobiAdapter.SetsNothing c) ∧
        w.callsSince ((Adapter.start (.proper q)).run
          (GurobiAdapter.make (.proper gurobiEnvironment), w)).2.2 =
          before ++ [(.text "OutputFlag", .ofInt 0), (.text "MIPGap", .ofInt 3),
            (.text "disp", .ofInt 1), (.text "Cuts", .ofInt 4)].map GurobiAdapter.setting) ∧
      ((Adapter.start (.proper q)).run (HighsAdapter.new, w)).1 = .ok () ∧
      (HighsAdapter.mergedOptions q none).entries =
        [(.text "disp", .ofInt 1), (.text "MIPGap", .ofInt 3), (.text "Cuts", .ofInt 4)] := by
  intro a b w
  have made : make .none .none (.scalar (.bool false))
      (some [(.text "MIPGap", .ofInt 1), (.text "disp", .ofInt 0)]) = .ok Sample.twoOptions := rfl
  have free : ∀ e ∈ a ++ b, e.1 ≠ reservedName := by simp [a, b, reservedName]
  obtain ⟨q, merged, gurobi, highs⟩ := merged_options_delivered made a b free
  have entries : q.options.entries =
      [(.text "MIPGap", .ofInt 3), (.text "disp", .ofInt 1), (.text "Cuts", .ofInt 4)] := by
    rw [merged.options]
    rfl
  have own : GurobiAdapter.ownSettings q = [(.text "OutputFlag", .ofInt 0)] := by
    unfold GurobiAdapter.ownSettings
    rw [merged.timeLimit, merged.threads, merged.verbose]
    rfl
  obtain ⟨⟨before, calls, nothing, -, called, whole⟩, returns⟩ :=
    gurobi (.make (.proper gurobiEnvironment)) w
  have started := (returns fun _ _ => rfl).2 ⟨rfl, ⟨_, rfl, .inr trivial⟩, q, rfl⟩
  rw [whole started, own, entries] at called
  have unlimited : q.timeLimit.mapM Scalar.toFloat = .ok none := by
    rw [merged.timeLimit]
    rfl
  have opened := (highs .new w).returns
  rw [unlimited] at opened
  refine ⟨q, merged, entries, ⟨before, nothing, called⟩, opened, ?_⟩
  unfold HighsAdapter.mergedOptions HighsAdapter.ownEntries
  rw [merged.verbose, merged.options]
  rfl

end Parameters

end LinearDispatch
