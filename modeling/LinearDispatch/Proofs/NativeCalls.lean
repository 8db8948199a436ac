import LinearDispatch.Dispatch.History
import LinearDispatch.Proofs.Carries
import LinearDispatch.Proofs.Returns
import LinearDispatch.Proofs.Within

/-!
# The native calls of an action

What an adapter tells its native library stands in the journal, between log records. Theorems about
native models speak of the calls alone, so this file has a view of the journal for them and a rule
for each way of building actions: the calls of an action are those of its parts, in their order.

`Workspace.Extends P` is what a stretch of a run may do when nobody looks at it closely. It makes
calls that satisfy `P`, and it changes neither which calls fail nor the infinity of OR-Tools. The
relation is reflexive and transitive, which is all that the rules for `Within` need, and so a bound
on the calls of an action is read off its text.
-/

namespace LinearDispatch

open Workspace

def Event.native? : Event → Option NativeCall
  | .native call => some call
  | _ => none

/-- The native calls made so far. -/
def Workspace.calls (w : Workspace) : List NativeCall :=
  w.journal.filterMap Event.native?

/-- The workspace after a call of which nothing else is known. -/
def Workspace.afterCall (w : Workspace) (c : NativeCall) : Workspace :=
  { w with journal := w.journal ++ [.native c], nativeCalls := w.nativeCalls + 1 }

/-- The workspace after calls, one after the other. -/
def Workspace.afterCalls (w : Workspace) (cs : List NativeCall) : Workspace :=
  cs.foldl afterCall w

theorem Workspace.calls_afterCall (w : Workspace) (c : NativeCall) :
    (w.afterCall c).calls = w.calls ++ [c] := by
  unfold Workspace.calls afterCall
  rw [List.filterMap_append]
  rfl

/-- Calls add themselves and change nothing that later calls depend on. -/
theorem Workspace.afterCalls_spec (cs : List NativeCall) :
    ∀ w : Workspace, (w.afterCalls cs).calls = w.calls ++ cs ∧
      (w.afterCalls cs).faults = w.faults ∧ (w.afterCalls cs).orTools = w.orTools ∧
      (w.afterCalls cs).gurobi = w.gurobi := by
  induction cs with
  | nil => exact fun w => ⟨(List.append_nil _).symm, rfl, rfl, rfl⟩
  | cons c rest ih =>
      intro w
      obtain ⟨calls, faults, orTools, gurobi⟩ := ih (w.afterCall c)
      rw [w.calls_afterCall, List.append_assoc] at calls
      exact ⟨calls, faults, orTools, gurobi⟩

/-- The second workspace comes after the first, with no calls but those that satisfy `P`. -/
structure Workspace.Extends (P : NativeCall → Prop) (w w' : Workspace) : Prop where
  calls : ∃ more, w'.calls = w.calls ++ more ∧ ∀ call ∈ more, P call
  faults : w'.faults = w.faults
  infinity : w'.orTools.infinity = w.orTools.infinity

namespace Workspace.Extends

variable {P : NativeCall → Prop} {w w' w'' : Workspace}

theorem refl (P : NativeCall → Prop) (w : Workspace) : w.Extends P w :=
  ⟨⟨[], (List.append_nil _).symm, fun _ h => absurd h List.not_mem_nil⟩, rfl, rfl⟩

/-- What keeps the journal, the failures and the infinity makes no calls. -/
theorem of_eq (journal : w'.journal = w.journal) (faults : w'.faults = w.faults)
    (infinity : w'.orTools.infinity = w.orTools.infinity) : w.Extends P w' := by
  refine ⟨⟨[], ?_, fun _ h => absurd h List.not_mem_nil⟩, faults, infinity⟩
  unfold Workspace.calls
  rw [journal, List.append_nil]

theorem trans (h : w.Extends P w') (h' : w'.Extends P w'') : w.Extends P w'' := by
  obtain ⟨more, hmore, hP⟩ := h.calls
  obtain ⟨more', hmore', hP'⟩ := h'.calls
  refine ⟨⟨more ++ more', ?_, ?_⟩, h'.faults.trans h.faults, h'.infinity.trans h.infinity⟩
  · rw [hmore', hmore, List.append_assoc]
  · intro call hcall
    rcases List.mem_append.1 hcall with hcall | hcall
    · exact hP call hcall
    · exact hP' call hcall

theorem mono {Q : NativeCall → Prop} (le : ∀ c, P c → Q c) (h : w.Extends P w') :
    w.Extends Q w' := by
  obtain ⟨more, calls, all⟩ := h.calls
  exact ⟨⟨more, calls, fun c hc => le c (all c hc)⟩, h.faults, h.infinity⟩

/-- Without calls that satisfy `P` there are no calls. -/
theorem calls_eq (h : w.Extends (fun _ => False) w') : w'.calls = w.calls := by
  obtain ⟨more, hmore, none⟩ := h.calls
  rw [hmore, List.eq_nil_iff_forall_not_mem.2 none, List.append_nil]

end Workspace.Extends

/-- Only records were written since, none of them of a call. -/
def Workspace.Noted (w w' : Workspace) : Prop :=
  ∃ records : List Event, (∀ e ∈ records, e.native? = none) ∧
    w' = { w with journal := w.journal ++ records }

namespace Workspace.Noted

variable {w w' w'' : Workspace}

theorem refl (w : Workspace) : w.Noted w :=
  ⟨[], fun _ h => absurd h List.not_mem_nil, by rw [List.append_nil]⟩

theorem trans (h : w.Noted w') (h' : w'.Noted w'') : w.Noted w'' := by
  obtain ⟨records, none, rfl⟩ := h
  obtain ⟨more, none', rfl⟩ := h'
  refine ⟨records ++ more, fun e he => (List.mem_append.1 he).elim (none e) (none' e), ?_⟩
  rw [List.append_assoc]

theorem calls_eq (h : w.Noted w') : w'.calls = w.calls := by
  obtain ⟨records, none, rfl⟩ := h
  show (w.journal ++ records).filterMap Event.native? = _
  rw [List.filterMap_append, List.filterMap_eq_nil_iff.2 none, List.append_nil]
  rfl

theorem faults_eq (h : w.Noted w') : w'.faults = w.faults := by
  obtain ⟨records, -, rfl⟩ := h
  rfl

theorem orTools_eq (h : w.Noted w') : w'.orTools = w.orTools := by
  obtain ⟨records, -, rfl⟩ := h
  rfl

theorem highs_eq (h : w.Noted w') : w'.highs = w.highs := by
  obtain ⟨records, -, rfl⟩ := h
  rfl

theorem environments_eq (h : w.Noted w') : w'.environments = w.environments := by
  obtain ⟨records, -, rfl⟩ := h
  rfl

theorem gurobi_eq (h : w.Noted w') : w'.gurobi = w.gurobi := by
  obtain ⟨records, -, rfl⟩ := h
  rfl

/-- Records are no calls. -/
theorem extends_ (h : w.Noted w') (P : NativeCall → Prop) : w.Extends P w' := by
  refine ⟨⟨[], ?_, fun _ h => absurd h List.not_mem_nil⟩, h.faults_eq, ?_⟩
  · rw [h.calls_eq, List.append_nil]
  · rw [h.orTools_eq]

end Workspace.Noted

namespace Action

variable {σ α β : Type} {π : σ → Workspace} {P : NativeCall → Prop}

/-- The native calls of an action satisfy `P`, on the workspace that `π` finds in the state. -/
def Makes (π : σ → Workspace) (P : NativeCall → Prop) (x : Action σ α) : Prop :=
  ∀ s, (π s).Extends P (π (x.run s).2)

/-- What `Makes` says of two states, so that it has its rules from `Within`. -/
def Extends (π : σ → Workspace) (P : NativeCall → Prop) (s t : σ) : Prop :=
  (π s).Extends P (π t)

instance : Std.Refl (Extends π P) :=
  ⟨fun s => .refl P (π s)⟩

instance : Trans (Extends π P) (Extends π P) (Extends π P) :=
  ⟨Workspace.Extends.trans⟩

theorem Makes.mono {Q : NativeCall → Prop} {x : Action σ α} (le : ∀ c, P c → Q c)
    (h : Makes π P x) : Makes π Q x :=
  fun s => (h s).mono le

theorem makes_pure (a : α) : Makes π P (pure a : Action σ α) :=
  within_pure (R := Extends π P) a

theorem makes_fail (e : Failure) : Makes π P (fail e : Action σ α) :=
  within_fail (R := Extends π P) e

theorem makes_ofExcept (r : Except Failure α) : Makes π P (ofExcept r : Action σ α) :=
  within_ofExcept (R := Extends π P) r

theorem makes_gets (f : σ → α) : Makes π P (gets f) :=
  within_gets (R := Extends π P) f

theorem makes_modify {f : σ → σ} (h : ∀ s, (π s).Extends P (π (f s))) :
    Makes π P (Action.modify f) :=
  h

theorem makes_check (e : Option Failure) : Makes π P (check e) :=
  within_check (R := Extends π P) e

theorem makes_bind {x : Action σ α} {f : α → Action σ β} (hx : Makes π P x)
    (hf : ∀ a, Makes π P (f a)) : Makes π P (x >>= f) :=
  within_bind (R := Extends π P) hx hf

/-- What an action leaves is extended by what follows on it. -/
theorem makes_after {x : Action σ α} {f : α → Action σ β} (hf : ∀ a, Makes π P (f a)) (s : σ) :
    (π (x.run s).2).Extends P (π ((x >>= f).run s).2) :=
  within_after (R := Extends π P) hf s

theorem makes_attempt {x : Action σ α} (hx : Makes π P x) : Makes π P x.attempt :=
  within_attempt (R := Extends π P) hx

theorem makes_ite {c : Prop} [Decidable c] {x y : Action σ α} (hx : Makes π P x)
    (hy : Makes π P y) : Makes π P (if c then x else y) :=
  within_ite (R := Extends π P) hx hy

theorem makes_forEach {f : α → Action σ β} (hf : ∀ a, Makes π P (f a)) (items : List α) :
    Makes π P (forEach f items) :=
  within_forEach (R := Extends π P) hf items

theorem makes_onSecond {x : Action Workspace α} (hx : Makes id P x) :
    Makes (Prod.snd : σ × Workspace → Workspace) P (onSecond x) :=
  fun s => hx s.2

theorem makes_look (f : σ → α) :
    Makes (Prod.snd : σ × Workspace → Workspace) P (Adapter.look f) :=
  makes_gets _

theorem makes_remember (f : σ → σ) :
    Makes (Prod.snd : σ × Workspace → Workspace) P (Adapter.remember f) :=
  fun s => .refl P s.2

/-! ### Actions on a workspace -/

theorem noted_record {e : Event} (h : e.native? = none) (w : Workspace) :
    w.Noted ((record e).run w).2 := by
  refine ⟨[e], fun e' he => ?_, rfl⟩
  rw [List.mem_singleton.1 he]
  exact h

theorem noted_log (channel : Channel) (level : Level) (message : String) (w : Workspace) :
    w.Noted ((log channel level message).run w).2 :=
  noted_record rfl w

theorem noted_logShowing (values : List Value) (channel : Channel) (level : Level)
    (message : String) (w : Workspace) :
    w.Noted ((logShowing values channel level message).run w).2 := by
  unfold logShowing
  split
  · exact noted_log channel level message w
  · exact .refl w

theorem logShowing_run (values : List Value) (channel : Channel) (level : Level)
    (message : String) (w : Workspace) :
    ∃ w', (logShowing values channel level message).run w = (.ok (), w') ∧ w.Noted w' :=
  ⟨_, Prod.ext (run_logShowing values channel level message w) rfl, noted_logShowing _ _ _ _ w⟩

theorem makes_record {e : Event} (h : e.native? = none) : Makes id P (record e) :=
  fun w => (noted_record h w).extends_ P

theorem makes_log (channel : Channel) (level : Level) (message : String) :
    Makes id P (log channel level message) :=
  makes_record rfl

theorem makes_logShowing (values : List Value) (channel : Channel) (level : Level)
    (message : String) : Makes id P (logShowing values channel level message) :=
  fun w => (noted_logShowing values channel level message w).extends_ P

/-- A call is in the journal, whether it fails or not. -/
theorem run_call (c : NativeCall) (w : Workspace) :
    (call c).run w =
      (match w.faults w.nativeCalls c with
        | none => .ok ()
        | some e => .error e, w.afterCall c) := by
  unfold call record
  simp only [run_bind, run_modify, run_gets]
  cases w.faults w.nativeCalls c <;> rfl

theorem locate_run (w : Workspace) :
    GurobiService.locate.run w =
      (if w.gurobi.present then .ok w.gurobi.library else .error .moduleMissing, w) := by
  unfold GurobiService.locate
  rw [run_bind, run_gets]
  dsimp only
  cases w.gurobi.present <;> rfl

theorem makes_call {c : NativeCall} (hc : P c) : Makes id P (call c) := by
  intro w
  rw [run_call]
  refine ⟨⟨[c], w.calls_afterCall c, fun c' hc' => ?_⟩, rfl, rfl⟩
  rw [List.mem_singleton.1 hc']
  exact hc

end Action

/-! ### Calls that do not fail -/

/-- No call of one library fails; `library` makes its calls native ones. -/
def Workspace.Quiet {C : Type} (library : C → NativeCall) (w : Workspace) : Prop :=
  ∀ n c, w.faults n (library c) = none

namespace Workspace.Quiet

variable {C : Type} {library : C → NativeCall} {w w' : Workspace}

theorem of_faults (quiet : w.Quiet library) (same : w'.faults = w.faults) : w'.Quiet library := by
  unfold Workspace.Quiet
  rw [same]
  exact quiet

theorem of_extends {P : NativeCall → Prop} (quiet : w.Quiet library) (h : w.Extends P w') :
    w'.Quiet library :=
  quiet.of_faults h.faults

theorem run_call {A : Type} (quiet : w.Quiet library) (c : C) (a : A) :
    (liftM (call (library c)) : Action (A × Workspace) Unit).run (a, w) =
      (.ok (), a, w.afterCall (library c)) := by
  rw [Action.run_liftM, Action.run_call, quiet]

end Workspace.Quiet

/-! ### Kinds of calls -/

/-- The call asks a library to solve a model. -/
def NativeCall.solves : NativeCall → Bool
  | .orTools .solve | .highs _ | .gurobi .optimize => true
  | _ => false

/-- The call makes a native model, or a column of the one that was made last. -/
def NativeCall.makes : NativeCall → Bool
  | .orTools (.createSolver _) | .orTools (.numVariable ..) | .orTools (.intVariable ..)
  | .orTools (.boolVariable _) | .gurobi (.createModel _) | .gurobi (.addVariable ..) => true
  | _ => false

/-- The call sets something up, in a library or for a model that is there, and leaves what is in
the model alone. -/
def NativeCall.prepares : NativeCall → Bool
  | .orTools .enableOutput | .orTools .suppressOutput | .orTools (.setTimeLimit _)
  | .orTools (.setThreads _) | .orTools (.setParameterText _)
  | .gurobi (.createEnvironment _) | .gurobi (.setEnvironmentParameter ..)
  | .gurobi .startEnvironment | .gurobi (.setParameter ..) => true
  | _ => false

theorem NativeCall.makes_of_prepares {c : NativeCall} (h : c.prepares = true) :
    c.makes = false := by
  cases c with
  | highs m => cases h
  | orTools c => cases c <;> first | rfl | cases h
  | gurobi c => cases c <;> first | rfl | cases h

theorem NativeCall.solves_of_prepares {c : NativeCall} (h : c.prepares = true) :
    c.solves = false := by
  cases c with
  | highs m => cases h
  | orTools c => cases c <;> first | rfl | cases h
  | gurobi c => cases c <;> first | rfl | cases h

/-- Calls that only prepare make nothing and solve nothing. -/
theorem NativeCall.nothing_of_prepares {cs : List NativeCall} (h : ∀ c ∈ cs, c.prepares = true) :
    ∀ c ∈ cs, c.makes = false ∧ c.solves = false :=
  fun c hc => ⟨makes_of_prepares (h c hc), solves_of_prepares (h c hc)⟩

theorem NativeCall.filter_of_nothing {cs : List NativeCall}
    (h : ∀ c ∈ cs, c.makes = false ∧ c.solves = false) :
    cs.filter (·.makes) = [] ∧ cs.countP (·.solves) = 0 := by
  refine ⟨List.filter_eq_nil_iff.2 fun c hc => ?_, List.countP_eq_zero.2 fun c hc => ?_⟩
  · rw [(h c hc).1]
    exact Bool.false_ne_true
  · rw [(h c hc).2]
    exact Bool.false_ne_true

/-- From one workspace to another the libraries are told to make `made`, in this order, and to solve
a model `solves` times. -/
def Workspace.Tells (w : Workspace) (made : List NativeCall) (solves : Nat) (w' : Workspace) :
    Prop :=
  ∃ more, w'.calls = w.calls ++ more ∧ more.filter (·.makes) = made ∧
    more.countP (·.solves) = solves

namespace Workspace.Tells

variable {w w' w'' : Workspace} {made made' : List NativeCall} {solves solves' : Nat}

theorem of_calls_eq (h : w'.calls = w.calls) : w.Tells [] 0 w' :=
  ⟨[], h.trans (List.append_nil _).symm, rfl, rfl⟩

theorem trans (h : w.Tells made solves w') (h' : w'.Tells made' solves' w'') :
    w.Tells (made ++ made') (solves + solves') w'' := by
  obtain ⟨more, calls, rfl, rfl⟩ := h
  obtain ⟨more', calls', rfl, rfl⟩ := h'
  refine ⟨more ++ more', ?_, List.filter_append _ _, List.countP_append⟩
  rw [calls', calls, List.append_assoc]

/-- What is told nothing afterwards is told what it was before. -/
theorem and_nothing (h : w.Tells made solves w') (h' : w'.Tells [] 0 w'') :
    w.Tells made solves w'' := by
  have both := h.trans h'
  rwa [List.append_nil] at both

/-- Calls that neither make nor solve anything tell nothing. -/
theorem of_none {more : List NativeCall} (calls : w'.calls = w.calls ++ more)
    (none : ∀ c ∈ more, c.makes = false ∧ c.solves = false) : w.Tells [] 0 w' :=
  ⟨more, calls, NativeCall.filter_of_nothing none⟩

theorem of_extends {P : NativeCall → Prop}
    (none : ∀ c, P c → c.makes = false ∧ c.solves = false) (h : w.Extends P w') :
    w.Tells [] 0 w' := by
  obtain ⟨more, calls, all⟩ := h.calls
  exact of_none calls fun c hc => none c (all c hc)

theorem of_prepares (h : w.Extends (·.prepares = true) w') : w.Tells [] 0 w' := by
  obtain ⟨more, calls, all⟩ := h.calls
  exact of_none calls (NativeCall.nothing_of_prepares all)

theorem afterCall (w : Workspace) (c : NativeCall) :
    w.Tells ([c].filter (·.makes)) ([c].countP (·.solves)) (w.afterCall c) :=
  ⟨[c], w.calls_afterCall c, rfl, rfl⟩

end Workspace.Tells

/-! ### Calls that are read -/

/-- A reading takes calls one after the other. A call that it takes nothing from leaves it as it
is. -/
def Leaves {M : Type} (take : M → NativeCall → M) (c : NativeCall) : Prop :=
  ∀ m, take m c = m

theorem foldl_of_leaves {M : Type} {take : M → NativeCall → M} {cs : List NativeCall}
    (h : ∀ c ∈ cs, Leaves take c) (m : M) : cs.foldl take m = m := by
  induction cs with
  | nil => rfl
  | cons c rest ih =>
      rw [List.foldl_cons, h c List.mem_cons_self]
      exact ih fun c hc => h c (List.mem_cons_of_mem _ hc)

/-! ## A whole solve

A drive gets past the start and the parts of a model and then makes the calls of the adapter's own
solve; what it asks of the adapter after that, and what it writes into the log, is kept apart. -/

/-- After its solve the adapter makes only calls that satisfy `P`. -/
structure Adapter.Settles (A : Type) [Adapter A] (P : NativeCall → Prop) : Prop where
  values : Action.Makes Prod.snd P (Adapter.values (A := A))
  objectiveValue : Action.Makes Prod.snd P (Adapter.objectiveValue (A := A))
  close : Action.Makes Prod.snd P (Adapter.close (A := A))

theorem Adapter.Settles.mono {A : Type} [Adapter A] {P Q : NativeCall → Prop}
    (le : ∀ c, P c → Q c) (h : Adapter.Settles A P) : Adapter.Settles A Q :=
  ⟨h.values.mono le, h.objectiveValue.mono le, h.close.mono le⟩

/-- Asked for its version, an adapter tells it, and nothing else happens. -/
def Adapter.Tells {A : Type} [Adapter A] (s : A × Workspace) : Prop :=
  ∃ version, (Adapter.version (A := A)).run s = (.ok version, s)

/-- Asked for its version, an adapter tells it or fails, and nothing else happens. -/
def Adapter.Replies (A : Type) [Adapter A] : Prop :=
  ∀ s, ∃ r, (Adapter.version (A := A)).run s = (r, s)

theorem Adapter.Replies.makes {A : Type} [Adapter A] {P : NativeCall → Prop}
    (h : Adapter.Replies A) : Action.Makes Prod.snd P (Adapter.version (A := A)) := by
  intro s
  obtain ⟨r, asked⟩ := h s
  rw [asked]
  exact .refl P _

theorem Adapter.Replies.tells {A : Type} [Adapter A] (h : Adapter.Replies A) {s : A × Workspace}
    (ok : ((Adapter.version (A := A)).run s).1.isOk = true) : Adapter.Tells s := by
  obtain ⟨version, t, told⟩ := Action.exists_run_of_isOk ok
  obtain ⟨r, asked⟩ := h s
  rw [asked] at told
  cases told
  exact ⟨version, asked⟩

/-- Told to solve, an adapter finds something that can be used and announced, and after that it
answers with these values and this objective. -/
structure Adapter.Yields {A : Type} [Adapter A] (s : A × Workspace) (status : Status)
    (xs : List Float) (x : Float) : Prop where
  usable : status.usable = true
  announced : status.unannounced? = none
  reads : ∃ t, Adapter.solve.run s = (.ok (.proper status), t) ∧
    (∃ raw, Adapter.values.run t = (.ok raw, t) ∧ Dispatch.readValues raw = .ok xs) ∧
    ∃ raw, Adapter.objectiveValue.run t = (.ok raw, t) ∧ raw.toFloat = .ok x

namespace Dispatch

open LinearDispatch.Action

variable {A : Type} [Adapter A] {P : NativeCall → Prop}

theorem giveUp_makes (status : Status) (backend : Value) (diagnostics : List Diagnostic) :
    Makes id P (giveUp status backend diagnostics) :=
  makes_bind (makes_logShowing _ _ _ _) fun _ => makes_pure _

theorem giveUpAfter_makes (e : Failure) (backend : Value) : Makes id P (giveUpAfter e backend) := by
  unfold giveUpAfter
  split
  · exact giveUp_makes _ _ _
  · exact makes_bind (makes_logShowing _ _ _ _) fun _ => giveUp_makes _ _ _

theorem conclude_makes (outcome : Outcome) (backend : Value) :
    Makes id P (conclude outcome backend) := by
  unfold conclude
  dsimp only
  split
  · split
    · exact makes_bind (makes_logShowing _ _ _ _) fun _ => makes_pure _
    · exact makes_pure _
  · exact makes_bind (makes_check _) fun _ => giveUp_makes _ _ _

theorem closeQuietly_makes (h : Adapter.Settles A P) (backend : Value) :
    Makes Prod.snd P (closeQuietly (A := A) backend) := by
  refine makes_bind (makes_attempt h.close) fun closed => ?_
  cases closed with
  | ok => exact makes_pure ()
  | error e => exact makes_onSecond (makes_logShowing _ _ _ _)

/-- What a drive does with the answer to its solve: it reads values and objective back if there is a
usable solution. -/
def readBack (problem : Problem) (backend : Value) (answer : Given Status) :
    Action (A × Workspace) Outcome := do
  let status ← Action.ofExcept (answer.require "usable")
  if !status.usable then
    return ⟨.without status backend, []⟩
  let raw ← Adapter.values
  let values ← Action.ofExcept (readValues raw)
  if values.length ≠ problem.columns.length then
    return ⟨.without .numericalFailure backend,
      [wrongLength values.length problem.columns.length]⟩
  let raw ← Adapter.objectiveValue
  let objective ← Action.ofExcept raw.toFloat
  return ⟨⟨status, some (.real objective), values.map .real, backend⟩, []⟩

/-- A drive that gets past the parts goes on with the solve of the adapter. -/
theorem run_of_handed {problem : Problem} {parameters : Given Parameters} (backend : Value)
    {s s₁ s₂ : A × Workspace} {version : Value}
    (started : (Adapter.start parameters).run s = (.ok (), s₁))
    (asked : (Adapter.version (A := A)).run s₁ = (.ok version, s₁))
    (handed : (handOver problem.parts).run (s₁.1, ((logShowing [version] .solver .info
      ("Starting optimization with " ++ version.shown ++ "...")).run s₁.2).2) = (.ok (), s₂)) :
    (run problem parameters backend).run s =
      (Adapter.solve >>= readBack problem backend).run s₂ := by
  have noted := run_logShowing [version] .solver .info
    ("Starting optimization with " ++ version.shown ++ "...") s₁.2
  unfold run
  rw [run_bind, started]
  dsimp only
  rw [run_bind, asked]
  dsimp only
  rw [run_bind, run_liftM, noted]
  dsimp only
  rw [run_bind, handed]
  rfl

theorem readBack_makes (h : Adapter.Settles A P) (problem : Problem) (backend : Value)
    (answer : Given Status) : Makes Prod.snd P (readBack (A := A) problem backend answer) := by
  refine makes_bind (makes_ofExcept _) fun status => ?_
  refine makes_ite (makes_pure _) ?_
  refine makes_bind h.values fun raw => ?_
  refine makes_bind (makes_ofExcept _) fun values => ?_
  refine makes_ite (makes_pure _) ?_
  refine makes_bind h.objectiveValue fun raw => ?_
  exact makes_bind (makes_ofExcept _) fun _ => makes_pure _

/-- Once the parts are handed over, a drive comes to the solve of the adapter and to its read-back.
-/
theorem run_comes {problem : Problem} {parameters : Given Parameters} (backend : Value)
    {Done : A × Workspace → Prop} {s s₁ : A × Workspace}
    (started : (Adapter.start parameters).run s = (.ok (), s₁)) (tells : Adapter.Tells s₁)
    (handed : ∀ w, s₁.2.Noted w →
      ∃ s₂, (handOver problem.parts).run (s₁.1, w) = (.ok (), s₂) ∧ Done s₂) :
    ∃ s₂, Done s₂ ∧ (run problem parameters backend).run s =
      (Adapter.solve >>= readBack problem backend).run s₂ := by
  obtain ⟨version, asked⟩ := tells
  obtain ⟨s₂, given, done⟩ := handed _ (noted_logShowing [version] .solver .info
    ("Starting optimization with " ++ version.shown ++ "...") s₁.2)
  exact ⟨s₂, done, run_of_handed backend started asked given⟩

/-- A drive that finds something usable ends with it, whether the adapter can be closed or not. -/
theorem attempt_of_run {problem : Problem} {parameters : Given Parameters} {backend : Value}
    {s t : A × Workspace} {outcome : Outcome}
    (ran : (run problem parameters backend).run s = (.ok outcome, t))
    (usable : outcome.solution.status.usable = true) :
    ((attempt problem parameters backend).run s).1 = .ok outcome := by
  have closed : ∃ u, (closeQuietly (A := A) backend).run t = (.ok (), u) := by
    unfold closeQuietly
    rw [run_bind, run_attempt]
    cases ((Adapter.close (A := A)).run t) with
    | mk r u =>
        cases r with
        | ok => exact ⟨_, rfl⟩
        | error e => exact ⟨_, Prod.ext (run_logShowing _ _ _ _ _) rfl⟩
  obtain ⟨u, closed⟩ := closed
  unfold attempt
  rw [run_bind, run_attempt, ran]
  dsimp only
  rw [run_bind, closed]
  exact conclude_of_usable backend usable u.2

/-- What a drive does after its stages is to give up or conclude, and to close the adapter. -/
theorem attempt_after (h : Adapter.Settles A P) (problem : Problem) (parameters : Given Parameters)
    (backend : Value) (s : A × Workspace) :
    ((run problem parameters backend).run s).2.2.Extends P
      ((attempt problem parameters backend).run s).2.2 := by
  refine makes_after (x := (run problem parameters backend).attempt) (fun ended => ?_) s
  cases ended with
  | error e =>
      refine makes_bind (makes_onSecond (giveUpAfter_makes e backend)) fun outcome => ?_
      exact makes_bind (closeQuietly_makes h backend) fun _ => makes_pure _
  | ok outcome =>
      refine makes_bind (closeQuietly_makes h backend) fun _ => ?_
      exact makes_onSecond (conclude_makes outcome backend)

/-- The drive of an adapter that cannot be started, or does not tell its version then, makes the
calls of the start, and closes it. -/
theorem attempt_of_not_ready (h : Adapter.Settles A P) {problem : Problem}
    {parameters : Given Parameters} (backend : Value) {s t : A × Workspace} {e : Failure}
    (starts : Makes Prod.snd P (Adapter.start (A := A) parameters)) (replies : Adapter.Replies A)
    (failed : (Adapter.start parameters >>= fun _ => Adapter.version (A := A)).run s =
      (.error e, t)) :
    s.2.Extends P ((attempt problem parameters backend).run s).2.2 := by
  have ran : (run problem parameters backend).run s = (.error e, t) := by
    unfold run
    rw [run_bind] at failed ⊢
    cases started : (Adapter.start parameters).run s with
    | mk r s₁ =>
        rw [started] at failed
        cases r with
        | error e' =>
            cases failed
            rfl
        | ok =>
            dsimp only at failed ⊢
            rw [run_bind, failed]
  have before := makes_bind starts (fun _ => replies.makes) s
  rw [failed] at before
  have after := attempt_after h problem parameters backend s
  rw [ran] at after
  exact before.trans after

/-- The drive of an adapter that can be started, tells its version and takes all parts comes to the
solve of the adapter and makes no other calls after it than those of the read-back. What the solve
yields is the outcome. -/
theorem attempt_comes (h : Adapter.Settles A P) {problem : Problem}
    {parameters : Given Parameters} (backend : Value) {Done : A × Workspace → Prop}
    {s s₁ : A × Workspace} (started : (Adapter.start parameters).run s = (.ok (), s₁))
    (tells : Adapter.Tells s₁)
    (handed : ∀ w, s₁.2.Noted w →
      ∃ s₂, (handOver problem.parts).run (s₁.1, w) = (.ok (), s₂) ∧ Done s₂) :
    ∃ s₂, Done s₂ ∧
      (Adapter.solve.run s₂).2.2.Extends P ((attempt problem parameters backend).run s).2.2 ∧
      ∀ {status xs x}, Adapter.Yields s₂ status xs x → xs.length = problem.columns.length →
        ((attempt problem parameters backend).run s).1 =
          .ok ⟨⟨status, some (.real x), xs.map .real, backend⟩, []⟩ := by
  obtain ⟨s₂, done, ran⟩ := run_comes backend started tells handed
  refine ⟨s₂, done, ?_, fun {status xs x} yields count => ?_⟩
  · have solved := makes_after (x := Adapter.solve) (readBack_makes h problem backend) s₂
    rw [← ran] at solved
    exact solved.trans (attempt_after h problem parameters backend s)
  · obtain ⟨usable, -, t, solved, ⟨raw, valued, read⟩, objective, asked, readObjective⟩ := yields
    rw [run_bind, solved] at ran
    refine attempt_of_run (t := t) (ran.trans ?_) usable
    unfold readBack
    dsimp only
    rw [run_bind, run_ofExcept, show Given.require "usable" (.proper status) = .ok status from rfl]
    dsimp only
    rw [if_neg (by simp [usable]), run_bind, valued]
    dsimp only
    rw [run_bind, run_ofExcept, read]
    dsimp only
    rw [if_neg (by simp [count]), run_bind, asked]
    dsimp only
    rw [run_bind, run_ofExcept, readObjective]
    rfl

end Dispatch

end LinearDispatch
