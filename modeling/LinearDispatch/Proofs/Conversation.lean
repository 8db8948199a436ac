import LinearDispatch.Proofs.Ledger

/-!
# Conversations with an adapter

What is asked of an adapter during a solve, and how that can end. The agenda is fixed by the
problem and the parameters: start, version, every part in order, solve, values, objective value.
A conversation follows the agenda from its first request on and leaves it at the first call that
does not let the solve go on. Which call that is decides the outcome, and nothing else does.

`attempt_converses` is the statement about the whole drive: a conversation, then one close. The
proof goes through the stages of the drive in their order; the only induction is the one over the
parts.
-/

namespace LinearDispatch

/-- What is asked of an adapter for a problem, in order, as long as nothing ends it. -/
def agenda (problem : Problem) (parameters : Given Parameters) : List Request :=
  [.start parameters, .version] ++ problem.parts.map .give ++ [.solve, .values, .objectiveValue]

/-- The calls made are those asked for, and the solve of a problem with so many columns goes on
after each of them. -/
structure Passed (asked : List Request) (columns : Nat) (done : List Entry) : Prop where
  asked : done.map Entry.request = asked
  fine : ∀ x ∈ done, x.GoesOn columns

/-- The calls are on the agenda, from its first request on, and the solve goes on after each of
them but the last. -/
structure InOrder (todo : List Request) (columns : Nat) (done : List Entry) (last : Entry) :
    Prop where
  asked : (done ++ [last]).map Entry.request <+: todo
  fine : ∀ x ∈ done, x.GoesOn columns

namespace Passed

variable {asked : List Request} {columns : Nat} {done : List Entry}

theorem nothing (columns : Nat) : Passed [] columns [] :=
  ⟨rfl, fun _ hx => absurd hx List.not_mem_nil⟩

theorem next (h : Passed asked columns done) {x : Entry} (hx : x.GoesOn columns) :
    Passed (asked ++ [x.request]) columns (done ++ [x]) := by
  constructor
  · rw [List.map_append, h.asked, List.map_singleton]
  · intro y hy
    cases List.mem_append.1 hy with
    | inl hy => exact h.fine y hy
    | inr hy =>
        rw [List.mem_singleton.1 hy]
        exact hx

theorem last (h : Passed asked columns done) (x : Entry) {todo more : List Request}
    (ahead : todo = asked ++ x.request :: more) : InOrder todo columns done x := by
  refine ⟨⟨more, ?_⟩, h.fine⟩
  rw [ahead, List.map_append, h.asked, List.append_assoc, List.map_singleton,
    List.singleton_append]

end Passed

/-- The ways in which a conversation about a problem can end, with what it then comes to. -/
inductive Conversation (problem : Problem) (parameters : Given Parameters) (backend : Value) :
    List Entry → Except Failure Outcome → Prop
  /-- a call fails, or its answer cannot be read -/
  | failed {done : List Entry} {last : Entry} {e : Failure}
      (order : InOrder (agenda problem parameters) problem.columns.length done last)
      (fails : last.failure? = some e) :
      Conversation problem parameters backend (done ++ [last]) (.error e)
  /-- the adapter has no usable solution -/
  | unusable {done : List Entry} {status : Status}
      (order : InOrder (agenda problem parameters) problem.columns.length done
        (.solve (.ok (.proper status))))
      (bad : status.usable = false) :
      Conversation problem parameters backend (done ++ [.solve (.ok (.proper status))])
        (.ok ⟨.without status backend, []⟩)
  /-- there is not one value for each column -/
  | misfit {done : List Entry} {raw : Value} {values : List Float}
      (order : InOrder (agenda problem parameters) problem.columns.length done
        (.values (.ok raw)))
      (read : Dispatch.readValues raw = .ok values)
      (bad : values.length ≠ problem.columns.length) :
      Conversation problem parameters backend (done ++ [.values (.ok raw)])
        (.ok ⟨.without .numericalFailure backend,
          [Dispatch.wrongLength values.length problem.columns.length]⟩)
  /-- the agenda is through -/
  | solved {done : List Entry} {status : Status} {rawValues : Value} {values : List Float}
      {rawObjective : Value} {objective : Float}
      (order : InOrder (agenda problem parameters) problem.columns.length done
        (.objectiveValue (.ok rawObjective)))
      (answered : .solve (.ok (.proper status)) ∈ done)
      (valued : .values (.ok rawValues) ∈ done)
      (read : Dispatch.readValues rawValues = .ok values)
      (readObjective : rawObjective.toFloat = .ok objective) :
      Conversation problem parameters backend (done ++ [.objectiveValue (.ok rawObjective)])
        (.ok ⟨⟨status, some (.real objective), values.map .real, backend⟩, []⟩)

/-! ## Talking -/

/-- After the calls `done`, an action on a watched adapter makes more of them; all those calls and
the answer are related by `Q`. -/
def Talks {A α : Type} (done : List Entry) (x : Action (Watched A × Workspace) α)
    (Q : List Entry → Except Failure α → Prop) : Prop :=
  ∀ s, ∃ l, (x.run s).2.1.ledger = s.1.ledger ++ l ∧ Q (done ++ l) (x.run s).1

namespace Talks

variable {A α β : Type} {done : List Entry} {Q : List Entry → Except Failure β → Prop}

theorem onSecond {x : Action Workspace β} (h : ∀ w, Q done (x.run w).1) :
    Talks (A := A) done (Action.onSecond x) Q := by
  intro s
  refine ⟨[], (List.append_nil s.1.ledger).symm, ?_⟩
  rw [List.append_nil]
  exact h s.2

theorem ofExcept {r : Except Failure β} (h : Q done r) :
    Talks (A := A) done (Action.ofExcept r) Q :=
  onSecond (x := Action.ofExcept r) fun _ => h

theorem pure {b : β} (h : Q done (.ok b)) : Talks (A := A) done (Pure.pure b) Q :=
  ofExcept h

theorem enter {entry : Except Failure β → Entry} {call : Action (A × Workspace) β}
    (h : ∀ r, Q (done ++ [entry r]) r) : Talks done (Watched.enter entry call) Q :=
  fun s => ⟨[entry (call (s.1.adapter, s.2)).1], rfl, h _⟩

theorem bind {P : List Entry → Except Failure α → Prop} {x : Action (Watched A × Workspace) α}
    {f : α → Action (Watched A × Workspace) β} (hx : Talks done x P)
    (fails : ∀ l e, P l (.error e) → Q l (.error e))
    (goesOn : ∀ l a, P l (.ok a) → Talks l (f a) Q) : Talks done (x >>= f) Q := by
  intro s
  obtain ⟨l, hl, hP⟩ := hx s
  rw [Action.run_bind]
  cases hr : x.run s with
  | mk r t =>
      rw [hr] at hl hP
      cases r with
      | error e => exact ⟨l, hl, fails _ e hP⟩
      | ok a =>
          obtain ⟨l', hl', hQ⟩ := goesOn _ a hP t
          refine ⟨l ++ l', ?_, ?_⟩
          · rw [hl', hl, List.append_assoc]
          · rw [← List.append_assoc]
            exact hQ

theorem enter_bind {entry : Except Failure α → Entry} {call : Action (A × Workspace) α}
    {f : α → Action (Watched A × Workspace) β}
    (fails : ∀ e, Q (done ++ [entry (.error e)]) (.error e))
    (goesOn : ∀ a, Talks (done ++ [entry (.ok a)]) (f a) Q) :
    Talks done (Watched.enter entry call >>= f) Q := by
  refine bind (P := fun l r => l = done ++ [entry r]) (enter fun _ => rfl) ?_ ?_
  · rintro l e rfl
    exact fails e
  · rintro l a rfl
    exact goesOn a

theorem ofExcept_bind {r : Except Failure α} {f : α → Action (Watched A × Workspace) β}
    (fails : ∀ e, r = .error e → Q done (.error e))
    (goesOn : ∀ a, r = .ok a → Talks done (f a) Q) : Talks done (Action.ofExcept r >>= f) Q := by
  cases r with
  | error e => exact ofExcept (fails e rfl)
  | ok a => exact goesOn a rfl

theorem onSecond_bind {x : Action Workspace α} {f : α → Action (Watched A × Workspace) β}
    (never : ∀ w, ∃ a, (x.run w).1 = .ok a)
    (goesOn : ∀ w a, (x.run w).1 = .ok a → Talks done (f a) Q) :
    Talks done (Action.onSecond x >>= f) Q := by
  refine bind (P := fun l r => l = done ∧ ∃ w, (x.run w).1 = r)
    (onSecond fun w => ⟨rfl, w, rfl⟩) ?_ ?_
  · rintro l e ⟨-, w, hw⟩
    obtain ⟨a, ha⟩ := never w
    cases hw.symm.trans ha
  · rintro l a ⟨rfl, w, hw⟩
    exact goesOn w a hw

theorem attempt_bind {P : List Entry → Except Failure α → Prop}
    {x : Action (Watched A × Workspace) α}
    {f : Except Failure α → Action (Watched A × Workspace) β} (hx : Talks done x P)
    (goesOn : ∀ l r, P l r → Talks l (f r) Q) : Talks done (x.attempt >>= f) Q := by
  refine bind (P := fun l r => ∃ ended, r = .ok ended ∧ P l ended) ?_ ?_ ?_
  · intro s
    obtain ⟨l, hl, hP⟩ := hx s
    exact ⟨l, hl, _, rfl, hP⟩
  · rintro l e ⟨_, he, -⟩
    cases he
  · rintro l _ ⟨_, he, hP⟩
    cases he
    exact goesOn l _ hP

end Talks

namespace Dispatch

open Workspace

variable {A : Type} [Adapter A]

theorem handOver_talks {asked : List Request} {columns : Nat} (parts : List Part) :
    ∀ {done : List Entry}, Passed asked columns done →
    Talks done (handOver (A := Watched A) parts) fun l r =>
      match r with
      | .ok () => Passed (asked ++ parts.map .give) columns l
      | .error e => ∃ before last, l = before ++ [last] ∧ last.failure? = some e ∧
          InOrder (asked ++ parts.map .give) columns before last := by
  induction parts generalizing asked with
  | nil =>
      intro done h
      refine .pure ?_
      rw [List.map_nil, List.append_nil]
      exact h
  | cons part rest ih =>
      intro done h
      refine Talks.enter_bind (fun e => ?_) fun _ => ?_
      · exact ⟨done, .give part (.error e), rfl, rfl, h.last (.give part (.error e)) rfl⟩
      · have given : Entry.GoesOn columns (.give part (.ok ())) := rfl
        rw [List.map_cons, List.append_cons asked]
        exact ih (h.next given)

/-- The drive of an adapter up to the read-back starts it; what follows goes on as a
conversation. -/
theorem run_splits (problem : Problem) (parameters : Given Parameters) (backend : Value) :
    ∃ rest : Action (Watched A × Workspace) Outcome,
      run problem parameters backend = (do Adapter.start parameters; rest) ∧
      Talks [.start parameters (.ok ())] rest (Conversation problem parameters backend) := by
  refine ⟨_, rfl, ?_⟩
  have here := (Passed.nothing problem.columns.length).next (x := .start parameters (.ok ())) rfl
  refine Talks.enter_bind (fun e => ?_) fun version => ?_
  · exact .failed (here.last (.version (.error e)) rfl) rfl
  replace here := here.next (x := .version (.ok version)) rfl
  refine Talks.onSecond_bind (fun w => ⟨_, run_logShowing _ _ _ _ w⟩) fun _ _ _ => ?_
  refine Talks.bind (handOver_talks problem.parts here) ?_ ?_
  · rintro l e ⟨before, last, rfl, fails, order⟩
    refine .failed ⟨order.asked.trans ?_, order.fine⟩ fails
    exact List.prefix_append _ _
  clear here
  intro done _ here
  have afterSolve : agenda problem parameters = _ ++ [.values, .objectiveValue] :=
    List.append_cons _ Request.solve [.values, .objectiveValue]
  have afterValues : agenda problem parameters = _ ++ [.objectiveValue] :=
    afterSolve.trans (List.append_cons _ Request.values [.objectiveValue])
  refine Talks.enter_bind (fun e => ?_) fun answer => ?_
  · exact .failed (here.last (.solve (.error e)) rfl) rfl
  refine Talks.ofExcept_bind (fun e he => ?_) fun status hstatus => ?_
  · exact .failed (here.last (.solve (.ok answer)) rfl) (congrArg failureOf he)
  obtain rfl := Given.require_eq_ok.1 hstatus
  have answered : Entry.solve (.ok (.proper status)) ∈ done ++ [.solve (.ok (.proper status))] :=
    List.mem_concat_self
  split
  · next unusable =>
      refine .pure (.unusable (here.last (.solve (.ok (.proper status))) rfl) ?_)
      simpa using unusable
  · next usable =>
      replace usable : status.usable = true := by simpa using usable
      replace here := here.next (x := .solve (.ok (.proper status))) usable
      refine Talks.enter_bind (fun e => ?_) fun rawValues => ?_
      · exact .failed (here.last (.values (.error e)) afterSolve) rfl
      refine Talks.ofExcept_bind (fun e he => ?_) fun values read => ?_
      · exact .failed (here.last (.values (.ok rawValues)) afterSolve) (congrArg failureOf he)
      split
      · next misfit =>
          exact .pure (.misfit (here.last (.values (.ok rawValues)) afterSolve) read misfit)
      · next fits =>
          replace here := here.next (x := .values (.ok rawValues))
            ⟨values, read, Decidable.not_not.1 fits⟩
          refine Talks.enter_bind (fun e => ?_) fun rawObjective => ?_
          · exact .failed (here.last (.objectiveValue (.error e)) afterValues) rfl
          refine Talks.ofExcept_bind (fun e he => ?_) fun objective readObjective => ?_
          · exact .failed (here.last (.objectiveValue (.ok rawObjective)) afterValues)
              (congrArg failureOf he)
          · exact .pure (.solved (here.last (.objectiveValue (.ok rawObjective)) afterValues)
              (List.mem_append_left _ answered) List.mem_concat_self read readObjective)

/-- The drive of an adapter up to the read-back is a conversation, and its first call is the start
of the adapter as it was made. -/
theorem run_converses (problem : Problem) (parameters : Given Parameters) (backend : Value)
    (s : Watched A × Workspace) :
    ∃ talk, ((run problem parameters backend).run s).2.1.ledger = s.1.ledger ++ talk ∧
      Conversation problem parameters backend talk ((run problem parameters backend).run s).1 ∧
      talk.head? = some (.start parameters
        ((Adapter.start parameters).run (s.1.adapter, s.2)).1) := by
  obtain ⟨rest, splits, talks⟩ := run_splits (A := A) problem parameters backend
  rw [splits, Action.run_bind, Watched.start_run]
  obtain ⟨started, a₁, w₁⟩ := (Adapter.start parameters).run (s.1.adapter, s.2)
  cases started with
  | error e =>
      have here := Passed.nothing problem.columns.length
      exact ⟨[.start parameters (.error e)], rfl,
        .failed (here.last (.start parameters (.error e)) rfl) rfl, rfl⟩
  | ok =>
      obtain ⟨l, written, conversation⟩ :=
        talks (⟨a₁, s.1.ledger ++ [.start parameters (.ok ())]⟩, w₁)
      exact ⟨.start parameters (.ok ()) :: l, written.trans (List.append_assoc ..), conversation,
        rfl⟩

/-! ## The whole drive -/

def afterFailure (e : Failure) (backend : Value) : Outcome :=
  if e.isUnavailable then
    ⟨.without .backendUnavailable backend, [⟨.backendUnavailable, e.message⟩]⟩
  else
    ⟨.without .numericalFailure backend,
      [⟨.solverOutcome, .text ("backend '" ++ backend.shown ++ "' raised " ++ e.report)⟩]⟩

/-- What is left of a conversation that ended with a solution, which may be of no use. Why it is of
no use is to be explained then. -/
def afterAnswer (outcome : Outcome) (backend : Value) : Except Failure Outcome :=
  if outcome.solution.success then
    .ok outcome
  else
    match outcome.solution.status.unexplained? with
    | some e => .error e
    | none => .ok ⟨.without outcome.solution.status backend,
        outcome.diagnostics ++ [⟨.solverOutcome, outcome.solution.status.explanation⟩]⟩

def verdict (backend : Value) : Except Failure Outcome → Except Failure Outcome
  | .error e => .ok (afterFailure e backend)
  | .ok outcome => afterAnswer outcome backend

theorem verdict_of_unavailable {e : Failure} (h : e.isUnavailable = true) (backend : Value) :
    verdict backend (.error e) =
      .ok ⟨.without .backendUnavailable backend, [⟨.backendUnavailable, e.message⟩]⟩ :=
  congrArg Except.ok (if_pos h)

theorem verdict_of_other {e : Failure} (h : e.isUnavailable = false) (backend : Value) :
    verdict backend (.error e) =
      .ok ⟨.without .numericalFailure backend,
        [⟨.solverOutcome, .text ("backend '" ++ backend.shown ++ "' raised " ++ e.report)⟩]⟩ :=
  congrArg Except.ok (if_neg (Bool.eq_false_iff.1 h))

theorem verdict_of_success {outcome : Outcome} (h : outcome.solution.success = true)
    (backend : Value) : verdict backend (.ok outcome) = .ok outcome :=
  if_pos h

theorem verdict_of_unexplained {outcome : Outcome} {e : Failure}
    (h : outcome.solution.success = false)
    (unexplained : outcome.solution.status.unexplained? = some e) (backend : Value) :
    verdict backend (.ok outcome) = .error e := by
  show afterAnswer outcome backend = _
  rw [afterAnswer, if_neg (Bool.eq_false_iff.1 h), unexplained]

theorem verdict_of_explained {outcome : Outcome} (h : outcome.solution.success = false)
    (explained : outcome.solution.status.unexplained? = none) (backend : Value) :
    verdict backend (.ok outcome) =
      .ok ⟨.without outcome.solution.status backend,
        outcome.diagnostics ++ [⟨.solverOutcome, outcome.solution.status.explanation⟩]⟩ := by
  show afterAnswer outcome backend = _
  rw [afterAnswer, if_neg (Bool.eq_false_iff.1 h), explained]

theorem run_giveUpAfter (e : Failure) (backend : Value) (w : Workspace) :
    ((giveUpAfter e backend).run w).1 = .ok (afterFailure e backend) := by
  unfold giveUpAfter afterFailure
  split
  · exact run_giveUp _ _ _ w
  · rw [Action.run_bind_of_ok (run_logShowing _ _ _ _ w)]
    exact run_giveUp _ _ _ _

theorem run_conclude (outcome : Outcome) (backend : Value) (w : Workspace) :
    ((conclude outcome backend).run w).1 = afterAnswer outcome backend := by
  cases usable : outcome.solution.status.usable with
  | true =>
      rw [conclude_of_usable backend usable]
      exact (verdict_of_success usable backend).symm
  | false =>
      unfold conclude afterAnswer Solution.success
      dsimp only
      rw [usable, if_neg Bool.false_ne_true, if_neg Bool.false_ne_true]
      cases outcome.solution.status.unexplained? with
      | some e => rfl
      | none =>
          rw [Action.run_bind_of_ok (a := ()) rfl]
          exact run_giveUp _ _ _ w

theorem closeQuietly_talks (backend : Value) (done : List Entry) :
    Talks done (closeQuietly (A := Watched A) backend) fun l r =>
      r = .ok () ∧ ∃ closed, l = done ++ [.close closed] := by
  refine Talks.attempt_bind (P := fun l r => l = done ++ [.close r]) (Talks.enter fun r => rfl) ?_
  rintro l closed rfl
  cases closed with
  | ok => exact .pure ⟨rfl, _, rfl⟩
  | error e => exact .onSecond fun w => ⟨run_logShowing _ _ _ _ w, _, rfl⟩

theorem concludes_failure (e : Failure) (backend : Value) (done : List Entry) :
    Talks (A := A) done
      (do let outcome ← giveUpAfter e backend; closeQuietly backend; pure outcome)
      fun l r => ∃ closed, l = done ++ [.close closed] ∧ r = .ok (afterFailure e backend) := by
  refine Talks.onSecond_bind (fun w => ⟨_, run_giveUpAfter e backend w⟩) fun w outcome hw => ?_
  refine Talks.bind (closeQuietly_talks backend done) (fun l e hl => nomatch hl.1) ?_
  rintro _ _ ⟨-, closed, rfl⟩
  cases hw.symm.trans (run_giveUpAfter e backend w)
  exact .pure ⟨closed, rfl, rfl⟩

theorem concludes_answer (outcome : Outcome) (backend : Value) (done : List Entry) :
    Talks (A := A) done (do closeQuietly backend; conclude outcome backend)
      fun l r => ∃ closed, l = done ++ [.close closed] ∧ r = afterAnswer outcome backend := by
  refine Talks.bind (closeQuietly_talks backend done) (fun l e hl => nomatch hl.1) ?_
  rintro _ _ ⟨-, closed, rfl⟩
  exact .onSecond fun w => ⟨closed, rfl, run_conclude outcome backend w⟩

/-- The drive of an adapter is a conversation that begins with its start, and one close after it.
It comes to the verdict on what the drive up to the read-back comes to. -/
theorem attempt_converses (problem : Problem) (parameters : Given Parameters) (backend : Value)
    (s : Watched A × Workspace) :
    ∃ talk ended closed,
      ((attempt problem parameters backend).run s).2.1.ledger =
        s.1.ledger ++ (talk ++ [.close closed]) ∧
      ((attempt problem parameters backend).run s).1 = verdict backend ended ∧
      ((run problem parameters backend).run (s.1.adapter, s.2)).1 = ended ∧
      Conversation problem parameters backend talk ended ∧
      talk.head? = some (.start parameters
        ((Adapter.start parameters).run (s.1.adapter, s.2)).1) := by
  obtain ⟨talk, written, conversation, starts⟩ := run_converses problem parameters backend s
  have unwatched : ((run problem parameters backend).run (s.1.adapter, s.2)).1 =
      ((run problem parameters backend).run s).1 :=
    (congrArg Prod.fst (run_follows Watched.carries problem parameters backend s)).symm
  unfold attempt
  rw [Action.run_bind, Action.run_attempt]
  cases ran : (run problem parameters backend).run s with
  | mk ended t =>
      rw [ran] at written conversation unwatched
      cases ended with
      | error e =>
          obtain ⟨l, more, closed, ended, answer⟩ := concludes_failure e backend talk t
          refine ⟨talk, .error e, closed, more.trans ?_, answer, unwatched, conversation, starts⟩
          rw [List.append_cancel_left ended, written, List.append_assoc]
      | ok outcome =>
          obtain ⟨l, more, closed, ended, answer⟩ := concludes_answer outcome backend talk t
          refine ⟨talk, .ok outcome, closed, more.trans ?_, answer, unwatched, conversation,
            starts⟩
          rw [List.append_cancel_left ended, written, List.append_assoc]

end Dispatch

end LinearDispatch
