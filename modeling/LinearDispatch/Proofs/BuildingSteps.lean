import LinearDispatch.Proofs.UnreadableValues
import LinearDispatch.Proofs.Respects

/-!
# Steps that leave no trace

A step of building stores one input, and it reads and checks everything before its one write. So a
step that drops its input or fails leaves all models as they were.

A call with many inputs is made of steps, one for each input, and takes them in order until one of
them fails. There is nothing that takes back what the steps before it did. `Taken` is a row of steps
that return, and a call with many inputs is told by the steps that it has taken: with all of them it
answers one receipt each, and otherwise with the failure of the next one, which has changed nothing.
The dropped ones can be left out.

Where the inputs are the terms of an expression, that may be the one they are added to. The terms
are read one by one while others are written; but a term that is still to be read is not written
before, so that these are the terms there were at the start.
-/

namespace LinearDispatch.Model

open LinearDispatch.Action Workspace

/-! ## Single steps -/

/-- A call that stores one input. -/
inductive Step where
  | shape (r : Ref Bound) (kind : Choice BoundKind) (lower upper : Value)
  | term (r : Ref Expression) (index value : Value)
  | decision (p : Ref Program) (v : Given (Ref Variable))
  | objective (p : Ref Program) (e : Given (Ref Expression))
  | row (p : Ref Program) (c : Given (Ref Constraint))

def Step.perform : Step → Action Workspace Receipt
  | shape r kind lower upper => shapeBound r kind lower upper
  | term r index value => addTerm r index value
  | decision p v => appendVariable p v
  | objective p e => replaceObjective p e
  | row p c => appendConstraint p c

theorem appendConstraint_run (p : Ref Program) (c : Ref Constraint) (w : Workspace) :
    (appendConstraint p (.proper c)).run w =
      (if (w.models.row c).bound.isSet = true then do
        appendRow p (.proper c)
        pure .stored
      else do
        let note ← Action.ofExcept (incompleteNote (w.models.row c).name)
        noted (.dropped note) : Action Workspace Receipt).run w := by
  rw [appendConstraint, run_bind, look, run_gets]

/-- A constraint that is incomplete is dropped, or its name cannot be written. -/
theorem refuseRow_run (name : Value) (w : Workspace) :
    ∃ answer w', (do
        let note ← Action.ofExcept (incompleteNote name)
        noted (.dropped note) : Action Workspace Receipt).run w = (answer, w') ∧
      Receipt.isAcceptance answer = false ∧ w'.models = w.models := by
  cases noting : incompleteNote name with
  | error e => exact ⟨.error e, w, rfl, rfl, rfl⟩
  | ok note =>
      obtain ⟨w', ran, models⟩ := noted_run (.dropped note) w
      exact ⟨.ok (.dropped note), w', ran, rfl, models⟩

theorem rewriting_models_of_refused {α : Type} {read : Store → α}
    {compute : α → Except Failure (α × Receipt)} {write : Store → α → Store} {w : Workspace}
    (dropped : ∀ new receipt, compute (read w.models) = .ok (new, receipt) →
      receipt.accepted = false → write w.models new = w.models)
    (refused : Receipt.isAcceptance ((rewriting read compute write).run w).1 = false) :
    ((rewriting read compute write).run w).2.models = w.models := by
  obtain ⟨e, -, ran⟩ | ⟨new, receipt, w', computed, ran, models⟩ :=
    rewriting_run read compute write w
  · rw [ran]
  · rw [ran] at refused ⊢
    exact models.trans (dropped new receipt computed refused)

/-- A step that does not store its input leaves the models as they were. -/
theorem Step.models_of_refused {step : Step} {w : Workspace}
    (refused : Receipt.isAcceptance (step.perform.run w).1 = false) :
    (step.perform.run w).2.models = w.models := by
  cases step with
  | shape r kind lower upper =>
      rw [perform, shapeBound_eq] at refused ⊢
      refine rewriting_models_of_refused (fun b receipt set dropped => ?_) refused
      obtain ⟨rfl, -⟩ | ⟨shape, l, u, -, -, rfl⟩ := Bound.set_cases set
      · exact congrArg (fun c => { w.models with bounds := c }) (Cells.set_get ..)
      · cases (Bound.receiptOf_accepted _).symm.trans dropped
  | term r index value =>
      rw [perform, addTerm_eq] at refused ⊢
      refine rewriting_models_of_refused (fun x receipt added dropped => ?_) refused
      obtain ⟨rfl, -⟩ | ⟨i, v, -, -, -, rfl⟩ := Expression.add_cases added
      · exact congrArg (fun c => { w.models with expressions := c }) (Cells.set_get ..)
      · cases dropped
  | decision p v =>
      cases v with
      | other f => rfl
      | proper v => cases refused
  | objective p e =>
      cases e with
      | other f => rfl
      | proper e => cases refused
  | row p c =>
      cases c with
      | other f => rfl
      | proper c =>
          rw [perform, appendConstraint_run] at refused ⊢
          split at refused
          · cases refused
          · next notSet =>
              rw [if_neg notSet]
              obtain ⟨answer, w', ran, -, models⟩ := refuseRow_run (w.models.row c).name w
              rw [ran]
              exact models

/-! ## What a step reads -/

/-- Two workspaces with the same models. -/
abbrev sameModels : Comparison Workspace :=
  .ever fun w w' => w.models = w'.models

theorem respects_readModels {α : Type} (f : Store → α) : Respects sameModels (look f) :=
  respects_gets fun _ _ same => congrArg f same

theorem respects_change (f : Store → Store) : Respects sameModels (change f) :=
  respects_modify (fun _ ended => ended) fun _ _ same => congrArg f same

theorem respects_noted (receipt : Receipt) : Respects sameModels (noted receipt) := by
  have logs : ∀ reason, Respects sameModels (log .model .warning reason) :=
    fun reason => respects_modify (fun _ ended => ended) fun _ _ same => same
  cases receipt with
  | stored => exact respects_pure _
  | storedWithWarning reason => exact respects_bind (logs reason) fun _ => respects_pure _
  | dropped reason => exact respects_bind (logs reason) fun _ => respects_pure _

theorem respects_rewriting {α : Type} (read : Store → α)
    (compute : α → Except Failure (α × Receipt)) (write : Store → α → Store) :
    Respects sameModels (rewriting read compute write) := by
  refine respects_bind (respects_readModels _) fun old => ?_
  refine respects_bind (respects_ofExcept _) fun pair => ?_
  exact respects_bind (respects_change _) fun _ => respects_noted _

/-- What a step answers and does to the models depends on the models only. -/
theorem Step.respects_perform (step : Step) : Respects sameModels step.perform := by
  cases step with
  | shape r kind lower upper =>
      rw [perform, shapeBound_eq]
      exact respects_rewriting _ _ _
  | term r index value =>
      rw [perform, addTerm_eq]
      exact respects_rewriting _ _ _
  | decision p v =>
      cases v with
      | other f => exact respects_fail _
      | proper v => exact respects_bind (respects_change _) fun _ => respects_pure _
  | objective p e =>
      cases e with
      | other f => exact respects_fail _
      | proper e => exact respects_bind (respects_change _) fun _ => respects_pure _
  | row p c =>
      cases c with
      | other f => exact respects_fail _
      | proper c =>
          refine respects_bind (respects_readModels _) fun row => ?_
          refine respects_ite ?_ (respects_bind (respects_ofExcept _) fun _ => respects_noted _)
          exact respects_bind (respects_change _) fun _ => respects_pure _

/-! ## Rows of steps

An input that cannot be taken apart has no step, and fails in its place. -/

def performItem (item : Except Failure Step) : Action Workspace Receipt :=
  Action.ofExcept item >>= Step.perform

theorem performItem_run (step : Step) (w : Workspace) :
    (performItem (.ok step)).run w = step.perform.run w := by
  rw [performItem, run_bind, run_ofExcept]

variable {items : List (Except Failure Step)} {item : Except Failure Step}
  {receipt : Receipt} {receipts : List Receipt} {w w' t : Workspace}

theorem performItem_models_of_refused
    (refused : Receipt.isAcceptance ((performItem item).run w).1 = false) :
    ((performItem item).run w).2.models = w.models := by
  cases item with
  | error e => rfl
  | ok step => exact Step.models_of_refused refused

theorem respects_performItem (item : Except Failure Step) :
    Respects sameModels (performItem item) :=
  respects_bind (respects_ofExcept item) Step.respects_perform

/-- The steps of the items are taken one after the other; all of them return, with these receipts.
-/
inductive Taken : List (Except Failure Step) → Workspace → List Receipt → Workspace → Prop where
  | nil (w : Workspace) : Taken [] w [] w
  | cons {item : Except Failure Step} {rest : List (Except Failure Step)} {w w' t : Workspace}
      {receipt : Receipt} {receipts : List Receipt}
      (first : (performItem item).run w = (.ok receipt, w')) (later : Taken rest w' receipts t) :
      Taken (item :: rest) w (receipt :: receipts) t

/-- Those of the items whose inputs are stored, going by the receipts. -/
def stored (items : List (Except Failure Step)) (receipts : List Receipt) :
    List (Except Failure Step) :=
  ((items.zip receipts).filter (·.2.accepted)).map Prod.fst

theorem stored_cons (item : Except Failure Step) (items : List (Except Failure Step))
    (receipt : Receipt) (receipts : List Receipt) :
    stored (item :: items) (receipt :: receipts) =
      if receipt.accepted then item :: stored items receipts else stored items receipts := by
  unfold stored
  rw [List.zip_cons_cons, List.filter_cons]
  split <;> rfl

namespace Taken

theorem length_eq (h : Taken items w receipts t) : receipts.length = items.length := by
  induction h with
  | nil => rfl
  | cons _ _ ih => exact congrArg (· + 1) ih

/-- The same steps can be taken wherever the models are the same. -/
theorem of_sameModels (h : Taken items w receipts t) (same : w.models = w'.models) :
    ∃ t', Taken items w' receipts t' ∧ t.models = t'.models := by
  induction h generalizing w' with
  | nil w => exact ⟨w', .nil w', same⟩
  | @cons item rest w w₁ t receipt receipts first later ih =>
      obtain ended | ⟨answer, left⟩ := (respects_performItem item w).2 w' same
      · exact ended.elim
      · cases ran : (performItem item).run w' with
        | mk answer' w₁' =>
            rw [first, ran] at answer left
            cases answer
            obtain ⟨t', later', same'⟩ := ih left
            exact ⟨t', .cons ran later', same'⟩

/-- Without the dropped ones the steps come to the same. -/
theorem stored_only (h : Taken items w receipts t) :
    ∃ t', Taken (stored items receipts) w (receipts.filter (·.accepted)) t' ∧
      t'.models = t.models := by
  induction h with
  | nil w => exact ⟨w, .nil w, rfl⟩
  | @cons item rest w w₁ t receipt receipts first later ih =>
      obtain ⟨t', taken, same⟩ := ih
      rw [stored_cons, List.filter_cons]
      split
      · exact ⟨t', .cons first taken, same⟩
      · next dropped =>
          have unchanged := @performItem_models_of_refused item w
          rw [first] at unchanged
          obtain ⟨t'', taken', same'⟩ :=
            taken.of_sameModels (unchanged (Bool.eq_false_iff.2 dropped))
          exact ⟨t'', taken', same'.symm.trans same⟩

/-- What each item increases by one if it is stored, all of them increase by the number of those
that are. -/
theorem increase (h : Taken items w receipts t) (Holds : Store → Prop) (size : Store → Nat)
    (each : ∀ item ∈ items, ∀ {w receipt w'}, (performItem item).run w = (.ok receipt, w') →
      Holds w.models → Holds w'.models ∧
        size w'.models = size w.models + receipt.accepted.toNat)
    (holds : Holds w.models) :
    size t.models = size w.models + receipts.countP (·.accepted) := by
  induction h with
  | nil => rfl
  | @cons item rest w w' t receipt receipts first later ih =>
      obtain ⟨holds', more⟩ := each item List.mem_cons_self first holds
      rw [ih (fun next mem => each next (List.mem_cons_of_mem item mem)) holds', more,
        List.countP_cons]
      cases receipt.accepted <;> simp; omega

end Taken

/-- How far a row of items gets: the early ones are taken, and if there are others the next one
fails. -/
structure Progress (items early : List (Except Failure Step)) (receipts : List Receipt)
    (w t : Workspace) (ended : Except Failure (List Receipt) × Workspace) : Prop where
  taken : Taken early w receipts t
  effect : ended.2.models = t.models
  answer : (items = early ∧ ended.1 = .ok receipts) ∨
    ∃ item late e, items = early ++ item :: late ∧
      ((performItem item).run t).1 = .error e ∧ ended.1 = .error e

/-- Items are taken in order until one of them fails. -/
theorem exists_progress (items : List (Except Failure Step)) (w : Workspace) :
    ∃ early receipts t, Progress items early receipts w t ((forEach performItem items).run w) := by
  induction items generalizing w with
  | nil => exact ⟨[], [], w, .nil w, rfl, .inl ⟨rfl, rfl⟩⟩
  | cons item rest ih =>
      cases ran : (performItem item).run w with
      | mk answer w' =>
          cases answer with
          | error e =>
              have unchanged := @performItem_models_of_refused item w
              rw [ran] at unchanged
              rw [run_forEach_cons_of_error ran]
              exact ⟨[], [], w, .nil w, unchanged rfl, .inr ⟨item, rest, e, rfl, by rw [ran], rfl⟩⟩
          | ok receipt =>
              obtain ⟨early, receipts, t, taken, effect, answer⟩ := ih w'
              rw [run_forEach_cons_of_ok ran]
              refine ⟨item :: early, receipt :: receipts, t, .cons ran taken, effect, ?_⟩
              obtain ⟨rfl, answer⟩ | ⟨next, late, e, rfl, failed, answer⟩ := answer
              · exact .inl ⟨rfl, congrArg (Except.map (receipt :: ·)) answer⟩
              · exact .inr ⟨next, late, e, rfl, failed, congrArg (Except.map (receipt :: ·)) answer⟩

/-! ## Calls with many inputs -/

/-- A call that stores one input after another. -/
inductive Bulk where
  | terms (r : Ref Expression) (source : TermSource)
  | decisions (p : Ref Program) (vs : List (Given (Ref Variable)))
  | rows (p : Ref Program) (cs : List (Given (Ref Constraint)))

namespace Bulk

def perform : Bulk → Action Workspace (List Receipt)
  | terms r source => addTerms r source
  | decisions p vs => appendVariables p vs
  | rows p cs => appendConstraints p cs

/-- The steps for the inputs, in order, as the models are when the call is made. -/
def steps (s : Store) : Bulk → Except Failure (List (Except Failure Step))
  | terms r (.terms t) =>
    t.items.map fun items => items.map fun item => item.map fun (index, value) =>
      .term r index value
  | terms r (.view source) =>
    .ok ((s.expressions.get source).coefficients.entries.map fun (index, x) =>
      .ok (.term r (.ofInt index) (.ofFloat x)))
  | decisions p vs => .ok (vs.map fun v => .ok (.decision p v))
  | rows p cs => .ok (cs.map fun c => .ok (.row p c))

end Bulk

/-! ### Terms of an expression that is being read -/

theorem coefficient_addTerm_of_ne (x : Expression) {i j : Nat} (v : Float) (h : i ≠ j) :
    (x.addTerm i v).coefficient j = x.coefficient j := by
  unfold Expression.addTerm Expression.coefficient
  rw [OrderedMap.get?_put, if_neg h]

theorem coefficient_after_addTerm {r : Ref Expression} {i : Nat} {value : Value}
    (ran : (addTerm r (.ofInt i) value).run w = (.ok receipt, w')) (source : Ref Expression)
    {j : Nat} (h : i ≠ j) :
    (w'.models.expressions.get source).coefficient j =
      (w.models.expressions.get source).coefficient j := by
  obtain ⟨e, -, failed⟩ | ⟨x, receipt', w'', added, ran', models⟩ :=
    addTerm_run r (.ofInt i) value w
  · cases ran.symm.trans failed
  · cases ran.symm.trans ran'
    have written : w'.models.expressions = w.models.expressions.set r x :=
      congrArg Store.expressions models
    rw [written]
    obtain old | ⟨rfl, new⟩ := w.models.expressions.get_set_cases r source x
    · rw [old]
    · rw [new]
      obtain ⟨rfl, -⟩ | ⟨i', v, given, -, rfl, -⟩ := Expression.add_cases added
      · rfl
      · cases given
        exact coefficient_addTerm_of_ne _ v h

/-- Reads one term of an expression and adds it to another, or to itself. -/
def copyTerm (r source : Ref Expression) (index : Nat) : Action Workspace Receipt := do
  let x ← look (·.expressions.get source |>.coefficient index)
  addTerm r (Value.ofInt index) (Value.ofFloat x)

theorem copyTerm_run (r source : Ref Expression) (index : Nat) (w : Workspace) :
    (copyTerm r source index).run w = (addTerm r (.ofInt index)
      (.ofFloat ((w.models.expressions.get source).coefficient index))).run w := by
  rw [copyTerm, run_bind, look, run_gets]

/-- The terms that are still to be read are those there were. -/
theorem copyTerm_forEach (r source : Ref Expression) (entries : List (Nat × Float))
    (distinct : (entries.map Prod.fst).Nodup)
    (there : ∀ e ∈ entries, (w.models.expressions.get source).coefficient e.1 = e.2) :
    (forEach (copyTerm r source) (entries.map Prod.fst)).run w =
      (forEach performItem (entries.map fun e =>
        .ok (.term r (.ofInt e.1) (.ofFloat e.2)))).run w := by
  induction entries generalizing w with
  | nil => rfl
  | cons e rest ih =>
      rw [List.map_cons, List.nodup_cons] at distinct
      rw [List.map_cons, List.map_cons]
      have live := copyTerm_run r source e.1 w
      rw [there e List.mem_cons_self] at live
      have step := performItem_run (.term r (.ofInt e.1) (.ofFloat e.2)) w
      cases ran : (addTerm r (.ofInt e.1) (.ofFloat e.2)).run w with
      | mk answer w' =>
          cases answer with
          | error failure =>
              rw [run_forEach_cons_of_error (live.trans ran),
                run_forEach_cons_of_error (step.trans ran)]
          | ok receipt =>
              rw [run_forEach_cons_of_ok (live.trans ran),
                run_forEach_cons_of_ok (step.trans ran), ih distinct.2]
              intro e' mem
              have other : e.1 ≠ e'.1 :=
                fun same => distinct.1 (same ▸ List.mem_map_of_mem mem)
              rw [coefficient_after_addTerm ran source other]
              exact there e' (List.mem_cons_of_mem e mem)

/-- A call with many inputs takes their steps. -/
theorem Bulk.run_perform (bulk : Bulk) (w : Workspace) :
    bulk.perform.run w =
      (Action.ofExcept (bulk.steps w.models) >>= forEach performItem).run w := by
  cases bulk with
  | terms r source =>
      cases source with
      | terms t =>
          show (addTerms r (.terms t)).run w = (Action.ofExcept (t.items.map _) >>= _).run w
          rw [addTerms, run_bind, run_bind, run_ofExcept, run_ofExcept]
          cases t.items with
          | error e => rfl
          | ok items =>
              show (forEach _ items).run w = (forEach performItem (items.map _)).run w
              rw [forEach_map]
              congr 2
              funext item
              cases item <;> rfl
      | view source =>
          let x := w.models.expressions.get source
          refine copyTerm_forEach r source x.coefficients.entries x.coefficients.distinct
            fun e mem => ?_
          show (x.coefficients.get? e.1).getD 0.0 = e.2
          rw [OrderedMap.get?_eq_some_iff.2 mem]
          rfl
  | decisions p vs =>
      show (forEach (appendVariable p) vs).run w = (forEach performItem (vs.map _)).run w
      rw [forEach_map]
      rfl
  | rows p cs =>
      show (forEach (appendConstraint p) cs).run w = (forEach performItem (cs.map _)).run w
      rw [forEach_map]
      rfl

/-! ### Lists that grow -/

/-- The list that a call appends to has become longer by this much. -/
def Bulk.Grown (before after : Store) (n : Nat) : Bulk → Prop
  | terms _ _ => True
  | decisions p _ => p.index < before.programs.items.size →
      (after.programs.get p).vars.length = (before.programs.get p).vars.length + n
  | rows p _ => p.index < before.programs.items.size →
      (after.programs.get p).constraints.length = (before.programs.get p).constraints.length + n

theorem changeProgram_increase {s : Store} {p : Ref Program} (f : Program → Program)
    (length : Program → Nat)
    (longer : length (f (s.programs.get p)) = length (s.programs.get p) + 1)
    (there : p.index < s.programs.items.size) :
    p.index < (s.programs.set p (f (s.programs.get p))).items.size ∧
      length ((s.programs.set p (f (s.programs.get p))).get p) = length (s.programs.get p) + 1 := by
  rw [Cells.get_set_self _ _ _ there, Cells.set, Array.size_setIfInBounds]
  exact ⟨there, longer⟩

theorem decision_increase {p : Ref Program} {v : Given (Ref Variable)}
    (ran : (performItem (.ok (.decision p v))).run w = (.ok receipt, w'))
    (there : p.index < w.models.programs.items.size) :
    p.index < w'.models.programs.items.size ∧
      (w'.models.programs.get p).vars.length =
        (w.models.programs.get p).vars.length + receipt.accepted.toNat := by
  rw [performItem_run] at ran
  cases v with
  | other f => cases ran
  | proper v =>
      cases ran
      exact changeProgram_increase (fun q => { q with vars := q.vars ++ [v] })
        (·.vars.length) List.length_append there

theorem row_increase {p : Ref Program} {c : Given (Ref Constraint)}
    (ran : (performItem (.ok (.row p c))).run w = (.ok receipt, w'))
    (there : p.index < w.models.programs.items.size) :
    p.index < w'.models.programs.items.size ∧
      (w'.models.programs.get p).constraints.length =
        (w.models.programs.get p).constraints.length + receipt.accepted.toNat := by
  have refused := @performItem_models_of_refused (.ok (.row p c)) w
  rw [ran] at refused
  cases accepted : receipt.accepted with
  | false =>
      rw [refused accepted]
      exact ⟨there, rfl⟩
  | true =>
      rw [performItem_run] at ran
      cases c with
      | other f => cases ran
      | proper c =>
          rw [Step.perform, appendConstraint_run] at ran
          split at ran
          · cases ran
            exact changeProgram_increase
              (fun q => { q with constraints := q.constraints ++ [.proper c] })
              (·.constraints.length) List.length_append there
          · obtain ⟨answer, w'', ran', refused, -⟩ := refuseRow_run (w.models.row c).name w
            cases ran'.symm.trans ran
            cases accepted.symm.trans refused

theorem Bulk.grown {bulk : Bulk} {early late : List (Except Failure Step)}
    (steps : bulk.steps w.models = .ok (early ++ late)) (taken : Taken early w receipts t) :
    bulk.Grown w.models t.models (receipts.countP (·.accepted)) := by
  cases bulk with
  | terms r source => trivial
  | decisions p vs =>
      refine taken.increase (p.index < ·.programs.items.size) (·.programs.get p |>.vars.length)
        fun item mem => ?_
      obtain ⟨v, -, rfl⟩ := List.mem_map.1 (Except.ok.inj steps ▸ List.mem_append_left late mem)
      exact decision_increase
  | rows p cs =>
      refine taken.increase (p.index < ·.programs.items.size)
        (·.programs.get p |>.constraints.length) fun item mem => ?_
      obtain ⟨c, -, rfl⟩ := List.mem_map.1 (Except.ok.inj steps ▸ List.mem_append_left late mem)
      exact row_increase

/-- A step that drops its input or fails leaves all models as they were. A call with many inputs
does what the steps for its inputs do one after the other, up to the first that fails; the dropped
ones among them do nothing. If none fails it answers one receipt for each input, and as many of
them are acceptances as the list it appends to has new entries. -/
theorem refused_steps_leave_no_trace (w : Workspace) :
    (∀ step : Step, Receipt.isAcceptance (step.perform.run w).1 = false →
      (step.perform.run w).2.models = w.models) ∧
    ∀ bulk : Bulk,
      match bulk.steps w.models with
      | .error e => bulk.perform.run w = (.error e, w)
      | .ok items => ∃ early receipts t,
          Progress items early receipts w t (bulk.perform.run w) ∧
          receipts.length = early.length ∧
          (∃ t', Taken (stored early receipts) w (receipts.filter (·.accepted)) t' ∧
            t'.models = t.models) ∧
          bulk.Grown w.models t.models (receipts.countP (·.accepted)) := by
  refine ⟨fun step => Step.models_of_refused, fun bulk => ?_⟩
  have performed := bulk.run_perform w
  cases steps : bulk.steps w.models with
  | error e =>
      rw [steps] at performed
      exact performed
  | ok items =>
      rw [steps, run_bind, run_ofExcept] at performed
      obtain ⟨early, receipts, t, progress⟩ := exists_progress items w
      have split : ∃ late, items = early ++ late := by
        obtain ⟨rfl, -⟩ | ⟨item, late, -, rfl, -⟩ := progress.answer
        · exact ⟨[], (List.append_nil _).symm⟩
        · exact ⟨item :: late, rfl⟩
      obtain ⟨late, rfl⟩ := split
      exact ⟨early, receipts, t, performed ▸ progress, progress.taken.length_eq,
        progress.taken.stored_only, Bulk.grown steps progress.taken⟩

/-- A double bound that is the wrong way round, and terms of which the second is dropped and the
third cannot be read. -/
theorem refused_steps_sample :
    let w := { Sample.workspace .binary with
      models := { Store.empty with bounds := ⟨#[.unset]⟩, expressions := ⟨#[.zero]⟩ } }
    let step : Step := .shape ⟨0⟩ (.member .double) (.ofFloat 2.0) (.ofFloat 1.0)
    let bulk : Bulk := .terms ⟨0⟩ (.terms (.pairs
      [(.ofInt 0, .ofFloat 1.0), (.text "x", .ofFloat 1.0), (.ofInt 1, .none),
        (.ofInt 2, .ofFloat 1.0)]))
    (step.perform.run w).2.models = w.models ∧
      (bulk.perform.run w).1 = .error (.notConvertible "NoneType") ∧
      ∃ items early receipts t, bulk.steps w.models = .ok items ∧
        Progress items early receipts w t (bulk.perform.run w) := by
  intro w step bulk
  obtain ⟨unchanged, taken⟩ := refused_steps_leave_no_trace w
  have dropped : Receipt.isAcceptance (step.perform.run w).1 = false := by decide +kernel
  obtain ⟨early, receipts, t, progress, -⟩ := taken bulk
  exact ⟨unchanged step dropped, rfl, _, early, receipts, t, rfl, progress⟩

end LinearDispatch.Model
