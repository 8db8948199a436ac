import LinearDispatch.Proofs.Shaping
import LinearDispatch.Proofs.Within
import Mathlib.Logic.Relation

/-!
# Building, edit by edit

A caller builds models by operations, in any order and on objects that are shared at will. Whatever
an operation does to the store, it does by edits: it makes a cell, or writes one. An edit carries
the condition under which it is made: a bound is written as `Bound.set` leaves it, a coefficient
goes to an index that the caller gave or that some expression has already, and a row comes in
through the check or past it.

So what holds of a store however it was built is shown for each kind of edit, and this file is the
only one that follows the operations through their steps. They fail in between or not: what was
done until then is edits.
-/

namespace LinearDispatch

open LinearDispatch.Action Workspace

/-! ## Growing stores -/

namespace Cells

variable {α : Type} [Inhabited α] {S : α → α → Prop}

/-- Cells that are there stay, and each is related to what it is later. -/
structure Grows (S : α → α → Prop) (c d : Cells α) : Prop where
  size_le : c.items.size ≤ d.items.size
  later : ∀ r : Ref α, r.index < c.items.size → S (c.get r) (d.get r)

theorem Grows.refl (same : ∀ a, S a a) (c : Cells α) : c.Grows S c :=
  ⟨Nat.le_refl _, fun _ _ => same _⟩

theorem Grows.trans (chain : ∀ {a b e}, S a b → S b e → S a e) {c d f : Cells α}
    (first : c.Grows S d) (second : d.Grows S f) : c.Grows S f where
  size_le := Nat.le_trans first.size_le second.size_le
  later r inside := chain (first.later r inside)
    (second.later r (Nat.lt_of_lt_of_le inside first.size_le))

theorem grows_push (same : ∀ a, S a a) (c : Cells α) (a : α) : c.Grows S (c.push a) where
  size_le := by
    rw [push, Array.size_push]
    exact Nat.le_succ _
  later r inside := by
    rw [c.get_push r a inside]
    exact same _

theorem grows_set (same : ∀ a, S a a) (c : Cells α) (r : Ref α) {a : α} (h : S (c.get r) a) :
    c.Grows S (c.set r a) where
  size_le := Nat.le_of_eq Array.size_setIfInBounds.symm
  later s inside := by
    by_cases eq : r = s
    · cases eq
      rw [c.get_set_self r a inside]
      exact h
    · rw [c.get_set_ne r s a eq]
      exact same _

theorem get_push_cases (c : Cells α) (a : α) (r : Ref α) :
    (c.push a).get r = c.get r ∨ (c.push a).get r = a := by
  unfold get push
  rw [Array.getElem?_push]
  split
  · exact .inr rfl
  · exact .inl rfl

theorem get_set_cases (c : Cells α) (s r : Ref α) (a : α) :
    (c.set s a).get r = c.get r ∨ s = r ∧ (c.set s a).get r = a := by
  by_cases same : s = r
  · cases same
    by_cases inside : s.index < c.items.size
    · exact .inr ⟨rfl, c.get_set_self s a inside⟩
    · rw [c.set_of_size_le s a (Nat.le_of_not_lt inside)]
      exact .inl rfl
  · exact .inl (c.get_set_ne s r a same)

theorem set_get (c : Cells α) (r : Ref α) : c.set r (c.get r) = c := by
  by_cases inside : r.index < c.items.size
  · unfold set get
    congr 1
    apply Array.ext
    · exact Array.size_setIfInBounds
    · intro i _ here
      by_cases eq : r.index = i
      · cases eq
        rw [Array.getElem_setIfInBounds_self, Array.getElem?_eq_getElem here, Option.getD_some]
      · rw [Array.getElem_setIfInBounds_ne here eq]
  · exact c.set_of_size_le r _ (Nat.le_of_not_lt inside)

theorem get_of_size_le (c : Cells α) (r : Ref α) (h : c.items.size ≤ r.index) :
    c.get r = default := by
  rw [get, Array.getElem?_eq_none h]
  rfl

end Cells

/-- What no operation takes back: cells stay, a bound that has a shape keeps having one, variables
and constraints keep their parts, an expression keeps its indices, and the two lists of a program
are only appended to. -/
structure Store.Grows (s t : Store) : Prop where
  bounds : s.bounds.Grows (fun b b' => b.isSet = true → b'.isSet = true) t.bounds
  expressions : s.expressions.Grows (fun e e' => e.coefficients.keys <+: e'.coefficients.keys)
    t.expressions
  vars : s.vars.Grows Eq t.vars
  constraints : s.constraints.Grows Eq t.constraints
  programs : s.programs.Grows (fun p p' => p.vars <+: p'.vars ∧ p.constraints <+: p'.constraints)
    t.programs

namespace Store

variable {s t : Store}

theorem Grows.refl (s : Store) : s.Grows s where
  bounds := .refl (fun _ => id) _
  expressions := .refl (fun e => List.prefix_refl e.coefficients.keys) _
  vars := .refl (fun _ => rfl) _
  constraints := .refl (fun _ => rfl) _
  programs := .refl (fun _ => ⟨List.prefix_rfl, List.prefix_rfl⟩) _

theorem Grows.trans {u : Store} (first : s.Grows t) (second : t.Grows u) : s.Grows u where
  bounds := .trans (fun ha hb h => hb (ha h)) first.bounds second.bounds
  expressions := .trans (fun ha hb => ha.trans hb) first.expressions second.expressions
  vars := .trans (fun ha hb => ha.trans hb) first.vars second.vars
  constraints := .trans (fun ha hb => ha.trans hb) first.constraints second.constraints
  programs := .trans (fun ha hb => ⟨ha.1.trans hb.1, ha.2.trans hb.2⟩) first.programs
    second.programs

theorem Grows.bound_isSet (h : s.Grows t) {r : Ref Bound} (isSet : (s.bounds.get r).isSet = true) :
    (t.bounds.get r).isSet = true := by
  refine h.bounds.later r (Nat.lt_of_not_le fun outside => ?_) isSet
  rw [s.bounds.get_of_size_le r outside] at isSet
  cases isSet

theorem Grows.mem_keys (h : s.Grows t) {r : Ref Expression} {i : Nat}
    (mem : i ∈ (s.expressions.get r).coefficients.keys) :
    i ∈ (t.expressions.get r).coefficients.keys := by
  refine (h.expressions.later r (Nat.lt_of_not_le fun outside => ?_)).subset mem
  rw [s.expressions.get_of_size_le r outside] at mem
  cases mem

theorem Grows.program (h : s.Grows t) (p : Ref Program) :
    (s.programs.get p).vars <+: (t.programs.get p).vars ∧
      (s.programs.get p).constraints <+: (t.programs.get p).constraints := by
  by_cases inside : p.index < s.programs.items.size
  · exact h.programs.later p inside
  · rw [s.programs.get_of_size_le p (Nat.le_of_not_lt inside)]
    exact ⟨List.nil_prefix, List.nil_prefix⟩

theorem Grows.row_isSet (h : s.Grows t) {c : Ref Constraint}
    (inside : c.index < s.constraints.items.size) (isSet : (s.row c).bound.isSet = true) :
    (t.row c).bound.isSet = true := by
  have same : s.constraints.get c = t.constraints.get c := h.constraints.later c inside
  unfold row at isSet ⊢
  rw [← same]
  exact h.bound_isSet isSet

end Store

/-! ## Operations -/

namespace Model

/-- The operations that make and change model objects. -/
inductive Operation where
  | newBound
  | shapeBound (r : Ref Bound) (kind : Choice BoundKind) (lower upper : Value)
  | newExpression (source : Option TermSource)
  | addTerm (r : Ref Expression) (index value : Value)
  | addTerms (r : Ref Expression) (source : TermSource)
  | newVariable (kind : Choice VariableKind) (name : Value)
  | newConstraint (source : Option TermSource) (kind : Option (Choice BoundKind))
      (lower upper name : Value)
  | newProgram (name : Value)
  | appendVariables (r : Ref Program) (vs : List (Given (Ref Variable)))
  | replaceObjective (r : Ref Program) (e : Given (Ref Expression))
  | appendConstraints (r : Ref Program) (cs : List (Given (Ref Constraint)))
  /-- past the check that the row has a bound -/
  | appendRow (r : Ref Program) (c : Given (Ref Constraint))

def Operation.perform : Operation → Action Workspace Unit
  | newBound => do let _ ← Model.newBound .unset
  | shapeBound r kind lower upper => do let _ ← Model.shapeBound r kind lower upper
  | newExpression source => do let _ ← Model.newExpression source
  | addTerm r index value => do let _ ← Model.addTerm r index value
  | addTerms r source => do let _ ← Model.addTerms r source
  | newVariable kind name => do let _ ← Model.newVariable kind name
  | newConstraint source kind lower upper name => do
    let _ ← Model.newConstraint source kind lower upper name
  | newProgram name => do let _ ← Model.newProgram name
  | appendVariables r vs => do let _ ← Model.appendVariables r vs
  | replaceObjective r e => do let _ ← Model.replaceObjective r e
  | appendConstraints r cs => do let _ ← Model.appendConstraints r cs
  | appendRow r c => Model.appendRow r c

/-- A store that comes about by building. Between two operations anything may happen to the rest of
the workspace, and an operation that fails counts with what it had done. -/
inductive Reachable : Store → Prop where
  | empty : Reachable .empty
  | perform (operation : Operation) {w : Workspace} (before : Reachable w.models) :
      Reachable (operation.perform.run w).2.models

def performAll (operations : List Operation) (w : Workspace) : Workspace :=
  operations.foldl (fun w operation => (operation.perform.run w).2) w

theorem Reachable.performAll (operations : List Operation) :
    ∀ {w : Workspace}, Reachable w.models → Reachable (performAll operations w).models := by
  induction operations with
  | nil => exact id
  | cons operation rest ih => exact fun before => ih (.perform operation before)

/-- The caller gives the integer `n` as the index of one of the terms. -/
def TermSource.Mentions : TermSource → Nat → Prop
  | .terms t, n => ∃ items, t.items = .ok items ∧ ∃ v, .ok (.ofInt n, v) ∈ items
  | .view _, _ => False

/-- The caller gives the integer `n` as the index of a coefficient. -/
def Operation.Mentions : Operation → Nat → Prop
  | addTerm _ index _, n => index = .ofInt n
  | addTerms _ source, n => source.Mentions n
  | newExpression source, n | newConstraint source .., n => ∃ t ∈ source, t.Mentions n
  | _, _ => False

/-- What an operation may put into a row list: a constraint whose bound has a shape, or anything if
it goes past the check. -/
def Operation.Admits : Operation → Store → Given (Ref Constraint) → Prop
  | appendConstraints _ cs, s, row => row ∈ cs ∧ ∃ c, row = .proper c ∧ (s.row c).bound.isSet = true
  | appendRow _ row', _, row => row = row'
  | _, _, _ => False

/-! ## Edits -/

/-- One edit that an operation makes, with the condition under which it is made. -/
inductive Edit (operation : Operation) : Store → Store → Prop where
  | newBound (s : Store) (kind : VariableKind) :
      Edit operation s { s with bounds := s.bounds.push (initialBound kind) }
  | bound {s : Store} {r : Ref Bound} {kind : Choice BoundKind} {lower upper : Value} {b : Bound}
      {receipt : Receipt} (set : (s.bounds.get r).set kind lower upper = .ok (b, receipt)) :
      Edit operation s { s with bounds := s.bounds.set r b }
  | newExpression (s : Store) :
      Edit operation s { s with expressions := s.expressions.push .zero }
  | term {s : Store} (r : Ref Expression) {i : Nat} (x : Float)
      (known : operation.Mentions i ∨ ∃ e, i ∈ (s.expressions.get e).coefficients.keys) :
      Edit operation s
        { s with expressions := s.expressions.set r ((s.expressions.get r).addTerm i x) }
  | newVariable (s : Store) (v : Variable) : Edit operation s { s with vars := s.vars.push v }
  | newConstraint (s : Store) (c : Constraint) :
      Edit operation s { s with constraints := s.constraints.push c }
  | newProgram (s : Store) (name : Value) (objective : Ref Expression) :
      Edit operation s { s with programs := s.programs.push ⟨name, [], objective, []⟩ }
  | appendVariable (s : Store) (p : Ref Program) (v : Ref Variable) :
      Edit operation s { s with
        programs := s.programs.set p
          { s.programs.get p with vars := (s.programs.get p).vars ++ [v] } }
  | objective (s : Store) (p : Ref Program) (e : Ref Expression) :
      Edit operation s { s with
        programs := s.programs.set p { s.programs.get p with objective := e } }
  | appendRow {s : Store} (p : Ref Program) {row : Given (Ref Constraint)}
      (admitted : operation.Admits s row) :
      Edit operation s { s with
        programs := s.programs.set p
          { s.programs.get p with constraints := (s.programs.get p).constraints ++ [row] } }

/-- The edits of one operation, in a row. -/
def Edits (operation : Operation) : Store → Store → Prop :=
  Relation.ReflTransGen (Edit operation)

end Model

/-! ## What an edit does -/

theorem Bound.isSet_ofSides {shape : BoundKind} (h : shape ≠ .unset) (lower upper : Float) :
    (ofSides shape lower upper).isSet = true := by
  cases shape with
  | unset => exact absurd rfl h
  | fixed | lower | upper | double => rfl

theorem Expression.keys_addTerm (e : Expression) (i : Nat) (x : Float) :
    (e.addTerm i x).coefficients.keys =
      if i ∈ e.coefficients.keys then e.coefficients.keys else e.coefficients.keys ++ [i] :=
  e.coefficients.keys_put i _

theorem Value.index?_eq_some {v : Value} {i : Nat} (h : v.index? = some i) : v = .ofInt i := by
  unfold index? at h
  split at h
  · cases h
    rfl
  · cases h

/-- Adding a coefficient drops it and leaves the expression as it was, or adds a number at an index
that was given as an integer. -/
theorem Expression.add_cases {e e' : Expression} {index value : Value} {receipt : Receipt}
    (added : e.add index value = .ok (e', receipt)) :
    (e' = e ∧ receipt.accepted = false) ∨
      ∃ (i : Nat) (x : Float), index = .ofInt i ∧ value.toFloat = .ok x ∧ e' = e.addTerm i x ∧
        receipt = .stored := by
  unfold add at added
  split at added
  · obtain ⟨-, dropped⟩ := Value.whenWritable_eq_ok.1 added
    cases dropped
    exact .inl ⟨rfl, rfl⟩
  · next i given =>
      cases hx : value.toFloat with
      | error failure =>
          rw [hx] at added
          cases added
      | ok x =>
          rw [hx] at added
          cases added
          exact .inr ⟨i, x, Value.index?_eq_some given, rfl, rfl, rfl⟩

namespace Model

variable {operation : Operation} {s t : Store}

theorem Edit.grows (h : Edit operation s t) : s.Grows t := by
  have same := Store.Grows.refl s
  cases h with
  | newBound kind => exact { same with bounds := Cells.grows_push (fun _ => id) _ _ }
  | bound set =>
      refine { same with bounds := Cells.grows_set (fun _ => id) _ _ fun isSet => ?_ }
      obtain ⟨rfl, -⟩ | ⟨shape, l, u, acceptable, rfl, -⟩ := Bound.set_cases set
      · exact isSet
      · exact Bound.isSet_ofSides acceptable.settable l u
  | newExpression =>
      exact { same with
        expressions := Cells.grows_push (fun e => List.prefix_refl e.coefficients.keys) _ _ }
  | term r x known =>
      refine { same with
        expressions := Cells.grows_set (fun e => List.prefix_refl e.coefficients.keys) _ _ ?_ }
      rw [Expression.keys_addTerm]
      split
      · exact List.prefix_rfl
      · exact List.prefix_append _ _
  | newVariable v => exact { same with vars := Cells.grows_push (fun _ => rfl) _ _ }
  | newConstraint c => exact { same with constraints := Cells.grows_push (fun _ => rfl) _ _ }
  | newProgram name objective =>
      exact { same with
        programs := Cells.grows_push (fun _ => ⟨List.prefix_rfl, List.prefix_rfl⟩) _ _ }
  | appendVariable p v =>
      exact { same with
        programs := Cells.grows_set (fun _ => ⟨List.prefix_rfl, List.prefix_rfl⟩) _ _
          ⟨List.prefix_append _ _, List.prefix_rfl⟩ }
  | objective p e =>
      exact { same with
        programs := Cells.grows_set (fun _ => ⟨List.prefix_rfl, List.prefix_rfl⟩) _ _
          ⟨List.prefix_rfl, List.prefix_rfl⟩ }
  | appendRow p admitted =>
      exact { same with
        programs := Cells.grows_set (fun _ => ⟨List.prefix_rfl, List.prefix_rfl⟩) _ _
          ⟨List.prefix_rfl, List.prefix_append _ _⟩ }

theorem Edits.grows (h : Edits operation s t) : s.Grows t := by
  induction h with
  | refl => exact .refl s
  | tail _ edit grows => exact grows.trans edit.grows

/-! ## What an operation does -/

/-- What becomes of the models is edits; the rest of the workspace may become anything. -/
def Edited (operation : Operation) (w w' : Workspace) : Prop :=
  Edits operation w.models w'.models

instance : Std.Refl (Edited operation) :=
  ⟨fun _ => .refl⟩

instance : Trans (Edited operation) (Edited operation) (Edited operation) :=
  ⟨Relation.ReflTransGen.trans⟩

theorem edits_change {f : Store → Store} (h : ∀ s, Edit operation s (f s)) :
    Within (Edited operation) (change f) :=
  fun w => .single (h w.models)

theorem edits_noted (r : Receipt) : Within (Edited operation) (noted r) := by
  unfold noted
  cases r.reason? with
  | none => exact within_pure _
  | some reason => exact fun _ => .refl

theorem edits_newBound (kind : VariableKind) :
    Within (Edited operation) (newBound (initialBound kind)) := by
  refine within_bind (within_gets _) fun _ => ?_
  exact within_bind (edits_change fun s => .newBound s kind) fun _ => within_pure _

theorem edits_shapeBound (r : Ref Bound) (kind : Choice BoundKind) (lower upper : Value) :
    Within (Edited operation) (shapeBound r kind lower upper) := by
  intro w
  refine related_ofExcept_bind (s := w) fun pair set => ?_
  have written : Edited operation w
      { w with models := { w.models with bounds := w.models.bounds.set r pair.1 } } :=
    .single (.bound set)
  exact written.trans (edits_noted pair.2 _)

theorem edits_newZero : Within (Edited operation) newZero :=
  within_bind (within_gets _) fun _ => within_bind (edits_change .newExpression) fun _ =>
    within_pure _

theorem addTerm_edited {w : Workspace} {index : Value}
    (known : ∀ i : Nat, index = .ofInt i →
      operation.Mentions i ∨ ∃ e, i ∈ (w.models.expressions.get e).coefficients.keys)
    (r : Ref Expression) (value : Value) :
    Edited operation w ((addTerm r index value).run w).2 := by
  refine related_ofExcept_bind (s := w) fun pair added => ?_
  have written : Edited operation w
      { w with models := { w.models with
        expressions := w.models.expressions.set r pair.1 } } := by
    obtain ⟨same, -⟩ | ⟨i, x, given, -, sum, -⟩ := Expression.add_cases added
    · rw [same]
      change Edits operation w.models
        { w.models with expressions := w.models.expressions.set r (w.models.expressions.get r) }
      rw [Cells.set_get]
      exact .refl
    · rw [sum]
      exact .single (.term r x (known i given))
  exact written.trans (edits_noted pair.2 _)

theorem addFrom_edited {w : Workspace} (r source : Ref Expression) {index : Nat}
    (inside : index ∈ (w.models.expressions.get source).coefficients.keys) :
    Edited operation w ((do
      let x ← look (·.expressions.get source |>.coefficient index)
      addTerm r (Value.ofInt index) (Value.ofFloat x)).run w).2 := by
  refine related_bind .refl fun x w' looked => ?_
  cases looked
  refine addTerm_edited (fun i given => ?_) r _
  cases given
  exact .inr ⟨source, inside⟩

/-- Adding the terms of another expression. Its indices are in it when they are listed, and they
are still in it when their turn comes. -/
theorem addView_edited (r source : Ref Expression) (indices : List Nat) :
    ∀ {w : Workspace},
      (∀ i ∈ indices, i ∈ (w.models.expressions.get source).coefficients.keys) →
      Edited operation w ((forEach (fun (index : Nat) => do
        let x ← look (·.expressions.get source |>.coefficient index)
        addTerm r (Value.ofInt index) (Value.ofFloat x)) indices).run w).2 := by
  induction indices with
  | nil => exact fun _ => .refl
  | cons index rest ih =>
      intro w inside
      have one := @addFrom_edited operation _ r source _ (inside index List.mem_cons_self)
      rw [forEach]
      refine related_bind one fun _ w' ran => related_bind (ih fun i hi => ?_) fun _ _ _ => .refl
      rw [ran] at one
      exact one.grows.mem_keys (inside i (List.mem_cons_of_mem index hi))

theorem edits_addTerms (r : Ref Expression) {source : TermSource}
    (given : ∀ n, source.Mentions n → operation.Mentions n) :
    Within (Edited operation) (addTerms r source) := by
  intro w
  cases source with
  | terms t =>
      refine related_ofExcept_bind fun items listed => within_forEach_of_mem (fun item mem => ?_) w
      refine fun w' => related_ofExcept_bind fun pair read => addTerm_edited (fun i index => ?_) r _
      refine .inl (given i ⟨items, listed, pair.2, ?_⟩)
      rw [← index, ← read]
      exact mem
  | view source => exact addView_edited r source _ fun _ => id

theorem edits_newExpression {source : Option TermSource}
    (given : ∀ n, ∀ t ∈ source, t.Mentions n → operation.Mentions n) :
    Within (Edited operation) (newExpression source) := by
  refine within_bind edits_newZero fun r => ?_
  cases source with
  | none => exact within_pure _
  | some t => exact within_bind (edits_addTerms r fun n => given n t rfl) fun _ => within_pure _

theorem edits_newVariable (kind : Choice VariableKind) (name : Value) :
    Within (Edited operation) (newVariable kind name) := by
  cases kind with
  | other v => exact within_fail _
  | member kind =>
      refine within_bind (edits_newBound kind) fun bound => within_bind (within_gets _) fun _ => ?_
      exact within_bind (edits_change fun s => .newVariable s _) fun _ => within_pure _

theorem edits_newConstraint {source : Option TermSource}
    (given : ∀ n, ∀ t ∈ source, t.Mentions n → operation.Mentions n)
    (kind : Option (Choice BoundKind)) (lower upper name : Value) :
    Within (Edited operation) (newConstraint source kind lower upper name) := by
  refine within_bind (edits_newExpression given) fun expression => ?_
  refine within_bind (edits_newBound .continuous) fun bound => ?_
  have made : Within (Edited operation) (do
      let r ← look (·.constraints.next)
      change fun s => { s with constraints := s.constraints.push ⟨expression, bound, name⟩ }
      pure r) := by
    refine within_bind (within_gets _) fun _ => ?_
    exact within_bind (edits_change fun s => .newConstraint s _) fun _ => within_pure _
  cases kind with
  | none => exact made
  | some kind => exact within_bind (edits_shapeBound bound kind lower upper) fun _ => made

theorem edits_newProgram (name : Value) : Within (Edited operation) (newProgram name) := by
  refine within_bind edits_newZero fun objective => within_bind (within_gets _) fun _ => ?_
  exact within_bind (edits_change fun s => .newProgram s name objective) fun _ => within_pure _

theorem edits_appendVariable (p : Ref Program) (v : Given (Ref Variable)) :
    Within (Edited operation) (appendVariable p v) := by
  cases v with
  | other f => exact within_fail _
  | proper v =>
      exact within_bind (edits_change fun s => .appendVariable s p v) fun _ => within_pure _

theorem edits_replaceObjective (p : Ref Program) (e : Given (Ref Expression)) :
    Within (Edited operation) (replaceObjective p e) := by
  cases e with
  | other f => exact within_fail _
  | proper e => exact within_bind (edits_change fun s => .objective s p e) fun _ => within_pure _

theorem edits_appendConstraint (p : Ref Program) {c : Given (Ref Constraint)}
    (admits : ∀ s r, c = .proper r → (s.row r).bound.isSet = true → operation.Admits s c) :
    Within (Edited operation) (appendConstraint p c) := by
  cases c with
  | other f => exact within_fail _
  | proper r =>
      intro w
      change Edited operation w ((if (w.models.row r).bound.isSet = true then do
        appendRow p (.proper r)
        pure Receipt.stored
      else do
        let note ← Action.ofExcept (incompleteNote (w.models.row r).name)
        noted (.dropped note)).run w).2
      split
      · next isSet =>
          exact .single (.appendRow p (admits w.models r rfl isSet))
      · exact within_bind (within_ofExcept _) (fun _ => edits_noted _) w

/-- An operation changes the models by edits, whether it returns or fails. -/
theorem Operation.edits_perform (operation : Operation) :
    Within (Edited operation) operation.perform := by
  cases operation with
  | newBound => exact within_bind (edits_newBound .continuous) fun _ => within_pure _
  | shapeBound => exact within_bind (edits_shapeBound _ _ _ _) fun _ => within_pure _
  | newExpression source =>
      refine within_bind (edits_newExpression fun n t ht mentions => ?_) fun _ => within_pure _
      exact ⟨t, ht, mentions⟩
  | addTerm r index value =>
      refine within_bind (fun w => addTerm_edited (fun i given => ?_) r value) fun _ =>
        within_pure _
      exact .inl given
  | addTerms r source => exact within_bind (edits_addTerms r fun _ => id) fun _ => within_pure _
  | newVariable => exact within_bind (edits_newVariable _ _) fun _ => within_pure _
  | newConstraint source =>
      refine within_bind (edits_newConstraint (fun n t ht mentions => ?_) _ _ _ _) fun _ =>
        within_pure _
      exact ⟨t, ht, mentions⟩
  | newProgram => exact within_bind (edits_newProgram _) fun _ => within_pure _
  | appendVariables =>
      exact within_bind (within_forEach (edits_appendVariable _) _) fun _ => within_pure _
  | replaceObjective => exact within_bind (edits_replaceObjective _ _) fun _ => within_pure _
  | appendConstraints p cs =>
      refine within_bind (within_forEach_of_mem fun c mem => ?_) fun _ => within_pure _
      exact edits_appendConstraint p fun s r proper isSet => ⟨mem, r, proper, isSet⟩
  | appendRow p c => exact edits_change fun s => .appendRow p rfl

end Model

end LinearDispatch
