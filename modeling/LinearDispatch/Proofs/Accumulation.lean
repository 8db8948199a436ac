import LinearDispatch.Proofs.BuildingSteps
import Mathlib.Data.List.Sort

/-!
# Coefficients as running sums

The terms of an expression come in by several ways: a few when it is made, lists of them later, or
one at a time. None of that shows in the expression. It has the indices in the order in which they
first came, and for each index the sum of the values that came for it, added from the left in
binary64 arithmetic, which is not associative. So the order in which terms come decides the order of
the indices and the order of the values of one index, and nothing else: terms with different indices
can change places, and messages will not tell the difference, since they show terms by index.

An item is a term as a caller gives it, a pair of values. `accumulate` adds terms that have been
read already; that calls with items come to the same is `addItems_run`. What is no index is dropped
with a complaint that names it. The first one with too many digits to be named is where a call
stops, and then the sums are those of the items before it.
-/

namespace LinearDispatch

/-! ## Terms one after the other -/

namespace Expression

variable {e e' : Expression}

/-- The expression with the terms added to it in order. -/
def accumulate (e : Expression) (terms : List (Nat × Float)) : Expression :=
  terms.foldl (fun e t => e.addTerm t.1 t.2) e

theorem accumulate_cons (e : Expression) (i : Nat) (x : Float) (rest : List (Nat × Float)) :
    e.accumulate ((i, x) :: rest) = (e.addTerm i x).accumulate rest := rfl

theorem accumulate_append (e : Expression) (terms later : List (Nat × Float)) :
    e.accumulate (terms ++ later) = (e.accumulate terms).accumulate later :=
  List.foldl_append

/-- The values for one index, in order. -/
def valuesAt (terms : List (Nat × Float)) (i : Nat) : List Float :=
  (terms.filter (·.1 = i)).map Prod.snd

/-- The indices that are there stay where they are, and new ones follow in the order in which they
first come. -/
theorem keys_accumulate (e : Expression) (terms : List (Nat × Float)) :
    (e.accumulate terms).coefficients.keys = e.coefficients.keys ++
      ((terms.map Prod.fst).filter (· ∉ e.coefficients.keys)).eraseDups := by
  induction terms generalizing e with
  | nil => simp [accumulate]
  | cons t rest ih =>
      obtain ⟨i, x⟩ := t
      rw [accumulate_cons, ih, keys_addTerm, List.map_cons]
      by_cases there : i ∈ e.coefficients.keys
      · rw [if_pos there, List.filter_cons_of_neg (by simpa using there)]
      · rw [if_neg there, List.filter_cons_of_pos (by simpa using there), List.eraseDups_cons,
          List.filter_filter, List.append_assoc, List.singleton_append]
        congr 4
        funext j
        simp [and_comm, not_or, BEq.beq]

theorem valuesAt_cons (j : Nat) (x : Float) (rest : List (Nat × Float)) (i : Nat) :
    valuesAt ((j, x) :: rest) i = if j = i then x :: valuesAt rest i else valuesAt rest i := by
  rw [valuesAt, List.filter_cons]
  by_cases same : j = i
  · rw [if_pos same, if_pos (decide_eq_true same)]
    rfl
  · rw [if_neg same, if_neg (by simpa using same)]
    rfl

theorem coefficient_addTerm_self (e : Expression) (i : Nat) (x : Float) :
    (e.addTerm i x).coefficient i = e.coefficient i + x := by
  rw [coefficient, addTerm, OrderedMap.get?_put, if_pos rfl, Option.getD_some]

/-- What is added to a coefficient are the values for its index, from the left. -/
theorem coefficient_accumulate (e : Expression) (terms : List (Nat × Float)) (i : Nat) :
    (e.accumulate terms).coefficient i =
      (valuesAt terms i).foldl (· + ·) (e.coefficient i) := by
  induction terms generalizing e with
  | nil => rfl
  | cons t rest ih =>
      obtain ⟨j, x⟩ := t
      rw [accumulate_cons, ih, valuesAt_cons]
      by_cases same : j = i
      · cases same
        rw [if_pos rfl, coefficient_addTerm_self, List.foldl_cons]
      · rw [if_neg same, Model.coefficient_addTerm_of_ne e x same]

theorem get?_eq_ite (e : Expression) (i : Nat) :
    e.coefficients.get? i = if i ∈ e.coefficients.keys then some (e.coefficient i) else none := by
  cases found : e.coefficients.get? i with
  | some x =>
      have mem : i ∈ e.coefficients.keys :=
        List.mem_map_of_mem (OrderedMap.get?_eq_some_iff.1 found)
      rw [if_pos mem, coefficient, found, Option.getD_some]
  | none =>
      have absent : i ∉ e.coefficients.keys := fun mem => by
        obtain ⟨⟨i', x⟩, entry, rfl⟩ := List.mem_map.1 mem
        cases found.symm.trans (OrderedMap.get?_eq_some_iff.2 entry)
      rw [if_neg absent]

/-- An expression is its indices with their coefficients. -/
theorem entries_eq_map (e : Expression) :
    e.coefficients.entries = e.coefficients.keys.map fun i => (i, e.coefficient i) := by
  have same : ∀ entry ∈ e.coefficients.entries, id entry = (entry.1, e.coefficient entry.1) := by
    intro entry mem
    rw [coefficient, OrderedMap.get?_eq_some_iff.2 mem]
    rfl
  rw [OrderedMap.keys, List.map_map]
  exact (List.map_id _).symm.trans (List.map_congr_left same)

/-! ### What does not show the order of the indices -/

section

variable (same : ∀ i, e.coefficients.get? i = e'.coefficients.get? i)
include same

end

end Expression

/-! ## Items -/

/-- A term as a caller gives it: an index and a coefficient, both still values. -/
abbrev Item := Value × Value

namespace Item

/-- The coefficient can be read as a number, or the index is none and nobody reads it. -/
def Readable (item : Item) : Prop :=
  ∀ i, item.1.index? = some i → ∃ x, item.2.toFloat = .ok x

/-- The term that an item stands for; an index that is none makes it stand for none. -/
def term? (item : Item) : Option (Nat × Float) :=
  item.1.index?.bind fun i => item.2.toFloat.toOption.map fun x => (i, x)

/-- The terms among the items. -/
def terms (items : List Item) : List (Nat × Float) :=
  items.filterMap term?

/-- The item has an index, or something in its place that a complaint can name. -/
def isWritten (item : Item) : Bool :=
  item.1.index?.isSome || item.1.isWritable

/-- The items before the first one that cannot be complained about. -/
def sent (items : List Item) : List Item :=
  items.takeWhile isWritten

/-- The answer to items that are read one after the other, where `answer` is the one to all. -/
def reply {α : Type} (items : List Item) (answer : α) : Except Failure α :=
  if items.all isWritten then .ok answer else .error .notWritable

theorem reply_of_all {α : Type} {items : List Item} (all : items.all isWritten = true)
    (answer : α) : reply items answer = .ok answer :=
  if_pos all

theorem reply_of_stuck {α : Type} {items : List Item} (stuck : items.all isWritten = false)
    (answer : α) : reply items answer = .error .notWritable :=
  if_neg (by rw [stuck]; nofun)

theorem sent_append_of_all {first : List Item} (all : first.all isWritten = true)
    (later : List Item) : sent (first ++ later) = first ++ sent later :=
  List.takeWhile_append_of_pos (List.all_eq_true.1 all)

theorem sent_of_all {items : List Item} (all : items.all isWritten = true) :
    sent items = items := by
  simpa [sent] using sent_append_of_all all []

theorem sent_append_of_stuck {first : List Item} (stuck : first.all isWritten = false)
    (later : List Item) : sent (first ++ later) = sent first := by
  induction first with
  | nil => cases stuck
  | cons item rest ih =>
      cases written : item.isWritten with
      | false => simp [sent, written]
      | true =>
          rw [List.all_cons, written, Bool.true_and] at stuck
          have same := ih stuck
          simp only [sent] at same
          simp [sent, written, same]

/-- How a readable item is answered. -/
def receipt (item : Item) : Receipt :=
  match item.1.index? with
  | some _ => .stored
  | none => .dropped ("coefficient index must be a non-negative integer, got " ++ item.1.literal)

theorem terms_cons (item : Item) (rest : List Item) :
    terms (item :: rest) = item.term?.toList ++ terms rest := by
  rw [terms, List.filterMap_cons]
  cases item.term? <;> rfl

/-- A readable item is added, or dropped with a reason if there can be one. -/
theorem add_eq {item : Item} (readable : item.Readable) (e : Expression) :
    e.add item.1 item.2 =
      if item.isWritten then .ok (e.accumulate item.term?.toList, item.receipt)
      else .error .notWritable := by
  unfold Expression.add receipt term? isWritten
  cases given : item.1.index? with
  | none => rfl
  | some i =>
      obtain ⟨x, read⟩ := readable i given
      rw [read]
      rfl

/-! ### What the items give for an index -/

end Item

/-! ## Calls -/

theorem Mapping.write_of_new {k : Key} {es : List (Key × Value)}
    (new : ∀ e ∈ es, e.1.same k = false) (v : Value) : write k v es = es ++ [(k, v)] := by
  induction es with
  | nil => rfl
  | cons e rest ih =>
      have other : ¬e.1.same k = true := by simp [new e List.mem_cons_self]
      rw [write, if_neg other, ih fun e mem => new e (List.mem_cons_of_mem _ mem)]
      rfl

/-- Entries with different keys are written to the end, in their order. -/
theorem Mapping.entries_putAll {es : List (Key × Value)} :
    ∀ {m : Mapping}, (m.entries ++ es).Pairwise (fun a b => a.1.same b.1 = false) →
      (m.putAll es).entries = m.entries ++ es := by
  induction es with
  | nil => exact fun _ => (List.append_nil _).symm
  | cons e rest ih =>
      intro m distinct
      have new : ∀ old ∈ m.entries, old.1.same e.1 = false := fun old mem =>
        (List.pairwise_append.1 distinct).2.2 old mem e List.mem_cons_self
      have put : (m.put e.1 e.2).entries = m.entries ++ [e] := write_of_new new e.2
      have next := @ih (m.put e.1 e.2) (by rwa [put, List.append_assoc])
      rw [put, List.append_assoc] at next
      exact next

/-- Of two writes to one cell, the second computed from the first, the second is left. -/
theorem Cells.set_set_get {α : Type} [Inhabited α] (c : Cells α) (r : Ref α) (a : α) (f : α → α) :
    (c.set r a).set r (f ((c.set r a).get r)) = c.set r (f a) := by
  by_cases inside : r.index < c.items.size
  · rw [c.get_set_self r a inside]
    exact congrArg Cells.mk (Array.setIfInBounds_setIfInBounds a)
  · have outside := Nat.le_of_not_lt inside
    rw [c.set_of_size_le r a outside, c.set_of_size_le r _ outside, c.set_of_size_le r _ outside]

namespace Model

open LinearDispatch.Action Workspace Item

variable {r : Ref Expression} {items : List Item} {terms more : List (Nat × Float)}
  {w w' t : Workspace}

/-- The terms have been added to one expression, and the other models are as they were. -/
def Accumulated (r : Ref Expression) (terms : List (Nat × Float)) (w w' : Workspace) : Prop :=
  w'.models = { w.models with
    expressions := w.models.expressions.set r ((w.models.expressions.get r).accumulate terms) }

namespace Accumulated

theorem refl (r : Ref Expression) (w : Workspace) : Accumulated r [] w w := by
  have same := w.models.expressions.set_get r
  exact congrArg (fun c => { w.models with expressions := c }) same.symm

theorem get (h : Accumulated r terms w w') (inside : r.index < w.models.expressions.items.size) :
    w'.models.expressions.get r = (w.models.expressions.get r).accumulate terms := by
  rw [congrArg Store.expressions h]
  exact Cells.get_set_self _ r _ inside

theorem size (h : Accumulated r terms w w') :
    w'.models.expressions.items.size = w.models.expressions.items.size := by
  rw [congrArg Store.expressions h]
  exact Array.size_setIfInBounds

theorem trans (first : Accumulated r terms w w') (later : Accumulated r more w' t) :
    Accumulated r (terms ++ more) w t := by
  have twice := w.models.expressions.set_set_get r ((w.models.expressions.get r).accumulate terms)
    (·.accumulate more)
  rw [Accumulated, Expression.accumulate_append, ← twice]
  rw [Accumulated, first] at later
  exact later

end Accumulated

/-- What is made of the answer to some items is made of it only if there is one. -/
theorem run_bind_of_reply {α β : Type} {x : Action Workspace α} {f : α → Action Workspace β} {a : α}
    {b : β} (ran : x.run w = (reply items a, t)) (then_ : (f a).run t = (.ok b, t)) :
    (x >>= f).run w = (reply items b, t) := by
  rw [run_bind, ran]
  cases all : items.all isWritten with
  | false => rw [reply_of_stuck all, reply_of_stuck all]
  | true =>
      rw [reply_of_all all, reply_of_all all]
      exact then_

theorem addTerm_accumulates {item : Item} (readable : item.Readable)
    (written : item.isWritten = true) (r : Ref Expression) (w : Workspace) :
    ∃ w', (addTerm r item.1 item.2).run w = (.ok item.receipt, w') ∧
      Accumulated r item.term?.toList w w' := by
  have added : ∀ e : Expression,
      e.add item.1 item.2 = .ok (e.accumulate item.term?.toList, item.receipt) :=
    fun e => (add_eq readable e).trans (if_pos written)
  obtain ⟨e, failed, -⟩ | ⟨x, receipt, w', stored, ran, models⟩ := addTerm_run r item.1 item.2 w
  · cases (added _).symm.trans failed
  · cases (added _).symm.trans stored
    exact ⟨w', ran, models⟩

theorem addTerm_stuck {item : Item} (readable : item.Readable) (stuck : item.isWritten = false)
    (r : Ref Expression) (w : Workspace) :
    (addTerm r item.1 item.2).run w = (.error .notWritable, w) := by
  have failed : ∀ e : Expression, e.add item.1 item.2 = .error .notWritable :=
    fun e => (add_eq readable e).trans (if_neg (by rw [stuck]; nofun))
  obtain ⟨e, failed', ran⟩ | ⟨x, receipt, w', stored, -⟩ := addTerm_run r item.1 item.2 w
  · cases (failed _).symm.trans failed'
    exact ran
  · cases (failed _).symm.trans stored

/-- The steps for readable items go on until one cannot be complained about, and what they add up to
are the terms among the items before it. -/
theorem addItems_run (readable : ∀ item ∈ items, item.Readable) (r : Ref Expression)
    (w : Workspace) :
    ∃ w', (forEach performItem (items.map fun item => .ok (.term r item.1 item.2))).run w =
        (reply items (items.map receipt), w') ∧
      Accumulated r (Item.terms (sent items)) w w' := by
  induction items generalizing w with
  | nil => exact ⟨w, rfl, .refl r w⟩
  | cons item rest ih =>
      have step := performItem_run (.term r item.1 item.2) w
      have here := readable item List.mem_cons_self
      cases written : item.isWritten with
      | false =>
          have stuck : (item :: rest).all isWritten = false := by rw [List.all_cons, written]; rfl
          have nothing : sent (item :: rest) = [] := List.takeWhile_cons_of_neg (by simp [written])
          rw [List.map_cons, reply_of_stuck stuck, nothing]
          exact ⟨w, run_forEach_cons_of_error (step.trans (addTerm_stuck here written r w)) _,
            .refl r w⟩
      | true =>
          obtain ⟨w', first, added⟩ := addTerm_accumulates here written r w
          obtain ⟨t, later, rest_added⟩ :=
            ih (fun next mem => readable next (List.mem_cons_of_mem item mem)) w'
          have answer : (reply rest (rest.map receipt)).map (item.receipt :: ·) =
              reply (item :: rest) ((item :: rest).map receipt) := by
            unfold reply
            rw [List.all_cons, written, Bool.true_and]
            split <;> rfl
          have more : sent (item :: rest) = item :: sent rest := List.takeWhile_cons_of_pos written
          rw [List.map_cons, run_forEach_cons_of_ok (step.trans first), later, answer, more,
            terms_cons]
          exact ⟨t, rfl, added.trans rest_added⟩

/-! ### Adding to an expression -/

/-- Terms as a caller gives them can be taken apart into these items. -/
def Gives (given : Terms) (items : List Item) : Prop :=
  given.items = .ok (items.map .ok)

theorem addTerms_run {given : Terms} (gives : Gives given items)
    (readable : ∀ item ∈ items, item.Readable) (r : Ref Expression) (w : Workspace) :
    ∃ w', (addTerms r (.terms given)).run w = (reply items (items.map receipt), w') ∧
      Accumulated r (Item.terms (sent items)) w w' := by
  obtain ⟨w', ran, added⟩ := addItems_run readable r w
  refine ⟨w', (Bulk.run_perform (.terms r (.terms given)) w).trans ?_, added⟩
  rw [Bulk.steps, gives, run_bind, Except.map, run_ofExcept, List.map_map]
  exact ran

/-- A call that gives an expression one item, or several at once. -/
inductive Adding where
  | one (item : Item)
  | several (given : Terms)

namespace Adding

def perform (r : Ref Expression) : Adding → Action Workspace Unit
  | one item => do let _ ← addTerm r item.1 item.2
  | several given => do let _ ← addTerms r (.terms given)

def Items : Adding → List Item → Prop
  | one item, items => items = [item]
  | several given, items => Gives given items

theorem perform_run {call : Adding} (gives : call.Items items)
    (readable : ∀ item ∈ items, item.Readable) (r : Ref Expression) (w : Workspace) :
    ∃ w', (call.perform r).run w = (reply items (), w') ∧
      Accumulated r (Item.terms (sent items)) w w' := by
  cases call with
  | one item =>
      cases gives
      have here := readable item List.mem_cons_self
      cases written : item.isWritten with
      | false =>
          refine ⟨w, ?_, ?_⟩
          · rw [perform, run_bind, addTerm_stuck here written, reply_of_stuck (by simp [written])]
          · rw [sent, List.takeWhile_cons_of_neg (by simp [written])]
            exact .refl r w
      | true =>
          obtain ⟨w', ran, added⟩ := addTerm_accumulates here written r w
          refine ⟨w', ?_, ?_⟩
          · rw [perform, run_bind, ran, reply_of_all (by simp [written])]
            rfl
          · rw [sent_of_all (by simp [written]), terms_cons]
            exact (List.append_nil item.term?.toList).symm ▸ added
  | several given =>
      obtain ⟨w', ran, added⟩ := addTerms_run gives readable r w
      exact ⟨w', run_bind_of_reply ran rfl, added⟩

theorem forEach_run {calls : List Adding} {parts : List (List Item)}
    (gives : List.Forall₂ Items calls parts)
    (readable : ∀ item ∈ parts.flatten, item.Readable) (r : Ref Expression) (w : Workspace) :
    ∃ done w', (forEach (perform r) calls).run w = (reply parts.flatten done, w') ∧
      Accumulated r (Item.terms (sent parts.flatten)) w w' := by
  induction gives generalizing w with
  | nil => exact ⟨[], w, rfl, .refl r w⟩
  | @cons call items calls parts gives _ ih =>
      rw [List.flatten_cons] at readable ⊢
      obtain ⟨w', first, added⟩ :=
        perform_run gives (fun item mem => readable item (List.mem_append_left _ mem)) r w
      cases all : items.all isWritten with
      | false =>
          rw [reply_of_stuck all] at first
          have stuck : (items ++ parts.flatten).all isWritten = false := by
            rw [List.all_append, all, Bool.false_and]
          rw [sent_append_of_stuck all]
          refine ⟨[], w', ?_, added⟩
          rw [run_forEach_cons_of_error first, reply_of_stuck stuck]
      | true =>
          rw [reply_of_all all] at first
          rw [sent_of_all all] at added
          obtain ⟨done, t, later, more⟩ :=
            ih (fun item mem => readable item (List.mem_append_right _ mem)) w'
          have answer : (reply parts.flatten done).map (() :: ·) =
              reply (items ++ parts.flatten) (() :: done) := by
            unfold reply
            rw [List.all_append, all, Bool.true_and]
            split <;> rfl
          rw [run_forEach_cons_of_ok first, later, answer, sent_append_of_all all]
          refine ⟨() :: done, t, rfl, ?_⟩
          rw [Item.terms, List.filterMap_append]
          exact added.trans more

end Adding

/-! ### Making an expression -/

/-- The cell holds an expression with these terms. -/
structure Holds (r : Ref Expression) (terms : List (Nat × Float)) (w : Workspace) : Prop where
  inside : r.index < w.models.expressions.items.size
  sum : w.models.expressions.get r = Expression.zero.accumulate terms

theorem Holds.extend (holds : Holds r terms w) (added : Accumulated r more w w') :
    Holds r (terms ++ more) w' where
  inside := added.size ▸ holds.inside
  sum := by rw [added.get holds.inside, holds.sum, Expression.accumulate_append]

theorem newZero_run (w : Workspace) : ∃ r w', newZero.run w = (.ok r, w') ∧ Holds r [] w' :=
  ⟨_, _, rfl, w.models.expressions.next_lt_size_push .zero,
    w.models.expressions.get_push_next .zero⟩

/-- Terms that may be left out can be taken apart into these items, none if they are left out. -/
def MayGive : Option Terms → List Item → Prop
  | none, items => items = []
  | some given, items => Gives given items

theorem newExpression_run {given : Option Terms} (gives : MayGive given items)
    (readable : ∀ item ∈ items, item.Readable) (w : Workspace) :
    ∃ r w', (newExpression (given.map .terms)).run w = (reply items r, w') ∧
      Holds r (Item.terms (sent items)) w' := by
  obtain ⟨r, w₀, made, holds⟩ := newZero_run w
  cases given with
  | none =>
      cases gives
      refine ⟨r, w₀, ?_, holds⟩
      rw [newExpression, run_bind, made]
      rfl
  | some given =>
      obtain ⟨w', ran, added⟩ := addTerms_run gives readable r w₀
      refine ⟨r, w', ?_, holds.extend added⟩
      rw [newExpression, run_bind, made]
      exact run_bind_of_reply ran rfl

/-- A call that makes an expression: by itself, or for a new constraint. -/
inductive Making where
  | expression (given : Option Terms)
  | constraint (given : Option Terms) (kind : Option (Choice BoundKind)) (lower upper name : Value)

namespace Making

def perform : Making → Action Workspace (Ref Expression)
  | expression given => newExpression (given.map .terms)
  | constraint given kind lower upper name => do
    let c ← newConstraint (given.map .terms) kind lower upper name
    look (·.constraints.get c |>.expression)

def Items : Making → List Item → Prop
  | expression given, items | constraint given .., items => MayGive given items

/-- Where a constraint is made, its bound can be given the shape that comes with it. -/
def Shapes : Making → Prop
  | expression _ => True
  | constraint _ kind lower upper _ =>
    ∀ k ∈ kind, ∃ shaped, Bound.unset.set k lower upper = .ok shaped

theorem newConstraint_run {source : Option TermSource} {kind : Option (Choice BoundKind)}
    {lower upper : Value} (name : Value)
    (shapes : ∀ k ∈ kind, ∃ shaped, Bound.unset.set k lower upper = .ok shaped)
    (made : (newExpression source).run w = (.ok r, w')) :
    ∃ c t, (newConstraint source kind lower upper name).run w = (.ok c, t) ∧
      (t.models.constraints.get c).expression = r ∧
      t.models.expressions = w'.models.expressions := by
  rw [newConstraint, run_bind, made]
  dsimp only
  cases kind with
  | none => exact ⟨_, _, rfl, congrArg _ (Cells.get_push_next ..), rfl⟩
  | some kind =>
      let bounded := w'.models.bounds.push .unset
      let w₁ := { w' with models := { w'.models with bounds := bounded } }
      obtain ⟨shaped, set⟩ := shapes kind rfl
      rw [← w'.models.bounds.get_push_next .unset] at set
      obtain ⟨e, failed, -⟩ | ⟨b, receipt, t, -, ran, models⟩ :=
        rewriting_run (·.bounds.get w'.models.bounds.next) (·.set kind lower upper)
          (fun s b => { s with bounds := s.bounds.set w'.models.bounds.next b }) w₁
      · cases set.symm.trans failed
      · rw [← shapeBound_eq] at ran
        have fresh : (newBound .unset).run w' = (.ok w'.models.bounds.next, w₁) := rfl
        rw [run_bind, fresh]
        dsimp only
        rw [run_bind, ran]
        have same : t.models.expressions = w'.models.expressions := by rw [models]
        exact ⟨_, _, rfl, congrArg _ (Cells.get_push_next ..), same⟩

theorem perform_run {making : Making} (gives : making.Items items) (shapes : making.Shapes)
    (readable : ∀ item ∈ items, item.Readable) (w : Workspace) :
    ∃ r w', making.perform.run w = (reply items r, w') ∧ Holds r (Item.terms (sent items)) w' := by
  cases making with
  | expression given => exact newExpression_run gives readable w
  | constraint given kind lower upper name =>
      obtain ⟨r, w₀, made, holds⟩ := newExpression_run gives readable w
      cases all : items.all isWritten with
      | false =>
          rw [reply_of_stuck all] at made
          refine ⟨r, w₀, ?_, holds⟩
          rw [perform, run_bind, newConstraint, run_bind, made, reply_of_stuck all]
      | true =>
          rw [reply_of_all all] at made
          obtain ⟨c, t, ran, its, same⟩ := newConstraint_run name shapes made
          refine ⟨r, t, ?_, ⟨same ▸ holds.inside, same ▸ holds.sum⟩⟩
          rw [perform, run_bind, ran, reply_of_all all]
          exact congrArg (fun r => (Except.ok r, t)) its

end Making

/-! ### Deliveries -/

/-- The calls by which items reach an expression: it is made, with some of them perhaps, and is
given others after that. -/
structure Delivery where
  making : Making
  calls : List Adding

namespace Delivery

def perform (d : Delivery) : Action Workspace (Ref Expression) := do
  let r ← d.making.perform
  let _ ← forEach (Adding.perform r) d.calls
  pure r

/-- The items in the calls, one call after the other. -/
inductive Items : Delivery → List Item → Prop where
  | mk {making : Making} {calls : List Adding} {first : List Item} {later : List (List Item)}
      (made : making.Items first) (added : List.Forall₂ Adding.Items calls later) :
      Items ⟨making, calls⟩ (first ++ later.flatten)

theorem perform_run {d : Delivery} (gives : d.Items items) (shapes : d.making.Shapes)
    (readable : ∀ item ∈ items, item.Readable) (w : Workspace) :
    ∃ r w', d.perform.run w = (reply items r, w') ∧ Holds r (Item.terms (sent items)) w' := by
  cases gives with
  | @mk making calls first later made added =>
      obtain ⟨r, w₀, ran, holds⟩ :=
        Making.perform_run made shapes
          (fun item mem => readable item (List.mem_append_left _ mem)) w
      cases all : first.all isWritten with
      | false =>
          have stuck : (first ++ later.flatten).all isWritten = false := by
            rw [List.all_append, all, Bool.false_and]
          rw [reply_of_stuck all] at ran
          refine ⟨r, w₀, ?_, sent_append_of_stuck all _ ▸ holds⟩
          rw [perform, run_bind, ran, reply_of_stuck stuck]
      | true =>
          rw [reply_of_all all] at ran
          rw [sent_of_all all] at holds
          obtain ⟨done, t, ran', more⟩ := Adding.forEach_run added
            (fun item mem => readable item (List.mem_append_right _ mem)) r w₀
          refine ⟨r, t, ?_, ?_⟩
          · have same : reply (first ++ later.flatten) r = reply later.flatten r := by
              rw [reply, List.all_append, all, Bool.true_and]
              rfl
            rw [perform, run_bind, ran, same]
            exact run_bind_of_reply ran' rfl
          · rw [sent_append_of_all all, Item.terms, List.filterMap_append]
            exact holds.extend more

end Delivery

section

variable (readable : ∀ item ∈ items, item.Readable) (holds : Holds r (Item.terms items) w)
include holds

include readable

end

end Model

end LinearDispatch
