import LinearDispatch.Proofs.Accumulation

/-!
# Terms read while they are added

An expression hands out its terms as a live view, and the terms of one expression can be added to
another one, or to itself. Then the list that is being read is the list that is being written.
`Reading` is how a reader sees this who goes through the view place by place: at each place is what
is there when the reader comes to it, and he is lost if there are more terms than at the start, or
fewer. That does not happen, and every term is read once, as it was. An index that is added to
itself is in the expression already, so it stays where it is, and it is written only when it has
been read.

So an expression that is added to itself has every coefficient twice. Which way the two expressions
are reached is of no account: the expression of a constraint and the objective of a program are
cells like any other, and may be the same.
-/

namespace LinearDispatch

/-! ## Writing to a key that is there -/

namespace OrderedMap

variable {κ ν : Type} [DecidableEq κ]

theorem putEntry_append_cons {k : κ} {before : List (κ × ν)} (new : k ∉ before.map Prod.fst)
    (old v : ν) (after : List (κ × ν)) :
    putEntry k v (before ++ (k, old) :: after) = before ++ (k, v) :: after := by
  induction before with
  | nil => exact if_pos rfl
  | cons e rest ih =>
      rw [List.map_cons, List.mem_cons, not_or] at new
      rw [List.cons_append, putEntry, if_neg fun same => new.1 same.symm, ih new.2]
      rfl

end OrderedMap

theorem eraseDups_of_nodup {α : Type} [BEq α] [LawfulBEq α] {is : List α}
    (distinct : is.Nodup) : is.eraseDups = is := by
  induction is with
  | nil => rfl
  | cons i rest ih =>
      rw [List.nodup_cons] at distinct
      have others : rest.filter (fun j => !j == i) = rest :=
        List.filter_eq_self.2 fun j mem => by
          have other : j ≠ i := fun same => distinct.1 (same ▸ mem)
          simpa using other
      rw [List.eraseDups_cons, others, ih distinct.2]

namespace Expression

variable {e : Expression}

/-- Adding to a coefficient that is there changes it in its place. -/
theorem entries_addTerm {before after : List (Nat × Float)} {i : Nat} {c : Float}
    (entries : e.coefficients.entries = before ++ (i, c) :: after) (x : Float) :
    (e.addTerm i x).coefficients.entries = before ++ (i, c + x) :: after := by
  have here : (i, c) ∈ e.coefficients.entries := by
    rw [entries]
    exact List.mem_append_right before List.mem_cons_self
  have value : e.coefficient i = c := by
    rw [coefficient, OrderedMap.get?_eq_some_iff.2 here, Option.getD_some]
  have new : i ∉ before.map Prod.fst := by
    have distinct := e.coefficients.distinct
    rw [entries, List.map_append, List.map_cons, List.nodup_append] at distinct
    exact fun mem => distinct.2.2 i mem i List.mem_cons_self rfl
  show OrderedMap.putEntry i (e.coefficient i + x) e.coefficients.entries = _
  rw [entries, value]
  exact OrderedMap.putEntry_append_cons new c (c + x) after

/-! ### All terms of another expression -/

section

variable (e f : Expression)

theorem valuesAt_entries (i : Nat) :
    valuesAt f.coefficients.entries i =
      if i ∈ f.coefficients.keys then [f.coefficient i] else [] := by
  have distinct : f.coefficients.keys.Nodup := f.coefficients.distinct
  have here : valuesAt f.coefficients.entries i =
      (f.coefficients.keys.filter (· = i)).map f.coefficient := by
    rw [entries_eq_map, valuesAt, List.filter_map, List.map_map]
    rfl
  rw [here, List.filter_eq, distinct.count]
  split <;> rfl

theorem keys_accumulate_entries :
    (e.accumulate f.coefficients.entries).coefficients.keys =
      e.coefficients.keys ++ f.coefficients.keys.filter (· ∉ e.coefficients.keys) := by
  have distinct : f.coefficients.keys.Nodup := f.coefficients.distinct
  rw [keys_accumulate]
  exact congrArg (_ ++ ·) (eraseDups_of_nodup (distinct.filter _))

variable {e f}

theorem coefficient_accumulate_entries {i : Nat} (mem : i ∈ f.coefficients.keys) :
    (e.accumulate f.coefficients.entries).coefficient i = e.coefficient i + f.coefficient i := by
  rw [coefficient_accumulate, valuesAt_entries, if_pos mem]
  rfl

theorem get?_accumulate_entries {i : Nat} (absent : i ∉ f.coefficients.keys) :
    (e.accumulate f.coefficients.entries).coefficients.get? i = e.coefficients.get? i := by
  have same : i ∈ (e.accumulate f.coefficients.entries).coefficients.keys ↔
      i ∈ e.coefficients.keys := by
    rw [keys_accumulate_entries, List.mem_append, List.mem_filter]
    exact or_iff_left fun new => absent new.1
  rw [get?_eq_ite, get?_eq_ite, coefficient_accumulate, valuesAt_entries, if_neg absent,
    List.foldl_nil]
  simp only [same]

theorem entries_accumulate_self :
    (e.accumulate e.coefficients.entries).coefficients.entries =
      e.coefficients.entries.map fun t => (t.1, t.2 + t.2) := by
  have nothing : e.coefficients.keys.filter (· ∉ e.coefficients.keys) = [] := by simp
  have keys : (e.accumulate e.coefficients.entries).coefficients.keys = e.coefficients.keys := by
    rw [keys_accumulate_entries, nothing, List.append_nil]
  rw [entries_eq_map (e.accumulate _), keys, entries_eq_map e, List.map_map]
  refine List.map_congr_left fun i mem => congrArg (Prod.mk i) ?_
  rw [← entries_eq_map, coefficient_accumulate_entries mem]

end

end Expression

namespace Model

open LinearDispatch.Action Workspace Item

/-! ## A live view -/

/-- The terms that are in an expression now. -/
def termsNow (w : Workspace) (source : Ref Expression) : List (Nat × Float) :=
  (w.models.expressions.get source).coefficients.entries

/-- A reader at place `place` of the terms of `source`, of which there were `size` at the start. He
adds what is at his place to `r` and goes on to the next place, until there is none. -/
inductive Reading (r source : Ref Expression) (size : Nat) :
    Nat → Workspace → List Receipt → Workspace → Prop where
  | done {place : Nat} {w : Workspace} (unchanged : (termsNow w source).length = size)
      (past : size ≤ place) : Reading r source size place w [] w
  | next {place : Nat} {w w' t : Workspace} {i : Nat} {x : Float} {receipt : Receipt}
      {receipts : List Receipt} (unchanged : (termsNow w source).length = size)
      (here : (termsNow w source)[place]? = some (i, x))
      (added : (addTerm r (.ofInt i) (.ofFloat x)).run w = (.ok receipt, w'))
      (later : Reading r source size (place + 1) w' receipts t) :
      Reading r source size place w (receipt :: receipts) t

variable {r source : Ref Expression} {w w' : Workspace}

/-- What a term at place `before.length` becomes when it is added to `r`; what comes after it stays.
-/
theorem termsNow_after {before after : List (Nat × Float)} {i : Nat} {x : Float}
    (terms : termsNow w source = before ++ (i, x) :: after)
    (added : Accumulated r [(i, x)] w w') :
    ∃ x', termsNow w' source = before ++ (i, x') :: after := by
  unfold termsNow at terms ⊢
  rw [congrArg Store.expressions added]
  obtain old | ⟨rfl, new⟩ := w.models.expressions.get_set_cases r source
    ((w.models.expressions.get r).accumulate [(i, x)])
  · exact ⟨x, old ▸ terms⟩
  · rw [new]
    exact ⟨x + x, Expression.entries_addTerm terms x⟩

/-- The terms that a reader still has before him are the last ones of those there were. -/
theorem copyTerm_reading (r source : Ref Expression) (after : List (Nat × Float)) :
    ∀ {before : List (Nat × Float)} {w : Workspace}, termsNow w source = before ++ after →
      ∃ w', (forEach (copyTerm r source) (after.map Prod.fst)).run w =
          (.ok (List.replicate after.length .stored), w') ∧
        Reading r source (before.length + after.length) before.length w
          (List.replicate after.length .stored) w' ∧
        Accumulated r after w w' := by
  induction after with
  | nil =>
      intro before w terms
      refine ⟨w, rfl, .done ?_ (Nat.le_refl _), .refl r w⟩
      rw [terms, List.append_nil]
      rfl
  | cons t after ih =>
      intro before w terms
      obtain ⟨i, x⟩ := t
      have readable : Item.Readable (.ofInt i, .ofFloat x) := fun _ _ => ⟨x, rfl⟩
      have written : Item.isWritten (.ofInt i, .ofFloat x) = true := rfl
      obtain ⟨w', ran, added⟩ := addTerm_accumulates readable written r w
      obtain ⟨x', terms'⟩ := termsNow_after terms added
      obtain ⟨t, later, reading, more⟩ :=
        @ih (before ++ [(i, x')]) w' (by rw [terms', List.append_assoc]; rfl)
      have live : (w.models.expressions.get source).coefficient i = x := by
        have here : (i, x) ∈ termsNow w source := by
          rw [terms]
          exact List.mem_append_right before List.mem_cons_self
        rw [Expression.coefficient, OrderedMap.get?_eq_some_iff.2 here, Option.getD_some]
      have step := copyTerm_run r source i w
      rw [live] at step
      rw [List.length_append, List.length_singleton] at reading
      refine ⟨t, ?_, .next ?_ ?_ ran ?_, added.trans more⟩
      · rw [List.map_cons, run_forEach_cons_of_ok (step.trans ran), later]
        rfl
      · rw [terms, List.length_append]
      · rw [terms, List.getElem?_append_right (Nat.le_refl _), Nat.sub_self]
        rfl
      · rw [List.length_cons, Nat.add_comm after.length, ← Nat.add_assoc]
        exact reading

/-- The terms of one expression added to another, or to itself, while they are read. That returns
and accepts every term, and a reader who goes by places has met each of them once, and no other
place. The indices that are new follow those that are there; each coefficient of the one has been
added to that of the other, once, and nothing else has changed. Added to itself, an expression has
the double of each of its coefficients. -/
theorem live_terms_added (source : Ref Expression)
    (inside : r.index < w.models.expressions.items.size) :
    let e := w.models.expressions.get r
    let f := w.models.expressions.get source
    let receipts := List.replicate f.coefficients.size Receipt.stored
    ∃ w', (addTerms r (.view source)).run w = (.ok receipts, w') ∧
      Reading r source f.coefficients.size 0 w receipts w' ∧
      let e' := w'.models.expressions.get r
      w'.models = { w.models with expressions := w.models.expressions.set r e' } ∧
      (source ≠ r → w'.models.expressions.get source = f) ∧
      e'.coefficients.keys =
        e.coefficients.keys ++ f.coefficients.keys.filter (· ∉ e.coefficients.keys) ∧
      (∀ i ∈ f.coefficients.keys, e'.coefficient i = e.coefficient i + f.coefficient i) ∧
      (∀ i ∉ f.coefficients.keys, e'.coefficients.get? i = e.coefficients.get? i) ∧
      (source = r →
        e'.coefficients.entries = e.coefficients.entries.map fun t => (t.1, t.2 + t.2)) := by
  intro e f receipts
  obtain ⟨w', ran, reading, added⟩ :=
    @copyTerm_reading r source f.coefficients.entries [] w rfl
  have sum : w'.models.expressions.get r = e.accumulate f.coefficients.entries := added.get inside
  rw [List.length_nil, Nat.zero_add] at reading
  refine ⟨w', ran, reading, ?_, fun other => ?_, ?_⟩
  · rw [sum]
    exact added
  · rw [congrArg Store.expressions added]
    exact w.models.expressions.get_set_ne r source _ other.symm
  · rw [sum]
    refine ⟨Expression.keys_accumulate_entries e f,
      fun i => Expression.coefficient_accumulate_entries,
      fun i => Expression.get?_accumulate_entries, ?_⟩
    rintro rfl
    exact Expression.entries_accumulate_self

/-- A constraint whose expression is the objective of a program as well: the one is added to the
other. -/
theorem live_terms_added_sample :
    let w := Sample.workspace .binary
    let r := (w.models.constraints.get ⟨0⟩).expression
    let source := (w.models.programs.get ⟨0⟩).objective
    r.index < w.models.expressions.items.size ∧ source = r ∧
      ∃ w', (addTerms r (.view source)).run w = (.ok [.stored], w') ∧
        (w'.models.expressions.get r).coefficients.entries = [(0, 1.0 + 1.0)] := by
  intro w r source
  have inside : r.index < w.models.expressions.items.size := by decide
  obtain ⟨w', ran, -, -, -, -, -, -, doubled⟩ := live_terms_added (w := w) source inside
  exact ⟨inside, rfl, w', ran, doubled rfl⟩

end Model

end LinearDispatch
