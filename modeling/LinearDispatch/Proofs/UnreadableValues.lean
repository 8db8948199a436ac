import LinearDispatch.Proofs.Edits
import LinearDispatch.Proofs.FirstFailure

/-!
# Values that cannot be read as numbers

Steps of building drop what they cannot use and say why. There are two exceptions. A value in the
place of a number is read before the step has a say in it, and if it cannot be read, the step fails.
For a bound that goes for both sides, whether the shape would have used them or not. A kind that
cannot be given, or an index that is none, is dropped before anything is read; but the reason for
that names it, and if it has too many digits to be written, the step fails after all.

`Unreadable` lists the values that cannot be read: integers that are too large, texts that are no
numbers, and what is neither a scalar nor a text. `fails_iff_unreadable` says that giving a shape
and adding a coefficient fail in these two ways alone, and what they answer otherwise.
-/

namespace LinearDispatch

/-- A value that cannot be read as a number, and the failure of the one who tries. -/
inductive Value.Unreadable : Value → Failure → Prop where
  | tooLarge {n : Int} (h : Number.ofInt? n = .none) : Unreadable (.ofInt n) .integerTooLarge
  | notNumeric {s : String} (h : Number.read? s = .none) :
      Unreadable (.text s) (.notNumeric (Text.quoted s))
  | nothing : Unreadable .none (.notConvertible "NoneType")
  | list (items : List Value) : Unreadable (.list items) (.notConvertible "list")
  | member (enumeration name label : String) :
      Unreadable (.member enumeration name label) (.notConvertible enumeration)

namespace Value

variable {v : Value} {e : Failure}

theorem unreadable_of_toFloat (failed : v.toFloat = .error e) : v.Unreadable e := by
  cases v with
  | none =>
      cases failed
      exact .nothing
  | scalar s =>
      cases s with
      | bool b => cases failed
      | real x => cases failed
      | int n =>
          cases h : Number.ofInt? n with
          | none =>
              simp only [toFloat, Scalar.toFloat, Scalar.toFloat?, h] at failed
              cases failed
              exact .tooLarge h
          | some x =>
              simp only [toFloat, Scalar.toFloat, Scalar.toFloat?, h] at failed
              cases failed
  | text s =>
      cases h : Number.read? s with
      | none =>
          simp only [toFloat, h] at failed
          cases failed
          exact .notNumeric h
      | some x =>
          simp only [toFloat, h] at failed
          cases failed
  | list items =>
      cases failed
      exact .list items
  | member enumeration name label =>
      cases failed
      exact .member enumeration name label

theorem toFloat_eq_error_iff : v.toFloat = .error e ↔ v.Unreadable e := by
  refine ⟨unreadable_of_toFloat, fun unreadable => ?_⟩
  cases unreadable with
  | tooLarge h => simp only [ofInt, toFloat, Scalar.toFloat, Scalar.toFloat?, h]
  | notNumeric h => simp only [toFloat, h]
  | nothing | list | member => rfl

/-- A value is a number to the reader just if there is no failure to read it. -/
theorem exists_toFloat_iff : (∃ x, v.toFloat = .ok x) ↔ ∀ e, ¬v.Unreadable e := by
  simp only [← toFloat_eq_error_iff]
  cases v.toFloat with
  | ok x => simp
  | error e => simp

end Value

/-! ## What a step answers -/

/-- How a step answers that fails as `Fails` says and stores its input just if `Stores` holds.
Everything else it drops, and says why. -/
structure Receipt.Exact (answer : Except Failure Receipt) (Fails : Failure → Prop)
    (Stores : Prop) : Prop where
  failed : ∀ e, answer = .error e ↔ Fails e
  accepted : Receipt.isAcceptance answer = true ↔ Stores
  dropped : ∀ receipt, answer = .ok receipt → receipt.accepted = false →
    receipt.kind? = some .invalidProblem ∧ receipt.reason?.isSome = true

section

variable {α : Type} {x : Except Failure (α × Receipt)}

/-! The answer may come with something that is to be written. -/

theorem Receipt.isAcceptance_map_snd :
    isAcceptance (x.map Prod.snd) = true ↔
      ∃ a receipt, x = .ok (a, receipt) ∧ receipt.accepted = true := by
  cases x with
  | error e => exact iff_of_false nofun nofun
  | ok pair =>
      constructor
      · exact fun accepted => ⟨pair.1, pair.2, rfl, accepted⟩
      · rintro ⟨a, receipt, same, accepted⟩
        cases same
        exact accepted

theorem Receipt.exact_map_snd {Fails : Failure → Prop} {Stores : Prop}
    (failed : ∀ e, x = .error e ↔ Fails e)
    (accepted : (∃ a receipt, x = .ok (a, receipt) ∧ receipt.accepted = true) ↔ Stores) :
    Exact (x.map Prod.snd) Fails Stores := by
  refine ⟨fun e => ?_, isAcceptance_map_snd.trans accepted, fun receipt same dropped => ?_⟩
  · rw [← failed]
    cases x with
    | error e' => exact Iff.of_eq (by simp [Except.map])
    | ok pair => exact iff_of_false nofun nofun
  · cases receipt with
    | stored | storedWithWarning => cases dropped
    | dropped reason => exact ⟨rfl, rfl⟩

end

namespace Bound

variable {b : Bound} {kind : Choice BoundKind} {lower upper : Value}

/-- How giving a shape fails. A shape that could be given fails at a side that cannot be read, the
lower one first. -/
inductive Fails : Choice BoundKind → Value → Value → Failure → Prop where
  /-- what is no kind cannot be named either -/
  | unnamed {v lower upper : Value} (unwritable : v.isWritable = false) :
      Fails (.other v) lower upper .notWritable
  | lower {shape : BoundKind} {lower upper : Value} {e : Failure} (settable : shape ≠ .unset)
      (unreadable : lower.Unreadable e) : Fails (.member shape) lower upper e
  | upper {shape : BoundKind} {lower upper : Value} {e : Failure} (settable : shape ≠ .unset)
      (reads : ∀ e', ¬lower.Unreadable e') (unreadable : upper.Unreadable e) :
      Fails (.member shape) lower upper e

theorem set_member_eq_error_iff {shape : BoundKind} (settable : shape ≠ .unset) {e : Failure} :
    b.set (.member shape) lower upper = .error e ↔
      lower.Unreadable e ∨ (∀ e', ¬lower.Unreadable e') ∧ upper.Unreadable e := by
  rw [← Value.exists_toFloat_iff, ← Value.toFloat_eq_error_iff, ← Value.toFloat_eq_error_iff,
    set_settable settable]
  cases lower.toFloat with
  | error e' => simp [bind, Except.bind]
  | ok l => cases upper.toFloat <;> simp [bind, Except.bind, pure, Except.pure]

theorem set_eq_error_iff {e : Failure} :
    b.set kind lower upper = .error e ↔ Fails kind lower upper e := by
  constructor
  · intro failed
    cases kind with
    | other v =>
        obtain ⟨unwritable, rfl⟩ := Value.whenWritable_eq_error.1 failed
        exact .unnamed unwritable
    | member shape =>
        by_cases settable : shape = .unset
        · cases settable
          cases failed
        · obtain unreadable | ⟨reads, unreadable⟩ := (set_member_eq_error_iff settable).1 failed
          · exact .lower settable unreadable
          · exact .upper settable reads unreadable
  · intro fails
    cases fails with
    | unnamed unwritable => exact Value.whenWritable_eq_error.2 ⟨unwritable, rfl⟩
    | lower settable unreadable =>
        exact (set_member_eq_error_iff settable).2 (.inl unreadable)
    | upper settable reads unreadable =>
        exact (set_member_eq_error_iff settable).2 (.inr ⟨reads, unreadable⟩)

theorem exists_accepted_iff :
    (∃ b' receipt, b.set kind lower upper = .ok (b', receipt) ∧ receipt.accepted = true) ↔
      ∃ shape l u, Acceptable kind lower upper shape l u := by
  constructor
  · rintro ⟨b', receipt, accepted⟩
    obtain ⟨shape, l, u, acceptable, -⟩ := set_accepted_iff.1 accepted
    exact ⟨shape, l, u, acceptable⟩
  · rintro ⟨shape, l, u, acceptable⟩
    exact ⟨_, _, acceptable.set b, receiptOf_accepted _⟩

end Bound

namespace Expression

variable {x : Expression} {index value : Value}

theorem add_of_none {index : Value} (none : ∀ i : Nat, index ≠ .ofInt i) (value : Value) :
    x.add index value = index.whenWritable (x,
      .dropped ("coefficient index must be a non-negative integer, got " ++ index.literal)) := by
  unfold add
  split
  · rfl
  · next i given => exact absurd (Value.index?_eq_some given) (none i)

theorem add_at (x : Expression) (i : Nat) (value : Value) :
    x.add (.ofInt i) value = (do
      let v ← value.toFloat
      return (x.addTerm i v, .stored)) := rfl

/-- How adding a coefficient fails. -/
inductive Fails : Value → Value → Failure → Prop where
  /-- what is no index cannot be named either -/
  | unnamed {index value : Value} (none : ∀ i : Nat, index ≠ .ofInt i)
      (unwritable : index.isWritable = false) : Fails index value .notWritable
  | value {i : Nat} {value : Value} {e : Failure} (unreadable : value.Unreadable e) :
      Fails (.ofInt i) value e

theorem add_at_eq_error_iff {i : Nat} {e : Failure} :
    x.add (.ofInt i) value = .error e ↔ value.Unreadable e := by
  rw [← Value.toFloat_eq_error_iff, add_at]
  cases value.toFloat with
  | error e' => simp [bind, Except.bind]
  | ok v => simp [bind, Except.bind, pure, Except.pure]

theorem add_eq_error_iff {e : Failure} :
    x.add index value = .error e ↔ Fails index value e := by
  constructor
  · intro failed
    cases given : index.index? with
    | none =>
        have none (i : Nat) : index ≠ .ofInt i := by
          rintro rfl
          cases given
        rw [add_of_none none] at failed
        obtain ⟨unwritable, rfl⟩ := Value.whenWritable_eq_error.1 failed
        exact .unnamed none unwritable
    | some i =>
        obtain rfl := Value.index?_eq_some given
        exact .value (add_at_eq_error_iff.1 failed)
  · intro fails
    cases fails with
    | unnamed none unwritable =>
        rw [add_of_none none]
        exact Value.whenWritable_eq_error.2 ⟨unwritable, rfl⟩
    | value unreadable => exact add_at_eq_error_iff.2 unreadable

theorem exists_accepted_iff :
    (∃ x' receipt, x.add index value = .ok (x', receipt) ∧ receipt.accepted = true) ↔
      ∃ (i : Nat) (v : Float), index = .ofInt i ∧ value.toFloat = .ok v := by
  constructor
  · rintro ⟨x', receipt, added, accepted⟩
    obtain ⟨-, dropped⟩ | ⟨i, v, given, read, -⟩ := add_cases added
    · cases accepted.symm.trans dropped
    · exact ⟨i, v, given, read⟩
  · rintro ⟨i, v, rfl, read⟩
    refine ⟨x.addTerm i v, .stored, ?_, rfl⟩
    rw [add_at, read]
    rfl

end Expression

namespace Model

theorem addTerm_eq (r : Ref Expression) (index value : Value) :
    addTerm r index value =
      rewriting (·.expressions.get r) (·.add index value)
        fun s x => { s with expressions := s.expressions.set r x } := rfl

theorem addTerm_run (r : Ref Expression) (index value : Value) (w : Workspace) :
    (∃ e, (w.models.expressions.get r).add index value = .error e ∧
        (addTerm r index value).run w = (.error e, w)) ∨
      ∃ x receipt w', (w.models.expressions.get r).add index value = .ok (x, receipt) ∧
        (addTerm r index value).run w = (.ok receipt, w') ∧
        w'.models = { w.models with expressions := w.models.expressions.set r x } :=
  rewriting_run (·.expressions.get r) (·.add index value)
    (fun s x => { s with expressions := s.expressions.set r x }) w

theorem addTerm_answer (r : Ref Expression) (index value : Value) (w : Workspace) :
    ((addTerm r index value).run w).1 =
      ((w.models.expressions.get r).add index value).map Prod.snd := by
  rw [addTerm_eq]
  exact rewriting_answer ..

/-- Giving a shape fails just if the shape could be given and a side cannot be read, whichever side
the shape uses, or if what is given is no shape and cannot be written; adding a coefficient fails
just if the index is one and the value cannot be read, or if it is none and cannot be written. What
is accepted has numbers in all these places, and everything else is dropped as an invalid problem,
with a reason. -/
theorem fails_iff_unreadable (w : Workspace) :
    (∀ (r : Ref Bound) (kind : Choice BoundKind) (lower upper : Value),
      Receipt.Exact ((shapeBound r kind lower upper).run w).1 (Bound.Fails kind lower upper)
        (∃ shape l u, Bound.Acceptable kind lower upper shape l u)) ∧
    ∀ (r : Ref Expression) (index value : Value),
      Receipt.Exact ((addTerm r index value).run w).1 (Expression.Fails index value)
        (∃ (i : Nat) (v : Float), index = .ofInt i ∧ value.toFloat = .ok v) := by
  constructor
  · intro r kind lower upper
    rw [shapeBound_answer]
    exact Receipt.exact_map_snd (fun e => Bound.set_eq_error_iff) Bound.exists_accepted_iff
  · intro r index value
    rw [addTerm_answer]
    exact Receipt.exact_map_snd (fun e => Expression.add_eq_error_iff)
      Expression.exists_accepted_iff

/-- A new bound is to be bounded from below, by a number. It is, if there is a number also in the
place of the upper side, and the call fails if there is none. A coefficient that is nothing fails
its call as well. -/
theorem unused_side_fails :
    let w := { Sample.workspace .binary with
      models := { Store.empty with bounds := ⟨#[.unset]⟩, expressions := ⟨#[.zero]⟩ } }
    let fromBelow (upper : Value) :=
      ((shapeBound ⟨0⟩ (.member .lower) (.ofFloat 1.0) upper).run w).1
    fromBelow (.ofFloat 2.0) = .ok .stored ∧
      fromBelow .none = .error (.notConvertible "NoneType") ∧
      fromBelow (.text "none") = .error (.notNumeric "'none'") ∧
      ((addTerm ⟨0⟩ (.ofInt 0) .none).run w).1 = .error (.notConvertible "NoneType") := by
  intro w fromBelow
  have stored : fromBelow (.ofFloat 2.0) = .ok .stored := by decide +kernel
  have failed : fromBelow (.text "none") = .error (.notNumeric "'none'") := by decide +kernel
  exact ⟨stored, rfl, failed, rfl⟩

end Model

end LinearDispatch
