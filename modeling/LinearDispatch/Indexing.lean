import LinearDispatch.Failure

/-!
# Indices

The items of a list by their place. An index counts from the end when it is negative, and a truth
value is an index too.
-/

namespace LinearDispatch

/-- An index that counts from the end of `length` items when it is negative. -/
def resolveIndex (length : Nat) (index : Int) : Option Nat :=
  let place := if index < 0 then index + length else index
  if 0 ≤ place ∧ place < length then some place.toNat else none

def Value.index : Value → Except Failure Int
  | .scalar s =>
    match s.whole? with
    | some n => .ok n
    | .none => .error (.notAnIndex s.typeName)
  | v => .error (.notAnIndex v.typeName)

/-- The item of a list that a value is an index of. -/
def itemAt {α : Type} (items : List α) (index : Value) : Except Failure α := do
  let n ← index.index
  match resolveIndex items.length n >>= (items[·]?) with
  | some a => return a
  | none => throw .indexOutOfRange

/-- An index from the front is the place itself. -/
theorem resolveIndex_natCast {length n : Nat} (h : n < length) :
    resolveIndex length n = some n := by
  have front : ¬(n : Int) < 0 := by omega
  unfold resolveIndex
  dsimp only
  rw [if_neg front, if_pos (by omega)]
  rfl

theorem itemAt_natCast {α : Type} {items : List α} {n : Nat} (h : n < items.length) :
    itemAt items (.scalar (.int n)) = .ok items[n] := by
  have found : (resolveIndex items.length n >>= (items[·]?)) = some items[n] := by
    rw [resolveIndex_natCast h, Option.bind_eq_bind, Option.bind_some, List.getElem?_eq_getElem h]
  simp only [itemAt, Value.index, Scalar.whole?, bind, Except.bind] at found ⊢
  rw [found]
  rfl

end LinearDispatch
