import LinearDispatch.Workspace
import Mathlib

/-!
# What an array library keeps

The models of HiGHS are made by an array library, and all that is known of it is what it does with
numbers that fit: a cost that is stored under the number of a column is the cost of that column, a
matrix holds the entries that it is made of and no others, and sides are taken as they are. Of a
matrix this is asked only where no two entries are at one place. What else is stored, and what the
library says where something does not fit, is left to it.
-/

namespace LinearDispatch.ArrayLibrary

/-- Where an entry stands. -/
def place {α : Type} (e : ℕ × ℕ × α) : ℕ × ℕ :=
  (e.1, e.2.1)

/-- An entry as it is handed to a matrix, its column and its value still to be read. -/
def unread (e : ℕ × ℕ × Float) : ℕ × Key × Value :=
  (e.1, .scalar (.int e.2.1), .ofFloat e.2.2)

/-- Numbers that fit are kept. A column is numbered with 64 bits in a matrix; a list has no more
places than that. -/
structure Keeps (arrays : ArrayLibrary) : Prop where
  storeCost : ∀ {costs : List Float} {j : ℕ} {x : Float}, j < costs.length →
    arrays.storeCost costs (.scalar (.int j)) (.ofFloat x) = .ok (costs.set j x)
  /-- in which order the entries are kept is left open -/
  matrix : ∀ {rows columns : ℕ} {entries : List (ℕ × ℕ × Float)},
    (∀ e ∈ entries, e.1 < rows ∧ e.2.1 < columns) → columns ≤ 2 ^ 63 →
    (entries.map place).Nodup →
    ∃ stored, arrays.matrix rows columns (entries.map unread) = .ok stored ∧ stored.Perm entries
  rowSides : ∀ {lower upper : List Float}, lower.length = upper.length →
    arrays.rowSides (lower.map .ofFloat) (upper.map .ofFloat) = .ok (lower, upper)
  columnSides : ∀ {lower upper : List Float}, lower.length = upper.length →
    arrays.columnSides (lower.map .ofFloat) (upper.map .ofFloat) = .ok (lower, upper)

end LinearDispatch.ArrayLibrary
