import LinearDispatch.Model.Problem

/-!
# The model store

Variables, expressions, constraints and programs are shared: one variable may stand in two
programs, and changing it changes both. So each lives in a cell of the store and everything else
refers to the cell. A bound or an expression inside another object has a cell of its own, which
is how a caller can hold on to it. Reading a program out of the store gives the problem it stands
for at that moment.
-/

namespace LinearDispatch

structure Ref (α : Type) where
  index : Nat
deriving DecidableEq

/-- The cells of one type, in the order in which they were made. -/
structure Cells (α : Type) where
  items : Array α

namespace Cells

variable {α : Type}

instance : Inhabited (Cells α) := ⟨⟨#[]⟩⟩

def empty : Cells α := ⟨#[]⟩

def get [Inhabited α] (c : Cells α) (r : Ref α) : α :=
  c.items[r.index]?.getD default

def set (c : Cells α) (r : Ref α) (a : α) : Cells α :=
  ⟨c.items.setIfInBounds r.index a⟩

def next (c : Cells α) : Ref α :=
  ⟨c.items.size⟩

def push (c : Cells α) (a : α) : Cells α :=
  ⟨c.items.push a⟩

theorem get_set_ne [Inhabited α] (c : Cells α) (r s : Ref α) (a : α) (h : r ≠ s) :
    (c.set r a).get s = c.get s := by
  have h' : r.index ≠ s.index := fun e => h (by cases r; cases s; simp_all)
  simp [get, set, h']

theorem get_set_self [Inhabited α] (c : Cells α) (r : Ref α) (a : α)
    (h : r.index < c.items.size) : (c.set r a).get r = a := by
  simp [get, set, h]

/-- Where there is no cell, nothing is written. -/
theorem set_of_size_le (c : Cells α) (r : Ref α) (a : α) (h : c.items.size ≤ r.index) :
    c.set r a = c := by
  rw [set, Array.setIfInBounds_eq_of_size_le h]

theorem get_push [Inhabited α] (c : Cells α) (r : Ref α) (a : α) (h : r.index < c.items.size) :
    (c.push a).get r = c.get r := by
  have : r.index ≠ c.items.size := Nat.ne_of_lt h
  simp [get, push, Array.getElem?_push, this]

theorem get_push_next [Inhabited α] (c : Cells α) (a : α) : (c.push a).get c.next = a := by
  simp [get, push, next]

theorem next_lt_size_push (c : Cells α) (a : α) : c.next.index < (c.push a).items.size := by
  simp [push, next]

end Cells

/-- A variable: its kind and the cell of its bound. -/
structure Variable where
  kind : VariableKind
  bound : Ref Bound
  name : Value

/-- A constraint row: the cells of its expression and of its bound. -/
structure Constraint where
  expression : Ref Expression
  bound : Ref Bound
  name : Value

/-- A program: the cells of its variables, its objective and its constraints, in order. Callers
who get round the checks may have put something else among the constraints. -/
structure Program where
  name : Value
  vars : List (Ref Variable)
  objective : Ref Expression
  constraints : List (Given (Ref Constraint))

/-- The constraints among what stands in the row list. -/
def Program.rows (p : Program) : List (Ref Constraint) :=
  p.constraints.filterMap fun
    | .proper c => some c
    | .other _ => none

/-- What stands in a row list and is no constraint, each with the number of constraints before it;
there were so many of them before the list. -/
def straysAfter : Nat → List (Given (Ref Constraint)) → List (Nat × Foreign)
  | _, [] => []
  | rows, .proper _ :: rest => straysAfter (rows + 1) rest
  | rows, .other f :: rest => (rows, f) :: straysAfter rows rest

def Program.strays (p : Program) : List (Nat × Foreign) :=
  straysAfter 0 p.constraints

instance : Inhabited Variable := ⟨⟨.continuous, ⟨0⟩, .none⟩⟩
instance : Inhabited Constraint := ⟨⟨⟨0⟩, ⟨0⟩, .none⟩⟩
instance : Inhabited Program := ⟨⟨.none, [], ⟨0⟩, []⟩⟩

structure Store where
  bounds : Cells Bound
  expressions : Cells Expression
  vars : Cells Variable
  constraints : Cells Constraint
  programs : Cells Program

namespace Store

def empty : Store :=
  ⟨.empty, .empty, .empty, .empty, .empty⟩

instance : Inhabited Store := ⟨empty⟩

/-- The column that a variable stands for now. -/
def column (s : Store) (r : Ref Variable) : Column :=
  let v := s.vars.get r
  ⟨v.kind, s.bounds.get v.bound, v.name⟩

/-- The row that a constraint stands for now. -/
def row (s : Store) (r : Ref Constraint) : Row :=
  let c := s.constraints.get r
  ⟨s.expressions.get c.expression, s.bounds.get c.bound, c.name⟩

/-- The problem that a program stands for now. -/
def problem (s : Store) (r : Ref Program) : Problem :=
  let p := s.programs.get r
  ⟨p.name, p.vars.map s.column, s.expressions.get p.objective, p.rows.map s.row, p.strays⟩

end Store

end LinearDispatch
