import LinearDispatch.Grid.Basic

/-!
# The cells of a grid

All cells of a grid are kept in one form: as truth values, as integers of 64 bits with or without
a sign, as binary64 numbers, as texts, or as whatever they are. A text among numbers turns all of
them into texts, and a cell that fits no other form leaves all of them as they are. The form
decides how a cell is read as a number and how cells are added.
-/

namespace LinearDispatch

/-- The form in which the cells of a grid are kept. -/
inductive CellForm where
  | truth
  | signed
  | unsigned
  | real
  | text (width : Nat)
  | any
deriving DecidableEq

namespace CellForm

/-- The integers of 64 bits with a sign. -/
def isSigned (n : Int) : Bool :=
  -9223372036854775808 ≤ n && n < 9223372036854775808

/-- The integers of 64 bits without a sign. -/
def isUnsigned (n : Int) : Bool :=
  0 ≤ n && n < 18446744073709551616

/-- The form for one value; an integer has a sign if it fits. -/
def ofValue : Value → CellForm
  | .scalar (.bool _) => truth
  | .scalar (.int n) => if isSigned n then signed else if isUnsigned n then unsigned else any
  | .scalar (.real _) => real
  | .text s => text s.length
  | .none | .list _ | .member .. => any

/-- The width that a form takes among texts. -/
def width : CellForm → Nat
  | truth => 5
  | signed => 21
  | unsigned => 20
  | real => 32
  | text w => w
  | any => 0

def join : CellForm → CellForm → CellForm
  | any, _ | _, any => any
  | text w, f | f, text w => text (max w f.width)
  | real, _ | _, real => real
  | truth, f | f, truth => f
  | signed, signed => signed
  | unsigned, unsigned => unsigned
  | signed, unsigned | unsigned, signed => real

/-- The form for several cells, found from the first one on. -/
def ofCells : List Value → CellForm
  | [] => real
  | v :: rest => rest.foldl (fun f u => f.join (ofValue u)) (ofValue v)

theorem ofCells_map_ofFloat (xs : List Float) : ofCells (xs.map Value.ofFloat) = real := by
  cases xs with
  | nil => rfl
  | cons x rest =>
    show (rest.map Value.ofFloat).foldl (fun f u => f.join (ofValue u)) real = real
    induction rest with
    | nil => rfl
    | cons y rest ih => exact ih

/-- The text of a cell among texts; the NUL characters at its end are lost. -/
def writtenCell (v : Value) : String :=
  String.ofList (v.shown.toList.reverse.dropWhile (·.toNat = 0)).reverse

/-- The number of a cell; where cells are not texts, `read` says what it is. -/
def number (f : CellForm) (read : Value → Except Failure Float) (v : Value) :
    Except Failure Float :=
  match f with
  | text _ =>
    match Number.read? (writtenCell v) with
    | some x => .ok x
    | none => .error (.cellNotNumeric (Text.quoted (writtenCell v)))
  | _ => read v

end CellForm

/-- The form in which the cells of a grid are kept. -/
def Grid.form (g : Grid) : CellForm :=
  .ofCells g.cells

def Grid.numbers (g : Grid) (read : Value → Except Failure Float) : Except Failure (List Float) :=
  g.cells.mapM (g.form.number read)

/-- Binary64 numbers are read back as they were stored. -/
theorem Grid.numbers_map_ofFloat {read : Value → Except Failure Float}
    (h : ∀ x, read (.ofFloat x) = .ok x) (extents : List Nat) (xs : List Float) :
    Grid.numbers ⟨extents, xs.map Value.ofFloat⟩ read = .ok xs := by
  have hf : Grid.form ⟨extents, xs.map Value.ofFloat⟩ = .real := CellForm.ofCells_map_ofFloat xs
  rw [Grid.numbers, hf]
  induction xs with
  | nil => rfl
  | cons x rest ih =>
    have hr := ih (CellForm.ofCells_map_ofFloat rest)
    simp only [List.map_cons, List.mapM_cons, CellForm.number] at hr ⊢
    rw [h x, hr]
    rfl

/-! Which form cells take together. -/

example : CellForm.ofCells [.ofInt 9223372036854775808, .ofInt (-1)] = .real := by decide +kernel
example : CellForm.ofCells [.text "a", .ofInt (-1)] = .text 21 := by decide +kernel
example : CellForm.ofCells [.text "a", .none] = .any := by decide +kernel
example : CellForm.writtenCell (.scalar (.bool true)) = "True" := by decide +kernel

end LinearDispatch
