import LinearDispatch.Grid.Cell
import LinearDispatch.Indexing
import LinearDispatch.IntrospectiveSort
import LinearDispatch.Mapping

/-!
# Sparse matrices

A matrix given by the row, the column and the value of its entries. Columns may be named by
anything that stands for an integer, and a place may be named twice; its values are then added in
the form in which all values of the matrix are kept. Binary64 numbers are added one by one in the
order in which sorting the row leaves them, and sums depend on it.
-/

namespace LinearDispatch.Sparse

/-- The integer that a text stands for, unless it has too many digits. -/
def readColumn (s : String) : Except Failure Int :=
  if Number.maxDigits < Number.leadingDigitCount s then
    .error (.integerTooLong (Number.leadingDigitCount s) Number.maxDigits)
  else
    match Number.readInt? s with
    | some n => .ok n
    | none => .error (.notAnInteger (Text.quoted s))

/-- The column of a matrix entry; it has to fit into 64 bits. -/
def columnOf (index : Key) : Except Failure Int := do
  let n ← match index with
    | .scalar s => s.truncate
    | .text s => readColumn s
    | .none | .member .. => throw (.notConvertible index.value.typeName)
  if CellForm.isSigned n then return n else throw .indexTooWide

/-- A matrix holds numbers only, integers as far as 64 bits go, and one in each entry. -/
def checkEntries (grid : Grid) : Except Failure Unit :=
  match grid.form with
  | .any => .error (.entriesNotNumeric "object")
  | .text width => .error (.entriesNotNumeric ("<U" ++ toString (max 1 width)))
  | _ => if grid.isFlat then .ok () else .error .entriesNotFlat

def checkColumns (columns : Nat) (used : List Int) : Except Failure Unit := do
  if let some largest := used.max? then
    if (columns : Int) ≤ largest then throw (.columnBeyondMatrix largest columns)
  if let some smallest := used.min? then
    if smallest < 0 then throw (.columnNegative smallest)

/-- The column of the first entry comes before that of the second. -/
def columnBefore {α : Type} (a b : Nat × Nat × α) : Bool :=
  a.2.1 < b.2.1

def isOrdered {α : Type} (row : List (Nat × Nat × α)) : Bool :=
  (row.zip row.tail).all fun p => !columnBefore p.2 p.1

/-- The entries in the order of rows and columns. If all rows are in order they stay as they are,
else each row is sorted. -/
def inOrder {α : Type} (rows : Nat) (entries : List (Nat × Nat × α)) : List (Nat × Nat × α) :=
  let byRow := (List.range rows).map fun r => entries.filter (·.1 = r)
  if byRow.all isOrdered then byRow.flatten
  else byRow.flatMap (IntrospectiveSort.sort columnBefore)

def atOnePlace {α : Type} (a b : Nat × Nat × α) : Bool :=
  a.1 = b.1 && a.2.1 = b.2.1

/-- Entries in order, neighbours at one place added up. -/
def addUp {α : Type} (add : α → α → α) : List (Nat × Nat × α) → List (Nat × Nat × α)
  | [] => []
  | e :: rest => go e rest
where
  /-- The entries after `e`, which may still be added to. -/
  go (e : Nat × Nat × α) : List (Nat × Nat × α) → List (Nat × Nat × α)
    | [] => [e]
    | f :: rest =>
      if atOnePlace e f then go (e.1, e.2.1, add e.2.2 f.2.2) rest else e :: go f rest

/-- Where no two entries are at one place, there is nothing to add. -/
theorem addUp_of_pairwise {α : Type} {add : α → α → α} {es : List (Nat × Nat × α)}
    (h : es.Pairwise fun a b => atOnePlace a b = false) : addUp add es = es := by
  cases es with
  | nil => rfl
  | cons e rest =>
    show addUp.go add e rest = e :: rest
    induction rest generalizing e with
    | nil => rfl
    | cons f rest ih =>
      obtain ⟨he, hf⟩ := List.pairwise_cons.1 h
      simp [addUp.go, he f (by simp), ih f hf]

/-- The sums of truth values: whether any of them holds. -/
def truthSums (entries : List (Nat × Nat × Value)) : List (Nat × Nat × Value) :=
  (addUp (· || ·) (entries.map fun e => (e.1, e.2.1, e.2.2.isTrue))).map fun e =>
    (e.1, e.2.1, .scalar (.bool e.2.2))

/-- The sums of integers, brought back into 64 bits by `wrap`. -/
def integerSums (wrap : Int → Int) (entries : List (Nat × Nat × Value)) :
    Except Failure (List (Nat × Nat × Value)) := do
  let integers ← entries.mapM fun e => return (e.1, e.2.1, ← e.2.2.index)
  return (addUp (· + ·) integers).map fun e => (e.1, e.2.1, Value.ofInt (wrap e.2.2))

def entryNumbers (entries : List (Nat × Nat × Value)) :
    Except Failure (List (Nat × Nat × Float)) :=
  entries.mapM fun e => return (e.1, e.2.1, ← e.2.2.toFloat)

/-- Entries as binary64 numbers, those at one place added up in the form in which they are kept. -/
def sumEntries (form : CellForm) (entries : List (Nat × Nat × Value)) :
    Except Failure (List (Nat × Nat × Float)) := do
  match form with
  | .truth => entryNumbers (truthSums entries)
  | .signed => entryNumbers (← integerSums (Int.bmod · 18446744073709551616) entries)
  | .unsigned => entryNumbers (← integerSums (· % 18446744073709551616) entries)
  | _ => return addUp (· + ·) (← entryNumbers entries)

/-- The entries of a matrix of the given size in the order of rows and columns, one for each place
that is named. -/
def ofEntries (rows columns : Nat) (entries : List (Nat × Key × Value)) :
    Except Failure (List (Nat × Nat × Float)) := do
  let grid ← Grid.ofList (entries.map (·.2.2))
  let used ← entries.mapM fun e => columnOf e.2.1
  checkEntries grid
  checkColumns columns used
  let placed := (entries.zip used).map fun (e, column) => (e.1, column.toNat, e.2.2)
  sumEntries grid.form (inOrder rows placed)

end LinearDispatch.Sparse
