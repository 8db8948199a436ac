import LinearDispatch.Failure

/-!
# Grids

A list read as a grid of cells. Where lists stand in lists, all lists of one level have to be
equally long; their lengths, from the outside in, are the extents of the grid. Two grids meet axis
by axis from the inside out, and an axis of extent one is stretched to the other's. A list that
holds no lists is the ordinary case, a grid of one axis with its items as cells.
-/

namespace LinearDispatch

/-- How lists are nested: the lengths that all lists of a level share, from the outside in, and
whether these levels hold everything. -/
structure Nesting where
  lengths : List Nat
  even : Bool

namespace Nesting

/-- No list at all. -/
def single : Nesting :=
  ⟨[], true⟩

/-- What two lists have in common at the front. -/
def commonFront : List Nat → List Nat → List Nat
  | a :: as, b :: bs => if a = b then a :: commonFront as bs else []
  | _, _ => []

/-- The levels that two nestings share. -/
def meet (a b : Nesting) : Nesting :=
  ⟨commonFront a.lengths b.lengths, a.even && b.even && a.lengths == b.lengths⟩

/-- The nesting of a list whose items are nested like this. -/
def ofItems : List Nesting → Nesting
  | [] => ⟨[0], true⟩
  | n :: rest =>
    let inner := rest.foldl meet n
    ⟨(rest.length + 1) :: inner.lengths, inner.even⟩

theorem ofItems_replicate_single (n : Nat) :
    ofItems (List.replicate n single) = ⟨[n], true⟩ := by
  cases n with
  | zero => rfl
  | succ n =>
    have h : (List.replicate n single).foldl meet single = single := by
      induction n with
      | zero => rfl
      | succ n ih => exact ih
    rw [List.replicate_succ, ofItems, h, List.length_replicate]
    rfl

end Nesting

namespace Value

mutual

def nesting : Value → Nesting
  | list items => .ofItems (nestings items)
  | _ => .single

def nestings : List Value → List Nesting
  | [] => []
  | v :: rest => v.nesting :: nestings rest

end

mutual

/-- What stands in a value's lists and is no list itself, in order. -/
def cells : Value → List Value
  | list items => cellsOf items
  | v => [v]

def cellsOf : List Value → List Value
  | [] => []
  | v :: rest => v.cells ++ cellsOf rest

end

def isList : Value → Bool
  | list _ => true
  | _ => false

/-- What is no list is its own cell. -/
theorem cells_of_not_isList {v : Value} (h : v.isList = false) : v.cells = [v] := by
  cases v <;> first | rfl | simp [isList] at h

theorem nesting_of_not_isList {v : Value} (h : v.isList = false) : v.nesting = .single := by
  cases v <;> first | rfl | simp [isList] at h

theorem cellsOf_of_not_isList {vs : List Value} (h : ∀ v ∈ vs, v.isList = false) :
    cellsOf vs = vs := by
  induction vs with
  | nil => rfl
  | cons v rest ih =>
    simp [cellsOf, cells_of_not_isList (h v (by simp)), ih fun u hu => h u (by simp [hu])]

theorem nestings_of_not_isList {vs : List Value} (h : ∀ v ∈ vs, v.isList = false) :
    nestings vs = List.replicate vs.length .single := by
  induction vs with
  | nil => rfl
  | cons v rest ih =>
    simp [nestings, nesting_of_not_isList (h v (by simp)), ih fun u hu => h u (by simp [hu]),
      List.replicate_succ]

end Value

/-- Cells along axes, the last axis the one that runs fastest. -/
structure Grid where
  extents : List Nat
  cells : List Value

namespace Grid

/-- The greatest number of axes. -/
def maxAxes : Nat := 64

def ofValue (limit : Nat) (v : Value) : Except Failure Grid :=
  let n := v.nesting
  if n.even && n.lengths.length ≤ limit then .ok ⟨n.lengths, v.cells⟩
  else if n.lengths.length < limit then .error (.unevenLists n.lengths)
  else .error (.tooManyAxes limit)

def ofList (items : List Value) : Except Failure Grid :=
  ofValue maxAxes (.list items)

theorem ofList_of_not_isList {vs : List Value} (h : ∀ v ∈ vs, v.isList = false) :
    ofList vs = .ok ⟨[vs.length], vs⟩ := by
  have hn : (Value.list vs).nesting = ⟨[vs.length], true⟩ := by
    rw [Value.nesting, Value.nestings_of_not_isList h, Nesting.ofItems_replicate_single]
  have hc : (Value.list vs).cells = vs := by
    rw [Value.cells, Value.cellsOf_of_not_isList h]
  simp [ofList, ofValue, hn, hc, maxAxes]

def isFlat (g : Grid) : Bool :=
  g.extents.length = 1

/-- A grid of extents `a` can be stretched to extents `b`. -/
def stretches (a b : List Nat) : Bool :=
  a.length ≤ b.length && (a.reverse.zip b.reverse).all fun p => p.1 = 1 || p.1 = p.2

/-- Grids of two extents can be stretched to common ones. -/
def meets (a b : List Nat) : Bool :=
  (a.reverse.zip b.reverse).all fun p => p.1 = 1 || p.2 = 1 || p.1 = p.2

/-- The number of cells in a grid of these extents. -/
def cellCount (extents : List Nat) : Nat :=
  extents.foldr (· * ·) 1

/-- The extents `a` without their outer axes, of which at most `n` axes are to be left; there are
none if this would lose cells. -/
def innermost? (n : Nat) (a : List Nat) : Option (List Nat) :=
  let inner := a.drop (a.length - n)
  if cellCount inner = cellCount a then some inner else none

/-! What fits and what does not. -/

example : (ofList [.text "a", .none]).toOption.map (·.extents) = some [2] := by decide +kernel
example : (ofList [.list [], .list []]).toOption.map (·.extents) = some [2, 0] := by
  decide +kernel
example : (ofList [.list [.none], .list []]).toOption.map (·.extents) = none := by
  decide +kernel
example : stretches [2] [3, 2] = true ∧ stretches [1, 1] [0] = false := by decide
example : meets [1, 2] [1, 1, 0] = false ∧ meets [3, 1] [3] = true := by decide

end Grid

end LinearDispatch
